import BareMetal.Proofs.Settings.Laid
import BareMetal.Proofs.Settings.Variables

/-!
# One more variable

A variable that is apart from all others may stand anywhere among them
(`ofEnvironment_insert`), and its setting may as well be laid over the whole of
what the others and the layers below them make (`overlay_insert`).
-/

namespace BareMetal.Settings

/-! ## Two settings at paths that are apart -/

theorem entriesOf_table (entries : Layer) : entriesOf (some (.table entries)) = entries := rfl

theorem sorted_entriesOf {lower : Option Setting} (h : ∀ s, lower = some s → s.Ordered) :
    Keyed.Sorted (entriesOf lower) := by
  cases lower with
  | none => exact .nil
  | some s =>
    cases s with
    | table entries => exact Layer.Ordered.sorted (h _ rfl)
    | _ => exact .nil

theorem ordered_bind_find? {lower : Option Setting} (h : ∀ s, lower = some s → s.Ordered) (key : String) :
    ∀ s, (lower.bind fun s => s.find? [key]) = some s → s.Ordered := by
  intro s hs
  obtain ⟨t, ht, hs⟩ := Option.bind_eq_some_iff.mp hs
  cases t with
  | table entries =>
    rw [Setting.find?_single] at hs
    exact Layer.Ordered.of_lookup (h _ ht) hs
  | _ => cases hs

theorem over_nest_comm (x y : Setting) {p q : List String} (h : ¬ p <+: q) (h' : ¬ q <+: p) :
    ∀ lower : Option Setting, (∀ s, lower = some s → s.Ordered) →
      (nest p x).over (some ((nest q y).over lower)) = (nest q y).over (some ((nest p x).over lower)) := by
  induction p generalizing q with
  | nil => exact absurd List.nil_prefix h
  | cons key p ih =>
    intro lower hl
    cases q with
    | nil => exact absurd List.nil_prefix h'
    | cons k q =>
      have hsorted := sorted_entriesOf hl
      simp only [over_nest_cons, Option.bind_some, Setting.find?_single, Keyed.lookup_put, entriesOf_table,
        Setting.table.injEq]
      by_cases hk : key = k
      · subst hk
        rw [List.cons_prefix_cons] at h h'
        simp only [if_true]
        rw [Keyed.put_put _ _ _ hsorted, Keyed.put_put _ _ _ hsorted,
          ih (fun hp => h ⟨rfl, hp⟩) (fun hp => h' ⟨rfl, hp⟩) _ (ordered_bind_find? hl key)]
      · rw [if_neg hk, if_neg (Ne.symm hk), lookup_entriesOf, lookup_entriesOf, Keyed.put_comm hk _ _ hsorted]

theorem overlay_ofVariable {v : Variable} {key : String} {path : List String}
    (h : keyPath? v.1 = some (key :: path)) (layer : Layer) :
    Setting.table (layer.overlay (.ofVariable v)) =
      (nest (key :: path) (.ofText v.2)).over (some (.table layer)) := by
  rw [Layer.ofVariable, h]
  rfl

theorem overlay_comm {v w : Variable} (h : Variable.Apart v w) {layer : Layer} (hl : layer.Ordered) :
    (layer.overlay (.ofVariable v)).overlay (.ofVariable w) =
      (layer.overlay (.ofVariable w)).overlay (.ofVariable v) := by
  cases hv : keyPath? v.1 with
  | none => rw [ofVariable_of_none hv, overlay_nil, overlay_nil]
  | some p =>
    cases hw : keyPath? w.1 with
    | none => rw [ofVariable_of_none hw, overlay_nil, overlay_nil]
    | some q =>
      obtain ⟨hpq, hqp⟩ := h p q hv hw
      cases p with
      | nil => exact absurd List.nil_prefix hpq
      | cons key p =>
        cases q with
        | nil => exact absurd List.nil_prefix hqp
        | cons k q =>
          apply Setting.table.inj
          rw [overlay_ofVariable hw, overlay_ofVariable hv, overlay_ofVariable hv, overlay_ofVariable hw]
          exact over_nest_comm _ _ hqp hpq _ fun s hs => Option.some.inj hs ▸ hl

section

variable {environment before after : List Variable} {v : Variable}

/-- **Where a variable stands does not matter**, if it has nothing to do with the others. -/
theorem ofEnvironment_insert (h : ∀ w ∈ after, Variable.Apart v w) :
    Layer.ofEnvironment (before ++ v :: after) =
      (Layer.ofEnvironment (before ++ after)).overlay (.ofVariable v) := by
  induction after using List.reverseRecOn with
  | nil => rw [List.append_nil, ofEnvironment_snoc]
  | append_singleton after w ih =>
    have hcons : before ++ v :: (after ++ [w]) = (before ++ v :: after) ++ [w] := by simp
    rw [hcons, ← List.append_assoc, ofEnvironment_snoc, ofEnvironment_snoc,
      ih fun u hu => h u (List.mem_append_left _ hu)]
    exact overlay_comm (h w (by simp)) (ordered_ofEnvironment _)

/-! ## Layers below -/

/-- Without a variable on the way to it there is nothing at a path, or a table. -/
theorem table_of_apart {q : List String} (hq : q ≠ [])
    (h : ∀ w ∈ environment, ∀ p, keyPath? w.1 = some p → ¬ p <+: q) :
    ∀ s, (Layer.ofEnvironment environment).at? q = some s → ∃ entries, s = .table entries := by
  induction environment using List.reverseRecOn with
  | nil =>
    intro s hs
    cases q with
    | nil => exact absurd rfl hq
    | cons key q => cases hs
  | append_singleton environment w ih =>
    intro s hs
    have ih' := ih fun w hw => h w (List.mem_append_left _ hw)
    have hw := h w (by simp)
    rw [ofEnvironment_snoc] at hs
    cases hp : keyPath? w.1 with
    | none =>
      rw [ofVariable_of_none hp, overlay_nil] at hs
      exact ih' s hs
    | some p =>
      rw [at?_overlay_ofVariable hp] at hs
      by_cases hbelow : q <+: p
      · obtain ⟨rest, rfl⟩ := hbelow
        have hrest : rest ≠ [] := by
          rintro rfl
          exact hw _ hp (by simp)
        obtain ⟨entries, he⟩ := find?_over_nest_above (Setting.ofText w.2) rest hrest
          (some (.table (Layer.ofEnvironment environment)))
        rw [he] at hs
        exact ⟨entries, (Option.some.inj hs).symm⟩
      · rw [find?_over_nest_beside _ (hw p hp) hbelow] at hs
        exact ih' s hs

/-- On the way along `path` there are tables, as far as there is anything. -/
def TablesAlong (upper : Option Setting) (path : List String) : Prop :=
  ∀ q rest, rest ≠ [] → q ++ rest = path → ∀ s, (upper.bind fun s => s.find? q) = some s →
    ∃ entries, s = .table entries

theorem TablesAlong.next {upper : Option Setting} {key : String} {path : List String}
    (h : TablesAlong upper (key :: path)) : TablesAlong (upper.bind fun s => s.find? [key]) path := by
  intro q rest hrest hq s hs
  apply h (key :: q) rest hrest (by rw [List.cons_append, hq]) s
  rw [Option.bind_assoc] at hs
  rw [← hs]
  apply congrArg
  funext t
  exact Setting.find?_append [key] q t

theorem over_nest_assoc {x : Setting} (hox : x.Ordered) (hx : ∀ entries, x ≠ .table entries) (path : List String) :
    ∀ lower upper : Option Setting, (∀ s, lower = some s → s.Ordered) → (∀ s, upper = some s → s.Ordered) →
      TablesAlong upper path →
        ((nest path x).over upper).over lower = (nest path x).over (laid lower upper) := by
  induction path with
  | nil => intro lower upper _ _ _; simp only [nest, over_of_not_table hx]
  | cons key path ih =>
    intro lower upper hl hu ht
    cases upper with
    | none => rfl
    | some s =>
      obtain ⟨entries, rfl⟩ := ht [] (key :: path) (by simp) rfl s (by simp)
      have hentries := Layer.Ordered.sorted (hu _ rfl)
      obtain ⟨all, hall, hlookup⟩ := table_over hentries lower
      rw [over_nest_cons]
      obtain ⟨all', hall', hlookup'⟩ := table_over (Keyed.sorted_put key ((nest path x).over
        ((some (Setting.table entries)).bind fun s => s.find? [key])) hentries) lower
      have hordered := (hu _ rfl).over lower hl
      rw [entriesOf, hall', laid, hall, over_nest_cons, Setting.table.injEq, entriesOf]
      rw [hall] at hordered
      have hordered' : (Setting.table all').Ordered := by
        rw [← hall']
        exact Setting.Ordered.over (Layer.Ordered.put (hu _ rfl) _
          ((ordered_nest hox path).over _ (ordered_bind_find? hu key))) _ hl
      apply Keyed.Sorted.ext (Layer.Ordered.sorted hordered')
        (Keyed.sorted_put _ _ (Layer.Ordered.sorted hordered))
      intro k
      rw [hlookup', Keyed.lookup_put, Keyed.lookup_put]
      by_cases hk : k = key
      · subst hk
        rw [if_pos rfl, if_pos rfl, laid, Option.bind_some, Option.bind_some, Setting.find?_single,
          Setting.find?_single, hlookup, Option.some.injEq]
        have hnext := ht.next
        rw [Option.bind_some, Setting.find?_single] at hnext
        exact ih _ _ (ordered_bind_find? hl k) (fun s hs => Layer.Ordered.of_lookup (hu _ rfl) hs) hnext
      · rw [if_neg hk, if_neg hk, hlookup]

/-- A variable that is apart from the others may be laid over all that they make of what is below. -/
theorem overlay_insert {base : Layer} (hb : base.Ordered) {key : String} {path : List String}
    (hv : keyPath? v.1 = some (key :: path)) (hx : ∀ entries, Setting.ofText v.2 ≠ .table entries)
    (h : ∀ w ∈ before ++ after, Variable.Apart w v) :
    base.overlay (.ofEnvironment (before ++ v :: after)) =
      (base.overlay (.ofEnvironment (before ++ after))).overlay (.ofVariable v) := by
  have hordered := ordered_ofEnvironment (before ++ after)
  have htables : TablesAlong (some (.table (Layer.ofEnvironment (before ++ after)))) (key :: path) := by
    intro q rest hrest hq s hs
    rw [Option.bind_some] at hs
    cases q with
    | nil =>
      rw [Setting.find?_nil, Option.some.injEq] at hs
      exact ⟨_, hs.symm⟩
    | cons k q =>
      refine table_of_apart (List.cons_ne_nil k q) (fun w hw p hp hon => ?_) s hs
      exact (h w hw p _ hp hv).1 (hon.trans ⟨rest, hq⟩)
  rw [ofEnvironment_insert fun w hw => Std.Symm.symm _ _ (h w (List.mem_append_right _ hw))]
  apply Setting.table.inj
  have hassoc := over_nest_assoc (ordered_ofText v.2) hx (key :: path) (some (.table base))
    (some (.table (Layer.ofEnvironment (before ++ after)))) (fun s hs => Option.some.inj hs ▸ hb)
    (fun s hs => Option.some.inj hs ▸ hordered) htables
  rw [overlay_ofVariable hv]
  rw [← overlay_ofVariable hv] at hassoc
  exact hassoc

end

end BareMetal.Settings

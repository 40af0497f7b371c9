import BareMetal.Proofs.Settings.Path
import BareMetal.Proofs.Text.Pieces
import Mathlib.Data.List.Induction
import Mathlib.Data.List.Pairwise

/-!
# What variables give

A variable gives the setting at its path and, if that is a table, what is inside.
In an environment where no variable is in the way of another the layer of all of
them has what each of them gives: `at?_ofEnvironment`.
-/

namespace BareMetal.Settings

/-- The setting of a variable at its own path, or one inside that at a path below. -/
def Variable.gives? (v : Variable) (path : List String) : Option Setting :=
  match keyPath? v.1 with
  | some p => if p.isPrefixOf path then (Setting.ofText v.2).find? (path.drop p.length) else none
  | none => none

/-- What the variables of an environment give at a path. -/
def givenAt (environment : List Variable) (path : List String) : Option Setting :=
  environment.findSome? fun v => Variable.gives? v path

/-- Some variable has a path below this one. -/
def NamedBelow (environment : List Variable) (path : List String) : Prop :=
  ∃ v ∈ environment, ∃ rest, rest ≠ [] ∧ keyPath? v.1 = some (path ++ rest)

instance (environment : List Variable) (path : List String) : Decidable (NamedBelow environment path) :=
  decidable_of_iff (environment.any fun v => (keyPath? v.1).any fun p => path.isPrefixOf p && p ≠ path) <| by
    simp only [NamedBelow, List.any_eq_true, Option.any_eq_true, Bool.and_eq_true, decide_eq_true_eq,
      List.isPrefixOf_iff_prefix]
    refine exists_congr fun v => and_congr_right fun _ => ⟨?_, ?_⟩
    · rintro ⟨p, hp, ⟨rest, rfl⟩, hne⟩
      refine ⟨rest, ?_, hp⟩
      rintro rfl
      exact hne (List.append_nil path)
    · rintro ⟨rest, hne, hp⟩
      refine ⟨_, hp, List.prefix_append path rest, ?_⟩
      simpa using hne

/-- Some variable names the path or one below it, or gives what is there inside its own setting. -/
def Mentions (environment : List Variable) (path : List String) : Prop :=
  NamedBelow environment path ∨ (givenAt environment path).isSome

instance (environment : List Variable) (path : List String) : Decidable (Mentions environment path) :=
  inferInstanceAs (Decidable (_ ∨ _))

/-- Neither variable names the path of the other, or a path on the way to it. -/
def Variable.Apart (v w : Variable) : Prop :=
  ∀ p q, keyPath? v.1 = some p → keyPath? w.1 = some q → ¬ p <+: q ∧ ¬ q <+: p

instance : Std.Symm Variable.Apart :=
  ⟨fun _ _ h p q hp hq => (h q p hq hp).symm⟩

instance (v w : Variable) : Decidable (Variable.Apart v w) :=
  decidable_of_iff (∀ p ∈ keyPath? v.1, ∀ q ∈ keyPath? w.1, ¬ p <+: q ∧ ¬ q <+: p) <| by
    simp only [Option.mem_def, Variable.Apart]
    exact forall_congr' fun _ => ⟨fun h q hp hq => h hp q hq, fun h hp q hq => h q hp hq⟩

def Independent (environment : List Variable) : Prop := environment.Pairwise Variable.Apart

instance : DecidablePred Independent := fun environment =>
  inferInstanceAs (Decidable (environment.Pairwise Variable.Apart))

/-! ## One variable -/

theorem keyPath?_ne_nil {name : String} {path : List String} (h : keyPath? name = some path) :
    path ≠ [] := by
  unfold keyPath? at h
  dsimp only at h
  split at h
  · split at h
    · cases h
    · rw [← Option.some.inj h, ne_eq, List.map_eq_nil_iff]
      exact Text.pieces_ne_nil _ _
  · cases h

theorem gives?_append {v : Variable} {path : List String} (h : keyPath? v.1 = some path)
    (rest : List String) : Variable.gives? v (path ++ rest) = (Setting.ofText v.2).find? rest := by
  have hp : path.isPrefixOf (path ++ rest) = true :=
    List.isPrefixOf_iff_prefix.mpr (List.prefix_append path rest)
  simp only [Variable.gives?, h, hp, if_true, List.drop_left]

theorem gives?_elsewhere {v : Variable} {path : List String}
    (h : ∀ p, keyPath? v.1 = some p → ¬ p <+: path) : Variable.gives? v path = none := by
  unfold Variable.gives?
  cases hv : keyPath? v.1 with
  | none => rfl
  | some p =>
    have hp : p.isPrefixOf path = false :=
      Bool.eq_false_iff.mpr fun hp => h p hv (List.isPrefixOf_iff_prefix.mp hp)
    simp [hp]

theorem at?_overlay_ofVariable {v : Variable} {path : List String} (h : keyPath? v.1 = some path)
    (layer : Layer) (q : List String) : (layer.overlay (.ofVariable v)).at? q =
      ((nest path (.ofText v.2)).over (some (.table layer))).find? q := by
  cases path with
  | nil => exact absurd rfl (keyPath?_ne_nil h)
  | cons key path =>
    rw [Layer.ofVariable, h]
    rfl

/-! ## Several variables -/

section

variable {environment : List Variable} {v : Variable} {path : List String}

theorem ofEnvironment_snoc (environment : List Variable) (v : Variable) :
    Layer.ofEnvironment (environment ++ [v]) = (Layer.ofEnvironment environment).overlay (.ofVariable v) := by
  rw [Layer.ofEnvironment, List.foldl_append]
  rfl

theorem givenAt_snoc (environment : List Variable) (v : Variable) (path : List String) :
    givenAt (environment ++ [v]) path = (givenAt environment path <|> Variable.gives? v path) := by
  rw [givenAt, List.findSome?_append]
  cases h : Variable.gives? v path <;> simp [givenAt, h]

theorem givenAt_eq_none (h : ∀ w ∈ environment, ∀ p, keyPath? w.1 = some p → ¬ p <+: path) :
    givenAt environment path = none := by
  rw [givenAt, List.findSome?_eq_none_iff]
  exact fun w hw => gives?_elsewhere (h w hw)

theorem namedBelow_snoc : NamedBelow (environment ++ [v]) path ↔
    NamedBelow environment path ∨ ∃ rest, rest ≠ [] ∧ keyPath? v.1 = some (path ++ rest) := by
  simp only [NamedBelow, List.mem_append, List.mem_singleton, or_and_right, exists_or, exists_eq_left]

end

namespace Independent

variable {environment : List Variable} {v : Variable} {path : List String}

theorem not_prefix (h : Independent environment) {w : Variable} (hv : v ∈ environment)
    (hw : w ∈ environment) (hne : v ≠ w) {p q : List String} (hp : keyPath? v.1 = some p)
    (hq : keyPath? w.1 = some q) : ¬ p <+: q :=
  (h.forall hv hw hne p q hp hq).1

theorem snoc (h : Independent (environment ++ [v])) :
    Independent environment ∧ ∀ w ∈ environment, Variable.Apart w v := by
  obtain ⟨hrest, -, hlast⟩ := List.pairwise_append.mp h
  exact ⟨hrest, fun w hw => hlast w hw v (List.mem_singleton_self v)⟩

/-- Nothing is given at a path that goes on. -/
theorem givenAt_of_namedBelow (h : Independent environment) (hb : NamedBelow environment path) :
    givenAt environment path = none := by
  obtain ⟨v, hv, rest, hrest, hq⟩ := hb
  apply givenAt_eq_none
  intro w hw p hp hon
  by_cases hne : w = v
  · subst hne
    cases hp.symm.trans hq
    have hlen := hon.length_le
    rw [List.length_append] at hlen
    exact hrest (List.eq_nil_of_length_eq_zero (by omega))
  · exact h.not_prefix hw hv hne hp hq (hon.trans (List.prefix_append path rest))

/-- **Where a path goes on there is a table, and at any other path what some variable gives.** -/
theorem at?_ofEnvironment (h : Independent environment) (hpath : path ≠ []) :
    (NamedBelow environment path → ∃ entries,
      (Layer.ofEnvironment environment).at? path = some (.table entries)) ∧
    (¬ NamedBelow environment path → (Layer.ofEnvironment environment).at? path = givenAt environment path) := by
  induction environment using List.reverseRecOn generalizing path with
  | nil =>
    refine ⟨fun ⟨_, hv, _⟩ => absurd hv List.not_mem_nil, fun _ => ?_⟩
    cases path with
    | nil => exact absurd rfl hpath
    | cons key path => rfl
  | append_singleton environment v ih =>
    obtain ⟨hrest, hlast⟩ := h.snoc
    have ih' := ih hrest hpath
    rw [ofEnvironment_snoc, namedBelow_snoc, givenAt_snoc]
    cases hv : keyPath? v.1 with
    | none =>
      rw [ofVariable_of_none hv, overlay_nil, gives?_elsewhere (by simp [hv])]
      simpa using ih'
    | some q =>
      rw [at?_overlay_ofVariable hv]
      by_cases habove : q <+: path
      · obtain ⟨r, rfl⟩ := habove
        -- No other variable has to do with the path of this one.
        have hfree : ∀ r, ¬ NamedBelow environment (q ++ r) := by
          rintro r ⟨w, hw, rest, -, hp⟩
          apply (hlast w hw _ q hp hv).2
          rw [List.append_assoc]
          exact List.prefix_append q _
        have hgiven : ∀ r, givenAt environment (q ++ r) = none := by
          intro r
          apply givenAt_eq_none
          intro w hw p hp hon
          rcases List.prefix_or_prefix_of_prefix hon (List.prefix_append q r) with hpq | hqp
          · exact (hlast w hw p q hp hv).1 hpq
          · exact (hlast w hw p q hp hv).2 hqp
        have hlower := (ih hrest (keyPath?_ne_nil hv)).2 (by simpa using hfree [])
        have hq := hgiven []
        rw [List.append_nil] at hq
        rw [hq, Layer.at?] at hlower
        rw [find?_over_nest, Option.bind_some, hlower, hgiven, gives?_append hv]
        refine ⟨fun hb => ?_, fun _ => rfl⟩
        rcases hb with hb | ⟨rest, hne, hq⟩
        · exact absurd hb (hfree r)
        · have hlen := congrArg List.length (Option.some.inj hq)
          simp only [List.length_append] at hlen
          exact absurd (List.eq_nil_of_length_eq_zero (by omega)) hne
      · have helsewhere : Variable.gives? v path = none := gives?_elsewhere (by simpa [hv] using habove)
        rw [helsewhere, Option.orElse_eq_orElse]
        by_cases hbelow : path <+: q
        · obtain ⟨rest, rfl⟩ := hbelow
          have hne : rest ≠ [] := by
            rintro rfl
            rw [List.append_nil] at habove
            exact habove List.prefix_rfl
          exact ⟨fun _ => find?_over_nest_above _ rest hne _, fun hb => absurd (.inr ⟨rest, hne, rfl⟩) hb⟩
        · have hnot : ¬ ∃ rest, rest ≠ [] ∧ some q = some (path ++ rest) := by
            rintro ⟨rest, -, hq⟩
            rw [Option.some.inj hq] at hbelow
            exact hbelow (List.prefix_append path rest)
          rw [find?_over_nest_beside _ habove hbelow, or_iff_left hnot]
          simpa [Layer.at?] using ih'

theorem isSome_at? (h : Independent environment) (hpath : path ≠ []) :
    ((Layer.ofEnvironment environment).at? path).isSome ↔ Mentions environment path := by
  obtain ⟨hbelow, hgiven⟩ := h.at?_ofEnvironment hpath
  unfold Mentions
  by_cases hb : NamedBelow environment path
  · obtain ⟨entries, he⟩ := hbelow hb
    simp [hb, he]
  · simp [hb, hgiven hb]

end Independent

end BareMetal.Settings

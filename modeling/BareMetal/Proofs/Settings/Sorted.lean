import BareMetal.Proofs.Settings.Path

/-!
# Layers are tables sorted by key

Whatever a layer is made from, its tables have their keys in order and each key
once, and laying one over another keeps them so.
-/

namespace BareMetal.Settings

/-- The tables that are reached through tables are sorted. -/
inductive Setting.Ordered : Setting → Prop
  | text (s : String) : Ordered (.text s)
  | flag (b : Bool) : Ordered (.flag b)
  | signed (n : Int) : Ordered (.signed n)
  | unsigned (n : Nat) : Ordered (.unsigned n)
  | real (x : Toml.Real) : Ordered (.real x)
  | list (items : List Setting) : Ordered (.list items)
  | table {entries : Layer} (sorted : Keyed.Sorted entries) (values : ∀ e ∈ entries, e.2.Ordered) :
      Ordered (.table entries)

def Layer.Ordered (layer : Layer) : Prop := (Setting.table layer).Ordered

namespace Layer.Ordered

variable {layer : Layer} (h : layer.Ordered)
include h

theorem sorted : Keyed.Sorted layer := by
  cases h with
  | table sorted _ => exact sorted

theorem values : ∀ e ∈ layer, e.2.Ordered := by
  cases h with
  | table _ values => exact values

theorem of_lookup {key : String} {s : Setting} (hs : layer.lookup key = some s) : s.Ordered :=
  h.values _ (Keyed.mem_of_lookup hs)

theorem put (key : String) {s : Setting} (hs : s.Ordered) : Layer.Ordered (Keyed.put key s layer) := by
  refine .table (Keyed.sorted_put key s h.sorted) fun e he => ?_
  rcases Keyed.mem_put he with rfl | he
  · exact hs
  · exact h.values e he

end Layer.Ordered

theorem Layer.ordered_nil : Layer.Ordered [] := .table .nil (by simp)

/-- If it is a table, its keys are in order. -/
def SortedTable (s : Option Setting) : Prop := ∀ entries, s = some (.table entries) → Keyed.Sorted entries

theorem Setting.Ordered.find?_sorted {s : Setting} (h : s.Ordered) : ∀ path : List String,
    SortedTable (s.find? path) := by
  intro path entries he
  induction path generalizing s with
  | nil =>
    rw [Setting.find?_nil, Option.some.injEq] at he
    subst he
    exact Layer.Ordered.sorted h
  | cons key path ih =>
    cases s with
    | table es =>
      rw [Setting.find?_table] at he
      obtain ⟨t, ht, he⟩ := Option.bind_eq_some_iff.mp he
      exact ih (Layer.Ordered.of_lookup h ht) he
    | _ => cases he

theorem Layer.Ordered.at?_sorted {layer : Layer} (h : layer.Ordered) (path : List String) :
    SortedTable (layer.at? path) :=
  Setting.Ordered.find?_sorted h path

/-! ## Laying over -/

theorem ordered_overlayEntries {upper : Layer} (h : ∀ e ∈ upper, ∀ below : Option Setting,
      (∀ s, below = some s → s.Ordered) → (e.2.over below).Ordered) :
    ∀ {lower : Layer}, lower.Ordered → Layer.Ordered (overlayEntries lower upper) := by
  induction upper with
  | nil =>
    intro lower hl
    rw [overlayEntries]
    exact hl
  | cons e rest ih =>
    intro lower hl
    obtain ⟨key, value⟩ := e
    rw [List.forall_mem_cons] at h
    rw [overlayEntries_cons]
    exact ih h.2 (hl.put key (h.1 _ fun s hs => hl.of_lookup hs))

theorem Setting.Ordered.over {value : Setting} (h : value.Ordered) : ∀ below : Option Setting,
    (∀ s, below = some s → s.Ordered) → (value.over below).Ordered := by
  induction h with
  | table sorted values ih =>
    intro below hb
    cases below with
    | none => exact .table sorted values
    | some s =>
      have hs := hb s rfl
      cases s with
      | table entries => exact ordered_overlayEntries ih hs
      | _ => exact .table sorted values
  | _ =>
    intro below _
    rw [over_of_not_table (by simp)]
    constructor

theorem Layer.Ordered.overlay {lower upper : Layer} (hl : lower.Ordered) (hu : upper.Ordered) :
    (lower.overlay upper).Ordered :=
  ordered_overlayEntries (fun e he => (hu.values e he).over) hl

/-! ## What is built in -/

theorem Layer.ordered_standard : Layer.standard.Ordered := by
  refine .table (by unfold Keyed.Sorted; decide) fun e he => ?_
  simp only [Layer.standard, List.mem_cons, List.not_mem_nil, or_false] at he
  rcases he with rfl | rfl | rfl
  · exact .text _
  · refine .table (by unfold Keyed.Sorted; decide) fun e he => ?_
    simp only [List.mem_cons, List.not_mem_nil, or_false] at he
    rcases he with rfl | rfl | rfl
    · exact .text _
    · exact .flag _
    · exact .unsigned _
  · exact Layer.ordered_nil

/-! ## Files -/

mutual

theorem ordered_ofToml : ∀ v : Toml.Value, (Setting.ofToml v).Ordered
  | .string s => .text s
  | .integer n => .signed n
  | .real x => .real x
  | .boolean b => .flag b
  | .datetime text => .table (List.pairwise_singleton _ _) (by simpa using .text text)
  | .array items => .list _
  | .table entries => .table (Keyed.sorted_ofList _) fun e he => ordered_entriesOfToml entries e (Keyed.mem_ofList he)

theorem ordered_entriesOfToml : ∀ entries : List (String × Toml.Value),
    ∀ e ∈ entriesOfToml entries, e.2.Ordered
  | [], e, he => by
    rw [entriesOfToml] at he
    cases he
  | (key, value) :: rest, e, he => by
    rw [entriesOfToml, List.mem_cons] at he
    rcases he with rfl | he
    · exact ordered_ofToml value
    · exact ordered_entriesOfToml rest e he

end

theorem ordered_ofFile {file : Option String} {layer : Layer} (h : Layer.ofFile file = .ok layer) :
    layer.Ordered := by
  cases file with
  | none =>
    cases h
    exact Layer.ordered_nil
  | some text =>
    rw [Layer.ofFile] at h
    split at h
    · cases h
      exact .table (Keyed.sorted_ofList _) fun e he => ordered_entriesOfToml _ e (Keyed.mem_ofList he)
    · cases h

/-! ## Variables -/

theorem ordered_plain (s : List Char) : (plain s).Ordered := by
  unfold plain
  split
  · exact .real _
  · exact .unsigned _
  · exact .signed _
  · exact .text _

/-- With this much fuel what is read is sorted. -/
structure TakesOrdered (fuel : Nat) : Prop where
  setting {s r : List Char} {v : Setting} (h : takeSetting? fuel s = some (v, r)) : v.Ordered
  entries {acc layer : Layer} {s r : List Char} (ha : acc.Ordered)
    (h : takeEntries? fuel acc s = some (layer, r)) : layer.Ordered

namespace TakesOrdered

variable {fuel : Nat} (ih : TakesOrdered fuel)
include ih

theorem setting_succ {s r : List Char} {v : Setting} (h : takeSetting? (fuel + 1) s = some (v, r)) :
    v.Ordered := by
  rw [takeSetting?] at h
  split at h
  · cases h; exact .flag true
  · cases h; exact .flag false
  · obtain ⟨_, hv, he⟩ := Option.bind_eq_some_iff.mp h
    obtain ⟨⟨entries, _⟩, hes, rfl⟩ := Option.map_eq_some_iff.mp hv
    cases he
    exact ih.entries Layer.ordered_nil hes
  · obtain ⟨_, hv, he⟩ := Option.bind_eq_some_iff.mp h
    obtain ⟨_, -, rfl⟩ := Option.map_eq_some_iff.mp hv
    cases he
    exact .list _
  · obtain ⟨_, hv, he⟩ := Option.bind_eq_some_iff.mp h
    obtain ⟨_, -, rfl⟩ := Option.map_eq_some_iff.mp hv
    cases he
    exact .text _
  · cases h; exact .text _
  · cases h
  · cases h
    exact ordered_plain _

theorem entries_succ {acc layer : Layer} {s r : List Char} (ha : acc.Ordered)
    (h : takeEntries? (fuel + 1) acc s = some (layer, r)) : layer.Ordered := by
  unfold takeEntries? at h
  split at h
  · cases h
    exact ha
  · obtain ⟨⟨key, s'⟩, -, h⟩ := Option.bind_eq_some_iff.mp h
    dsimp only at h
    split at h
    · obtain ⟨⟨v, s''⟩, hv, h⟩ := Option.bind_eq_some_iff.mp h
      have hput := ha.put key (ih.setting hv)
      dsimp only at h
      split at h
      · exact ih.entries hput h
      · cases h
        exact hput
      · cases h
    · cases h

end TakesOrdered

theorem takesOrdered : ∀ fuel : Nat, TakesOrdered fuel
  | 0 => ⟨by simp [takeSetting?], by simp [takeEntries?]⟩
  | fuel + 1 =>
    have ih := takesOrdered fuel
    ⟨ih.setting_succ, ih.entries_succ⟩

theorem ordered_ofText (text : String) : (Setting.ofText text).Ordered := by
  unfold Setting.ofText
  dsimp only
  split
  · rename_i h
    exact (takesOrdered _).setting h
  · exact .text text

theorem ordered_nest {x : Setting} (h : x.Ordered) : ∀ path : List String, (nest path x).Ordered
  | [] => h
  | _ :: path => .table (List.pairwise_singleton _ _) (by simpa using ordered_nest h path)

theorem ordered_ofVariable (v : Variable) : (Layer.ofVariable v).Ordered := by
  unfold Layer.ofVariable
  split
  · exact ordered_nest (ordered_ofText v.2) (_ :: _)
  · exact Layer.ordered_nil

theorem ordered_ofEnvironment (environment : List Variable) :
    (Layer.ofEnvironment environment).Ordered := by
  suffices ∀ layer : Layer, layer.Ordered →
      Layer.Ordered (environment.foldl (fun layer v => layer.overlay (.ofVariable v)) layer) from
    this [] Layer.ordered_nil
  induction environment with
  | nil => exact fun _ h => h
  | cons v rest ih => exact fun layer h => ih _ (h.overlay (ordered_ofVariable v))

end BareMetal.Settings

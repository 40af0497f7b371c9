import BareMetal.Proofs.Settings.Layer

/-!
# Settings by their paths

`Setting.find?` follows a path through tables. A setting that is laid over others
at the end of one path is found there (`find?_over_nest`), with tables above it
(`find?_over_nest_above`), and changes nothing beside it (`find?_over_nest_beside`).
-/

namespace BareMetal.Settings

/-- The setting at the end of a path through tables. -/
def Setting.find? : Setting → List String → Option Setting
  | s, [] => some s
  | .table entries, key :: path => (entries.lookup key).bind fun s => s.find? path
  | _, _ :: _ => none

def Layer.at? (layer : Layer) (path : List String) : Option Setting := (Setting.table layer).find? path

namespace Setting

@[simp]
theorem find?_nil (s : Setting) : s.find? [] = some s := by
  cases s <;> rfl

theorem find?_table (entries : Layer) (key : String) (path : List String) :
    (table entries).find? (key :: path) = (entries.lookup key).bind fun s => s.find? path := rfl

@[simp]
theorem find?_single (entries : Layer) (key : String) : (table entries).find? [key] = entries.lookup key := by
  rw [find?_table]
  cases entries.lookup key <;> simp

theorem find?_append (p q : List String) : ∀ s : Setting,
    s.find? (p ++ q) = (s.find? p).bind fun t => t.find? q := by
  induction p with
  | nil => intro s; simp
  | cons key p ih =>
    intro s
    cases s with
    | table entries =>
      rw [List.cons_append, find?_table, find?_table, Option.bind_assoc]
      apply congrArg
      funext t
      exact ih t
    | _ => rfl

end Setting

theorem Layer.at?_single (layer : Layer) (key : String) : layer.at? [key] = layer.lookup key :=
  Setting.find?_single layer key

theorem Layer.at?_append (layer : Layer) (p q : List String) :
    layer.at? (p ++ q) = (layer.at? p).bind fun t => t.find? q :=
  Setting.find?_append p q _

/-! ## Laying one setting over others -/

/-- The entries of a table; anything else has none. -/
def entriesOf : Option Setting → Layer
  | some (.table entries) => entries
  | _ => []

theorem lookup_entriesOf (lower : Option Setting) (key : String) :
    (entriesOf lower).lookup key = lower.bind fun s => s.find? [key] := by
  cases lower with
  | none => rfl
  | some s =>
    cases s with
    | table entries =>
      rw [Option.bind_some, Setting.find?_single, entriesOf]
    | _ => rfl

theorem over_nest_cons (key : String) (path : List String) (x : Setting) (lower : Option Setting) :
    (nest (key :: path) x).over lower = .table (Keyed.put key
      ((nest path x).over (lower.bind fun s => s.find? [key])) (entriesOf lower)) := by
  rw [← lookup_entriesOf]
  cases lower with
  | none => rfl
  | some s =>
    cases s with
    | table entries =>
      show Setting.table (overlayEntries entries [(key, nest path x)]) = _
      rw [overlayEntries_cons, overlayEntries]
      rfl
    | _ => rfl

theorem find?_over_nest_cons (key : String) (path : List String) (x : Setting) (lower : Option Setting)
    (k : String) (q : List String) : ((nest (key :: path) x).over lower).find? (k :: q) =
      if k = key then ((nest path x).over (lower.bind fun s => s.find? [key])).find? q
      else lower.bind fun s => s.find? (k :: q) := by
  rw [over_nest_cons, Setting.find?_table, Keyed.lookup_put]
  by_cases h : k = key
  · rw [if_pos h, if_pos h, Option.bind_some]
  · rw [if_neg h, if_neg h, lookup_entriesOf, Option.bind_assoc]
    apply congrArg
    funext s
    exact (Setting.find?_append [k] q s).symm

variable (x : Setting)

/-- At the end of its path and below it the setting is found over what was there. -/
theorem find?_over_nest (path q : List String) : ∀ lower : Option Setting,
    ((nest path x).over lower).find? (path ++ q) =
      (x.over (lower.bind fun s => s.find? path)).find? q := by
  induction path with
  | nil => intro lower; simp [nest]
  | cons key path ih =>
    intro lower
    rw [List.cons_append, find?_over_nest_cons, if_pos rfl, ih, Option.bind_assoc]
    apply congrArg (fun below => (x.over (lower.bind below)).find? q)
    funext s
    exact (Setting.find?_append [key] path s).symm

/-- On the way to it there are tables. -/
theorem find?_over_nest_above {q : List String} (rest : List String) (hrest : rest ≠ []) :
    ∀ lower : Option Setting, ∃ entries,
      ((nest (q ++ rest) x).over lower).find? q = some (.table entries) := by
  induction q with
  | nil =>
    intro lower
    cases rest with
    | nil => exact absurd rfl hrest
    | cons key path =>
      rw [List.nil_append, over_nest_cons, Setting.find?_nil]
      exact ⟨_, rfl⟩
  | cons key q ih =>
    intro lower
    rw [List.cons_append, find?_over_nest_cons, if_pos rfl]
    exact ih _

/-- **A setting changes nothing beside it.** -/
theorem find?_over_nest_beside {path q : List String} (h : ¬ path <+: q) (h' : ¬ q <+: path) :
    ∀ lower : Option Setting,
      ((nest path x).over lower).find? q = lower.bind fun s => s.find? q := by
  induction path generalizing q with
  | nil => exact absurd List.nil_prefix h
  | cons key path ih =>
    intro lower
    cases q with
    | nil => exact absurd List.nil_prefix h'
    | cons k q =>
      rw [find?_over_nest_cons]
      by_cases hk : k = key
      · subst hk
        rw [List.cons_prefix_cons] at h h'
        rw [if_pos rfl, ih (fun hp => h ⟨rfl, hp⟩) (fun hp => h' ⟨rfl, hp⟩), Option.bind_assoc]
        apply congrArg
        funext s
        exact (Setting.find?_append [k] q s).symm
      · rw [if_neg hk]

end BareMetal.Settings

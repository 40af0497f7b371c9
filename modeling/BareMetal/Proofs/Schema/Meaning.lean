import BareMetal.Proofs.Number.Value
import BareMetal.Proofs.Schema.Passing
import BareMetal.Text.Utf8
import Mathlib.Algebra.Order.Group.Unbundled.Abs

/-!
# What a checker means

`Satisfies` says of a checker what it asks for, and `Violates` where a value is
not of the type that is wanted there. `satisfies_iff`: a value satisfies a checker
if it violates it nowhere.
-/

namespace BareMetal.Schema

/-! ## Values that satisfy a checker -/

inductive HasType : Expected → Option Json → Prop
  | string (s : String) : HasType .string (some (.string s))
  | int (n : WideInt) : HasType .int (some (.number (.int n)))
  | wholeFloat {x : Binary64} {n : ℤ} (value : x.toRat = n) (small : |n| < 9200000000000000000) :
      HasType .int (some (.number (.float x)))
  | float (n : Json.Number) : HasType .float (some (.number n))
  | bool (b : Bool) : HasType .bool (some (.bool b))
  | list (items : List Json) : HasType .list (some (.list items))
  | map (entries : List (String × Json)) : HasType .map (some (.map entries))

/-- The type that nothing passes a checker without. -/
def Checker.wants? : Checker → Option Expected
  | .any => none
  | .string => some .string
  | .int => some .int
  | .float => some .float
  | .bool => some .bool
  | .nullable _ => none
  | .list _ => some .list
  | .map _ => some .map
  | .fields _ => some .map

/-- A field is looked at if it is required or there. -/
def Applies (entries : List (String × Json)) (f : String × Bool × Checker) : Prop :=
  f.2.1 = true ∨ (entries.lookup f.1).isSome = true

inductive Satisfies : Checker → Option Json → Prop
  | any (v : Option Json) : Satisfies .any v
  | string {v : Option Json} (has : HasType .string v) : Satisfies .string v
  | int {v : Option Json} (has : HasType .int v) : Satisfies .int v
  | float {v : Option Json} (has : HasType .float v) : Satisfies .float v
  | bool {v : Option Json} (has : HasType .bool v) : Satisfies .bool v
  | missing (c : Checker) : Satisfies (.nullable c) none
  | null (c : Checker) : Satisfies (.nullable c) (some .null)
  | inner {c : Checker} {v : Option Json} (inside : Satisfies c v) : Satisfies (.nullable c) v
  | list {c : Checker} {items : List Json} (each : ∀ v ∈ items, Satisfies c (some v)) :
      Satisfies (.list c) (some (.list items))
  | map {c : Checker} {entries : List (String × Json)} (each : ∀ e ∈ entries, Satisfies c (some e.2)) :
      Satisfies (.map c) (some (.map entries))
  | fields {fs : List (String × Bool × Checker)} {entries : List (String × Json)}
      (each : ∀ f ∈ fs, Applies entries f → Satisfies f.2.2 (entries.lookup f.1)) :
      Satisfies (.fields fs) (some (.map entries))

/-! ## Places where a value violates it -/

/-- A child of a value: an item, an entry, or what stands under the name of a declared field. -/
inductive Turn where
  | item (i : Nat)
  | entry (key : String)
  | field (number : Nat) (name : String)

namespace Turn

def step : Turn → Step
  | item i => .index i
  | entry key => .key key
  | field _ name => .key name

inductive Before : Turn → Turn → Prop
  | item {i j : Nat} (lt : i < j) : Before (.item i) (.item j)
  | entry {a b : String} (lt : Utf8.encode a.toList < Utf8.encode b.toList) :
      Before (.entry a) (.entry b)
  | field {i j : Nat} (lt : i < j) (a b : String) : Before (.field i a) (.field j b)

end Turn

/-- What is found at the end of a route where another type is wanted. -/
structure Lapse where
  route : List Turn
  expected : Expected
  found : Option Json

namespace Lapse

def path (l : Lapse) : List Step := l.route.map Turn.step

def under (t : Turn) (l : Lapse) : Lapse := { l with route := t :: l.route }

theorem under_inj {t u : Turn} {l m : Lapse} : l.under t = m.under u ↔ t = u ∧ l = m := by
  cases l
  cases m
  simp [under, and_assoc]

def report (l : Lapse) : Violation := ⟨l.path, l.expected, describe l.found⟩

/-- The routes part where the first one takes the earlier turn. -/
def Precedes (l m : Lapse) : Prop := List.Lex Turn.Before l.route m.route

end Lapse

inductive Violates : Checker → Option Json → Lapse → Prop
  | here {c : Checker} {v : Option Json} {expected : Expected} (wanted : c.wants? = some expected)
      (lacking : ¬ HasType expected v) : Violates c v ⟨[], expected, v⟩
  | nullable {c : Checker} {v : Json} {l : Lapse} (present : v ≠ .null)
      (inside : Violates c (some v) l) : Violates (.nullable c) (some v) l
  | item {c : Checker} {items : List Json} {i : Nat} {v : Json} {l : Lapse}
      (at_index : items[i]? = some v) (inside : Violates c (some v) l) :
      Violates (.list c) (some (.list items)) (l.under (.item i))
  | entry {c : Checker} {entries : List (String × Json)} {key : String} {v : Json} {l : Lapse}
      (at_key : (key, v) ∈ entries) (inside : Violates c (some v) l) :
      Violates (.map c) (some (.map entries)) (l.under (.entry key))
  | field {fs : List (String × Bool × Checker)} {entries : List (String × Json)} {k : Nat}
      {f : String × Bool × Checker} {l : Lapse} (declared : fs[k]? = some f)
      (applies : Applies entries f) (inside : Violates f.2.2 (entries.lookup f.1) l) :
      Violates (.fields fs) (some (.map entries)) (l.under (.field k f.1))

theorem violates_list {c : Checker} {items : List Json} {l : Lapse} :
    Violates (.list c) (some (.list items)) l ↔
      ∃ i v m, items[i]? = some v ∧ Violates c (some v) m ∧ l = m.under (.item i) := by
  constructor
  · intro h
    cases h with
    | here wanted lacking => cases wanted; exact absurd (.list items) lacking
    | item at_index inside => exact ⟨_, _, _, at_index, inside, rfl⟩
  · intro ⟨i, v, m, at_index, inside, h⟩
    exact h ▸ .item at_index inside

theorem violates_map {c : Checker} {entries : List (String × Json)} {l : Lapse} :
    Violates (.map c) (some (.map entries)) l ↔
      ∃ e ∈ entries, ∃ m, Violates c (some e.2) m ∧ l = m.under (.entry e.1) := by
  constructor
  · intro h
    cases h with
    | here wanted lacking => cases wanted; exact absurd (.map entries) lacking
    | entry at_key inside => exact ⟨_, at_key, _, inside, rfl⟩
  · intro ⟨e, at_key, m, inside, h⟩
    exact h ▸ .entry at_key inside

theorem violates_fields {fs : List (String × Bool × Checker)} {entries : List (String × Json)} {l : Lapse} :
    Violates (.fields fs) (some (.map entries)) l ↔
      ∃ k f m, fs[k]? = some f ∧ Applies entries f ∧ Violates f.2.2 (entries.lookup f.1) m ∧
        l = m.under (.field k f.1) := by
  constructor
  · intro h
    cases h with
    | here wanted lacking => cases wanted; exact absurd (.map entries) lacking
    | field declared applies inside => exact ⟨_, _, _, declared, applies, inside, rfl⟩
  · intro ⟨k, f, m, declared, applies, inside, h⟩
    exact h ▸ .field declared applies inside

/-! ## The two are opposites -/

theorem Satisfies.hasType {c : Checker} {v : Option Json} (h : Satisfies c v) {expected : Expected}
    (wanted : c.wants? = some expected) : HasType expected v := by
  cases h with
  | string has | int has | float has | bool has => cases wanted; exact has
  | list each => cases wanted; exact .list _
  | map each | fields each => cases wanted; exact .map _
  | _ => cases wanted

theorem Violates.not_satisfies {c : Checker} {v : Option Json} {l : Lapse} (h : Violates c v l) :
    ¬ Satisfies c v := by
  induction h with
  | here wanted lacking => exact fun hs => lacking (hs.hasType wanted)
  | nullable present inside ih =>
    intro hs
    cases hs with
    | null => exact present rfl
    | inner hs => exact ih hs
  | item at_index inside ih =>
    intro hs
    cases hs with
    | list each => exact ih (each _ (List.mem_of_getElem? at_index))
  | entry at_key inside ih =>
    intro hs
    cases hs with
    | map each => exact ih (each _ at_key)
  | field declared applies inside ih =>
    intro hs
    cases hs with
    | fields each => exact ih (each _ (List.mem_of_getElem? declared) applies)

theorem exists_violates {c : Checker} : ∀ {v : Option Json}, ¬ Satisfies c v → ∃ l, Violates c v l := by
  induction c using Checker.induction with
  | any => exact fun h => absurd (.any _) h
  | string => exact fun h => ⟨_, .here rfl (mt .string h)⟩
  | int => exact fun h => ⟨_, .here rfl (mt .int h)⟩
  | float => exact fun h => ⟨_, .here rfl (mt .float h)⟩
  | bool => exact fun h => ⟨_, .here rfl (mt .bool h)⟩
  | nullable c ih =>
    intro v h
    obtain ⟨l, hl⟩ := ih (mt .inner h)
    cases v with
    | none => exact absurd (.missing c) h
    | some w =>
      refine ⟨l, .nullable ?_ hl⟩
      intro hw
      exact h (hw ▸ .null c)
  -- A container that has its type has a child that does not satisfy its checker.
  | list c ih =>
    intro v h
    by_cases hv : HasType .list v
    · cases hv with
      | list items =>
        obtain ⟨w, hw, hn⟩ : ∃ w ∈ items, ¬ Satisfies c (some w) := by
          by_contra! hall
          exact h (.list hall)
        obtain ⟨l, hl⟩ := ih hn
        obtain ⟨i, hi⟩ := List.getElem?_of_mem hw
        exact ⟨_, .item hi hl⟩
    · exact ⟨_, .here rfl hv⟩
  | map c ih =>
    intro v h
    by_cases hv : HasType .map v
    · cases hv with
      | map entries =>
        obtain ⟨e, he, hn⟩ : ∃ e ∈ entries, ¬ Satisfies c (some e.2) := by
          by_contra! hall
          exact h (.map hall)
        obtain ⟨l, hl⟩ := ih hn
        exact ⟨_, .entry he hl⟩
    · exact ⟨_, .here rfl hv⟩
  | fields fs ih =>
    intro v h
    by_cases hv : HasType .map v
    · cases hv with
      | map entries =>
        obtain ⟨f, hf, ha, hn⟩ :
            ∃ f ∈ fs, Applies entries f ∧ ¬ Satisfies f.2.2 (entries.lookup f.1) := by
          by_contra! hall
          exact h (.fields hall)
        obtain ⟨l, hl⟩ := ih f hf hn
        obtain ⟨k, hk⟩ := List.getElem?_of_mem hf
        exact ⟨_, .field hk ha hl⟩
    · exact ⟨_, .here rfl hv⟩

theorem satisfies_iff {c : Checker} {v : Option Json} : Satisfies c v ↔ ∀ l, ¬ Violates c v l := by
  constructor
  · exact fun hs l hl => hl.not_satisfies hs
  · intro h
    by_contra hs
    obtain ⟨l, hl⟩ := exists_violates hs
    exact h l hl

end BareMetal.Schema

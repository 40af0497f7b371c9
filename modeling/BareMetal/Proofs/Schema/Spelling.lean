import BareMetal.Proofs.Json.Whole
import BareMetal.Proofs.Schema.Passing

/-!
# Checking does not see how a whole number is spelled

`check_wholeFloatsAsInts`: a value and the value with whole floats spelled as
integers pass the same checkers, and fail at the same place for want of the same
type.
-/

namespace BareMetal.Schema

/-- Two checks end alike: both pass, or both miss the same type at the same place. -/
inductive Alike : Except Violation Unit → Except Violation Unit → Prop
  | ok : Alike (.ok ()) (.ok ())
  | error {v w : Violation} (path : v.path = w.path) (expected : v.expected = w.expected) :
      Alike (.error v) (.error w)

theorem Alike.violation (expected : Expected) (v w : Option Json) :
    Alike (violation expected v) (violation expected w) :=
  .error rfl rfl

theorem Alike.under {v w : Violation} {step : Step} (path : v.path = w.path)
    (expected : v.expected = w.expected) : Alike (.error (v.under step)) (.error (w.under step)) :=
  .error (congrArg (step :: ·) path) expected

section

variable {f : Json → Except Violation Unit} {g : Json → Json}

theorem checkItems_alike {items : List Json} (h : ∀ v ∈ items, Alike (f v) (f (g v))) (i : Nat) :
    Alike (checkItems f i items) (checkItems f i (items.map g)) := by
  induction items generalizing i with
  | nil => exact .ok
  | cons v rest ih =>
    rw [List.forall_mem_cons] at h
    obtain ⟨hv, h⟩ := h
    rw [List.map_cons, checkItems, checkItems]
    generalize f v = r, f (g v) = r' at hv
    cases hv with
    | ok => exact ih h (i + 1)
    | error path expected => exact .under path expected

theorem checkEntries_alike {entries : List (String × Json)}
    (h : ∀ e ∈ entries, Alike (f e.2) (f (g e.2))) :
    Alike (checkEntries f entries) (checkEntries f (entries.map fun e => (e.1, g e.2))) := by
  induction entries with
  | nil => exact .ok
  | cons e rest ih =>
    rw [List.forall_mem_cons] at h
    obtain ⟨hv, h⟩ := h
    rw [List.map_cons, checkEntries, checkEntries]
    generalize f e.2 = r, f (g e.2) = r' at hv
    cases hv with
    | ok => exact ih h
    | error path expected => exact .under path expected

end

theorem checkFields_alike {fs : List (String × Bool × Checker)}
    (h : ∀ f ∈ fs, ∀ v, Alike (checkAt f.2.2 v) (checkAt f.2.2 (v.map Json.wholeFloatsAsInts)))
    (entries : List (String × Json)) :
    Alike (checkFields fs entries)
      (checkFields fs (entries.map fun e => (e.1, e.2.wholeFloatsAsInts))) := by
  induction fs with
  | nil => exact .ok
  | cons field rest ih =>
    rw [List.forall_mem_cons] at h
    obtain ⟨name, needed, c⟩ := field
    obtain ⟨hc, h⟩ := h
    have hrest := ih h
    simp only [checkFields, Json.entry?, Json.lookup_wholeFloatsAsInts]
    cases entries.lookup name with
    | none =>
      cases needed with
      | false => exact hrest
      | true =>
        have hn := hc none
        simp only [Option.map_none, if_true] at hn ⊢
        cases checkAt c none with
        | ok u => exact hrest
        | error v => exact .under rfl rfl
    | some v =>
      have hv := hc (some v)
      simp only [Option.map_some] at hv ⊢
      generalize checkAt c (some v) = r, checkAt c (some v.wholeFloatsAsInts) = r' at hv
      cases hv with
      | ok => exact hrest
      | error path expected => exact .under path expected

theorem checkAt_alike (c : Checker) :
    ∀ v : Option Json, Alike (checkAt c v) (checkAt c (v.map Json.wholeFloatsAsInts)) := by
  induction c using Checker.induction with
  | any => exact fun _ => .ok
  | string =>
    rintro (_ | _ | _ | _ | _ | _ | _)
    case some.string => exact .ok
    all_goals exact .violation _ _ _
  | bool =>
    rintro (_ | _ | _ | _ | _ | _ | _)
    case some.bool => exact .ok
    all_goals exact .violation _ _ _
  | float =>
    rintro (_ | _ | _ | _ | _ | _ | _)
    case some.number => exact .ok
    all_goals exact .violation _ _ _
  | int =>
    rintro (_ | _ | _ | n | _ | _ | _)
    case some.number =>
      simp only [Option.map_some, Json.wholeFloatsAsInts_number, checkAt, Json.Number.whole?_wholeAsInt]
      split
      · exact .ok
      · exact .violation _ _ _
    all_goals exact .violation _ _ _
  | nullable c ih =>
    rintro (_ | v)
    · exact .ok
    · have hv := ih (some v)
      cases v with
      | null => exact .ok
      | _ => exact hv
  | list c ih =>
    rintro (_ | _ | _ | _ | _ | items | _)
    case some.list =>
      rw [Option.map_some, Json.wholeFloatsAsInts_list, checkAt, checkAt]
      exact checkItems_alike (fun v _ => ih (some v)) 0
    all_goals exact .violation _ _ _
  | map c ih =>
    rintro (_ | _ | _ | _ | _ | _ | entries)
    case some.map =>
      rw [Option.map_some, Json.wholeFloatsAsInts_map, checkAt, checkAt]
      exact checkEntries_alike fun e _ => ih (some e.2)
    all_goals exact .violation _ _ _
  | fields fs ih =>
    rintro (_ | _ | _ | _ | _ | _ | entries)
    case some.map =>
      rw [Option.map_some, Json.wholeFloatsAsInts_map, checkAt, checkAt]
      exact checkFields_alike ih entries
    all_goals exact .violation _ _ _

theorem check_wholeFloatsAsInts (c : Checker) (v : Json) :
    Alike (check c v) (check c v.wholeFloatsAsInts) :=
  checkAt_alike c (some v)

end BareMetal.Schema

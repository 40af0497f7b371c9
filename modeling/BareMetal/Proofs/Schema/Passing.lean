import BareMetal.Schema.Checker

/-!
# What passes a checker

Induction over checkers and, for each kind of checker, the values that pass it.
-/

namespace BareMetal.Schema

section

variable {P : Checker → Prop} (any : P .any) (string : P .string) (int : P .int) (float : P .float)
  (bool : P .bool) (nullable : ∀ c, P c → P (.nullable c)) (list : ∀ c, P c → P (.list c))
  (map : ∀ c, P c → P (.map c))
  (fields : ∀ fs : List (String × Bool × Checker), (∀ f ∈ fs, P f.2.2) → P (.fields fs))

include any string int float bool nullable list map fields

/-- What holds of a checker whenever it holds of the checkers inside it. -/
theorem Checker.induction (c : Checker) : P c :=
  @Checker.rec P (fun fs => ∀ f ∈ fs, P f.2.2) (fun f => P f.2.2) (fun f => P f.2)
    any string int float bool nullable list map fields
    (by simp) (fun _ _ h t => List.forall_mem_cons.mpr ⟨h, t⟩) (fun _ _ h => h) (fun _ _ h => h) c

end

/-! ## Scalars -/

theorem check_string_eq_ok {v : Json} : check .string v = .ok () ↔ ∃ s, v = .string s := by
  cases v with
  | string s => exact iff_of_true rfl ⟨s, rfl⟩
  | _ => exact iff_of_false nofun (by simp)

theorem check_bool_eq_ok {v : Json} : check .bool v = .ok () ↔ ∃ b, v = .bool b := by
  cases v with
  | bool b => exact iff_of_true rfl ⟨b, rfl⟩
  | _ => exact iff_of_false nofun (by simp)

theorem check_float_eq_ok {v : Json} : check .float v = .ok () ↔ ∃ n, v = .number n := by
  cases v with
  | number n => exact iff_of_true rfl ⟨n, rfl⟩
  | _ => exact iff_of_false nofun (by simp)

theorem check_int_eq_ok {v : Json} :
    check .int v = .ok () ↔ ∃ n k, v = .number n ∧ n.whole? = some k := by
  cases v with
  | number n =>
    rw [check, checkAt]
    cases h : n.whole? with
    | none =>
      refine iff_of_false nofun ?_
      rintro ⟨_, _, hn, hk⟩
      cases hn
      rw [h] at hk
      cases hk
    | some k => exact iff_of_true rfl ⟨n, k, rfl, h⟩
  | _ => exact iff_of_false nofun (by simp)

/-! ## Checkers made of checkers -/

theorem check_nullable_eq_ok {c : Checker} {v : Json} :
    check (.nullable c) v = .ok () ↔ v = .null ∨ check c v = .ok () := by
  cases v with
  | null => exact iff_of_true rfl (.inl rfl)
  | _ => simp [check, checkAt]

theorem checkItems_eq_ok {f : Json → Except Violation Unit} : ∀ {items : List Json} {i : Nat},
    checkItems f i items = .ok () ↔ ∀ v ∈ items, f v = .ok ()
  | [], i => by simp [checkItems]
  | v :: rest, i => by
    rw [List.forall_mem_cons, checkItems, ← checkItems_eq_ok (i := i + 1)]
    cases f v with
    | error e => exact iff_of_false nofun nofun
    | ok u => simp

theorem check_list_eq_ok {c : Checker} {v : Json} :
    check (.list c) v = .ok () ↔ ∃ items, v = .list items ∧ ∀ item ∈ items, check c item = .ok () := by
  cases v with
  | list items =>
    rw [check, checkAt, checkItems_eq_ok]
    constructor
    · exact fun h => ⟨items, rfl, h⟩
    · rintro ⟨_, hi, h⟩
      cases hi
      exact h
  | _ => exact iff_of_false nofun (by simp)

/-- A declared field, by what the map has under its name, passes. -/
def FieldPasses (entries : List (String × Json)) (f : String × Bool × Checker) : Prop :=
  match entries.lookup f.1 with
  | some v => check f.2.2 v = .ok ()
  | none => f.2.1 → checkAt f.2.2 none = .ok ()

theorem checkFields_eq_ok {entries : List (String × Json)} :
    ∀ {fs : List (String × Bool × Checker)},
      checkFields fs entries = .ok () ↔ ∀ f ∈ fs, FieldPasses entries f
  | [] => by simp [checkFields]
  | (name, asked, c) :: rest => by
    rw [List.forall_mem_cons, ← @checkFields_eq_ok entries rest]
    simp only [checkFields, Json.entry?, FieldPasses]
    cases entries.lookup name with
    | some v =>
      simp only [check]
      cases checkAt c (some v) with
      | error e => exact iff_of_false nofun nofun
      | ok u => simp
    | none =>
      cases asked with
      | false => simp
      | true =>
        simp only [if_true, true_imp_iff]
        cases checkAt c none with
        | error e => exact iff_of_false nofun nofun
        | ok u => simp

theorem check_fields_eq_ok {fs : List (String × Bool × Checker)} {v : Json} :
    check (.fields fs) v = .ok () ↔
      ∃ entries, v = .map entries ∧ ∀ f ∈ fs, FieldPasses entries f := by
  cases v with
  | map entries =>
    rw [check, checkAt, checkFields_eq_ok]
    constructor
    · exact fun h => ⟨entries, rfl, h⟩
    · rintro ⟨_, he, h⟩
      cases he
      exact h
  | _ => exact iff_of_false nofun (by simp)

end BareMetal.Schema

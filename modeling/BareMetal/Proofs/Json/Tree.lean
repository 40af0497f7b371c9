import BareMetal.Json.Reader
import BareMetal.Proofs.Except
import BareMetal.Proofs.Keyed

/-!
# JSON values as trees

Induction over values, and the values whose maps are tables sorted by key.
`parse_ordered`: a text is read as such a value.
-/

namespace BareMetal.Json

section

variable {P : Json → Prop} (null : P .null) (bool : ∀ b, P (.bool b)) (number : ∀ n, P (.number n))
  (string : ∀ s, P (.string s)) (list : ∀ items, (∀ v ∈ items, P v) → P (.list items))
  (map : ∀ entries : List (String × Json), (∀ e ∈ entries, P e.2) → P (.map entries))

include null bool number string list map

/-- What holds of a value whenever it holds of the values inside it. -/
theorem induction (v : Json) : P v :=
  @Json.rec P (fun items => ∀ v ∈ items, P v) (fun entries => ∀ e ∈ entries, P e.2) (fun e => P e.2)
    null bool number string list map (by simp) (fun _ _ h t => List.forall_mem_cons.mpr ⟨h, t⟩)
    (by simp) (fun _ _ h t => List.forall_mem_cons.mpr ⟨h, t⟩) (fun _ _ h => h) v

end

/-- Every map in the value is a table in ascending order of its keys, each key once. -/
inductive Ordered : Json → Prop
  | null : Ordered .null
  | bool (b : Bool) : Ordered (.bool b)
  | number (n : Number) : Ordered (.number n)
  | string (s : String) : Ordered (.string s)
  | list {items : List Json} (items_ordered : ∀ v ∈ items, Ordered v) : Ordered (.list items)
  | map {entries : List (String × Json)} (sorted : Keyed.Sorted entries)
      (values_ordered : ∀ e ∈ entries, Ordered e.2) : Ordered (.map entries)

theorem Ordered.items {items : List Json} (h : Ordered (.list items)) : ∀ v ∈ items, v.Ordered := by
  cases h with
  | list h => exact h

theorem Ordered.sorted {entries : List (String × Json)} (h : Ordered (.map entries)) :
    Keyed.Sorted entries := by
  cases h with
  | map h _ => exact h

theorem Ordered.values {entries : List (String × Json)} (h : Ordered (.map entries)) :
    ∀ e ∈ entries, e.2.Ordered := by
  cases h with
  | map _ h => exact h

/-! ## What the reader makes -/

theorem ordered_ofEntries {entries : List (String × Json)} (h : ∀ e ∈ entries, e.2.Ordered) :
    (ofEntries entries).Ordered :=
  .map (Keyed.sorted_ofList entries) fun e he => h e (Keyed.mem_ofList he)

theorem readWord_eq {value v : Json} :
    ∀ {ws s r : List Char}, readWord value ws s = .ok (v, r) → v = value
  | [], _, _, h => by cases h; rfl
  | _ :: _, [], _, h => by cases h
  | w :: ws, c :: s, r, h => by
    simp only [readWord] at h
    split at h
    · exact readWord_eq h
    · cases h

/-- With this much fuel the reader makes ordered values. -/
structure ReadsOrdered (fuel : Nat) : Prop where
  value {depth : Nat} {s r : List Char} {v : Json} (h : readValue fuel depth s = .ok (v, r)) : v.Ordered
  items {depth : Nat} {acc items : List Json} {s r : List Char} (ha : ∀ v ∈ acc, v.Ordered)
    (h : readItems fuel depth acc s = .ok (items, r)) : ∀ v ∈ items, v.Ordered
  entries {depth : Nat} {acc entries : List (String × Json)} {s r : List Char}
    (ha : ∀ e ∈ acc, e.2.Ordered) (h : readEntries fuel depth acc s = .ok (entries, r)) :
    ∀ e ∈ entries, e.2.Ordered

namespace ReadsOrdered

variable {fuel : Nat} (ih : ReadsOrdered fuel)
include ih

theorem value_succ {depth : Nat} {s r : List Char} {v : Json}
    (h : readValue (fuel + 1) depth s = .ok (v, r)) : v.Ordered := by
  rw [readValue] at h
  cases hs : skipBlanks s with
  | nil =>
    rw [hs] at h
    cases h
  | cons c rest =>
    rw [hs] at h
    dsimp only at h
    by_cases hc : c = 'n'
    · rw [if_pos hc] at h
      rw [readWord_eq h]
      exact .null
    rw [if_neg hc] at h
    by_cases hc : c = 't'
    · rw [if_pos hc] at h
      rw [readWord_eq h]
      exact .bool _
    rw [if_neg hc] at h
    by_cases hc : c = 'f'
    · rw [if_pos hc] at h
      rw [readWord_eq h]
      exact .bool _
    rw [if_neg hc] at h
    by_cases hc : c = '-'
    · rw [if_pos hc] at h
      obtain ⟨_, -, he⟩ := Except.map_eq_ok.mp h
      cases he
      exact .number _
    rw [if_neg hc] at h
    by_cases hc : c.isDigit = true
    · rw [if_pos hc] at h
      obtain ⟨_, -, he⟩ := Except.map_eq_ok.mp h
      cases he
      exact .number _
    rw [if_neg hc] at h
    by_cases hc : c = '"'
    · rw [if_pos hc] at h
      obtain ⟨_, -, he⟩ := Except.map_eq_ok.mp h
      cases he
      exact .string _
    rw [if_neg hc] at h
    by_cases hc : c = '['
    · rw [if_pos hc] at h
      split at h
      · cases h
      · obtain ⟨_, hr, he⟩ := Except.map_eq_ok.mp h
        cases he
        exact .list (ih.items (by simp) hr)
    rw [if_neg hc] at h
    by_cases hc : c = '\x7b'
    · rw [if_pos hc] at h
      split at h
      · cases h
      · obtain ⟨_, hr, he⟩ := Except.map_eq_ok.mp h
        cases he
        exact ordered_ofEntries (ih.entries (by simp) hr)
    · rw [if_neg hc] at h
      cases h

theorem items_succ {depth : Nat} {acc items : List Json} {s r : List Char}
    (ha : ∀ v ∈ acc, v.Ordered) (h : readItems (fuel + 1) depth acc s = .ok (items, r)) :
    ∀ v ∈ items, v.Ordered := by
  have hnext {s r : List Char} (h : (readValue fuel depth s >>= fun p =>
      readItems fuel depth (p.1 :: acc) p.2) = .ok (items, r)) : ∀ v ∈ items, v.Ordered := by
    obtain ⟨⟨v, s'⟩, hr, h⟩ := Except.bind_eq_ok.mp h
    exact ih.items (List.forall_mem_cons.mpr ⟨ih.value hr, ha⟩) h
  simp only [readItems] at h
  split at h
  · cases h
  split at h
  · cases h
    exact fun v hm => ha v (List.mem_reverse.mp hm)
  split at h
  · exact hnext h
  split at h
  · split at h
    · cases h
    split at h
    · cases h
    · exact hnext h
  · cases h

theorem entries_succ {depth : Nat} {acc entries : List (String × Json)} {s r : List Char}
    (ha : ∀ e ∈ acc, e.2.Ordered) (h : readEntries (fuel + 1) depth acc s = .ok (entries, r)) :
    ∀ e ∈ entries, e.2.Ordered := by
  have hvalue {key : String} {s r : List Char} (h : (readValue fuel depth s >>= fun p =>
      readEntries fuel depth ((key, p.1) :: acc) p.2) = .ok (entries, r)) :
      ∀ e ∈ entries, e.2.Ordered := by
    obtain ⟨⟨v, s'⟩, hr, h⟩ := Except.bind_eq_ok.mp h
    exact ih.entries (List.forall_mem_cons.mpr ⟨ih.value hr, ha⟩) h
  simp only [readEntries] at h
  split at h
  · cases h
  split at h
  · cases h
    exact fun e hm => ha e (List.mem_reverse.mp hm)
  split at h
  -- The first entry follows the brace, any other one a comma.
  · split at h
    · obtain ⟨⟨key, s'⟩, -, h⟩ := Except.bind_eq_ok.mp h
      dsimp only at h
      split at h
      · cases h
      split at h
      · exact hvalue h
      · cases h
    · cases h
  split at h
  · split at h
    · cases h
    split at h
    · obtain ⟨⟨key, s'⟩, -, h⟩ := Except.bind_eq_ok.mp h
      dsimp only at h
      split at h
      · cases h
      split at h
      · exact hvalue h
      · cases h
    split at h
    · cases h
    · cases h
  · cases h

end ReadsOrdered

theorem readsOrdered : ∀ fuel : Nat, ReadsOrdered fuel
  | 0 => ⟨by simp [readValue], by simp [readItems], by simp [readEntries]⟩
  | fuel + 1 =>
    have ih := readsOrdered fuel
    ⟨ih.value_succ, ih.items_succ, ih.entries_succ⟩

theorem parse_ordered {text : String} {v : Json} (h : parse text = .ok v) : v.Ordered := by
  simp only [parse] at h
  split at h
  · cases h
  · rename_i hr
    split at h
    · cases h
      exact (readsOrdered _).value hr
    · cases h

/-! ## Sorting the maps of a value -/

mutual

/-- The value with the entries of every map in the order of their keys. -/
def arranged : Json → Json
  | .null => .null
  | .bool b => .bool b
  | .number n => .number n
  | .string s => .string s
  | .list items => .list (arrangedItems items)
  | .map entries => ofEntries (arrangedEntries entries)

def arrangedItems : List Json → List Json
  | [] => []
  | v :: rest => arranged v :: arrangedItems rest

def arrangedEntries : List (String × Json) → List (String × Json)
  | [] => []
  | (k, v) :: rest => (k, arranged v) :: arrangedEntries rest

end

@[simp]
theorem arranged_list (items : List Json) : (list items).arranged = .list (items.map arranged) := by
  rw [arranged, Json.list.injEq]
  induction items with
  | nil => rfl
  | cons v rest ih => rw [arrangedItems, ih, List.map_cons]

@[simp]
theorem arranged_map (entries : List (String × Json)) :
    (map entries).arranged = ofEntries (entries.map fun e => (e.1, e.2.arranged)) := by
  rw [arranged]
  apply congrArg
  induction entries with
  | nil => rfl
  | cons e rest ih => rw [arrangedEntries, ih, List.map_cons]

theorem arranged_eq_null {v : Json} : v.arranged = .null ↔ v = .null := by
  cases v <;> simp [arranged, ofEntries]

end BareMetal.Json

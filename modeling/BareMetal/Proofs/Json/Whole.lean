import BareMetal.Proofs.Json.Tree
import BareMetal.Proofs.Keyed
import BareMetal.Proofs.Number.Value
import Mathlib.Data.List.Forall2

/-!
# Spelling whole numbers as integers

`wholeFloatsAsInts` leaves the tree of a value as it is and replaces floats by
integers of the same value (`respelled_wholeFloatsAsInts`). Doing so once is
enough.
-/

namespace BareMetal.Json

/-! ## One number -/

theorem Number.wholeAsInt_of_some {n : Number} {k : WideInt} (h : n.whole? = some k) :
    n.wholeAsInt = .int k := by
  rw [Number.wholeAsInt, h]

theorem Number.wholeAsInt_of_none {n : Number} (h : n.whole? = none) : n.wholeAsInt = n := by
  rw [Number.wholeAsInt, h]

theorem Number.whole?_wholeAsInt (n : Number) : n.wholeAsInt.whole? = n.whole? := by
  cases h : n.whole? with
  | none => rw [Number.wholeAsInt_of_none h, h]
  | some k => rw [Number.wholeAsInt_of_some h, Number.whole?]

theorem Number.wholeAsInt_wholeAsInt (n : Number) : n.wholeAsInt.wholeAsInt = n.wholeAsInt := by
  cases h : n.whole? with
  | none => rw [Number.wholeAsInt_of_none h, Number.wholeAsInt_of_none h]
  | some k =>
    rw [Number.wholeAsInt_of_some h]
    exact Number.wholeAsInt_of_some rfl

/-! ## Lists and maps -/

theorem wholeFloatsAsIntsItems_eq (items : List Json) :
    wholeFloatsAsIntsItems items = items.map wholeFloatsAsInts := by
  induction items with
  | nil => rfl
  | cons v rest ih => rw [wholeFloatsAsIntsItems, ih, List.map_cons]

theorem wholeFloatsAsIntsEntries_eq (entries : List (String × Json)) :
    wholeFloatsAsIntsEntries entries = entries.map fun e => (e.1, e.2.wholeFloatsAsInts) := by
  induction entries with
  | nil => rfl
  | cons e rest ih => rw [wholeFloatsAsIntsEntries, ih, List.map_cons]

@[simp]
theorem wholeFloatsAsInts_list (items : List Json) :
    (Json.list items).wholeFloatsAsInts = .list (items.map wholeFloatsAsInts) := by
  rw [wholeFloatsAsInts, wholeFloatsAsIntsItems_eq]

@[simp]
theorem wholeFloatsAsInts_map (entries : List (String × Json)) :
    (Json.map entries).wholeFloatsAsInts =
      .map (entries.map fun e => (e.1, e.2.wholeFloatsAsInts)) := by
  rw [wholeFloatsAsInts, wholeFloatsAsIntsEntries_eq]

@[simp]
theorem wholeFloatsAsInts_number (n : Number) :
    (Json.number n).wholeFloatsAsInts = .number n.wholeAsInt := rfl

theorem keys_wholeFloatsAsInts (entries : List (String × Json)) :
    (entries.map fun e => (e.1, e.2.wholeFloatsAsInts)).map Prod.fst = entries.map Prod.fst := by
  rw [List.map_map]
  rfl

theorem wholeFloatsAsInts_eq_null {v : Json} : v.wholeFloatsAsInts = .null ↔ v = .null := by
  cases v <;> simp [wholeFloatsAsInts]

theorem lookup_wholeFloatsAsInts (name : String) (entries : List (String × Json)) :
    (entries.map fun e => (e.1, e.2.wholeFloatsAsInts)).lookup name =
      (entries.lookup name).map wholeFloatsAsInts :=
  Keyed.lookup_map wholeFloatsAsInts entries name

/-! ## The whole value -/

theorem wholeFloatsAsInts_idem (v : Json) :
    v.wholeFloatsAsInts.wholeFloatsAsInts = v.wholeFloatsAsInts := by
  induction v using Json.induction with
  | null => rfl
  | bool b => rfl
  | number n => rw [wholeFloatsAsInts_number, wholeFloatsAsInts_number, n.wholeAsInt_wholeAsInt]
  | string s => rfl
  | list items ih =>
    rw [wholeFloatsAsInts_list, wholeFloatsAsInts_list, List.map_map]
    exact congrArg _ (List.map_congr_left ih)
  | map entries ih =>
    rw [wholeFloatsAsInts_map, wholeFloatsAsInts_map, List.map_map]
    exact congrArg _ (List.map_congr_left fun e he => by simp only [Function.comp, ih e he])

theorem Ordered.wholeFloatsAsInts {v : Json} (h : v.Ordered) : v.wholeFloatsAsInts.Ordered := by
  induction v using Json.induction with
  | null => exact .null
  | bool b => exact .bool b
  | number n => exact .number _
  | string s => exact .string s
  | list items ih =>
    rw [wholeFloatsAsInts_list]
    refine .list fun v hv => ?_
    obtain ⟨w, hw, rfl⟩ := List.mem_map.mp hv
    exact ih w hw (h.items w hw)
  | map entries ih =>
    rw [wholeFloatsAsInts_map]
    refine .map ?_ fun e he => ?_
    · unfold Keyed.Sorted
      rw [keys_wholeFloatsAsInts]
      exact h.sorted
    · obtain ⟨e, hm, rfl⟩ := List.mem_map.mp he
      exact ih e hm (h.values e hm)

/-- The second value is the first with floats of whole value and moderate size spelled as integers
of exactly that value; lists have the same elements and maps the same keys in the same order. -/
inductive Respelled : Json → Json → Prop
  | null : Respelled .null .null
  | bool (b : Bool) : Respelled (.bool b) (.bool b)
  | string (s : String) : Respelled (.string s) (.string s)
  | int (n : WideInt) : Respelled (.number (.int n)) (.number (.int n))
  | float {x : Binary64}
      (kept : ∀ n : Int, x.toRat = n → n ≤ -9200000000000000000 ∨ 9200000000000000000 ≤ n) :
      Respelled (.number (.float x)) (.number (.float x))
  | whole {x : Binary64} {k : WideInt} (value : x.toRat = k.val)
      (moderate : -9200000000000000000 < k.val ∧ k.val < 9200000000000000000) :
      Respelled (.number (.float x)) (.number (.int k))
  | list {items items' : List Json} (each : List.Forall₂ Respelled items items') :
      Respelled (.list items) (.list items')
  | map {entries entries' : List (String × Json)}
      (keys : entries'.map Prod.fst = entries.map Prod.fst)
      (each : List.Forall₂ Respelled (entries.map Prod.snd) (entries'.map Prod.snd)) :
      Respelled (.map entries) (.map entries')

theorem respelled_number (n : Number) : Respelled (.number n) (.number n.wholeAsInt) := by
  cases n with
  | int k => exact .int k
  | float x =>
    cases h : x.wideInt? with
    | some k =>
      have hk : (Number.float x).whole? = some k := h
      rw [Number.wholeAsInt_of_some hk]
      obtain ⟨hv, hm⟩ := Binary64.wideInt?_eq_some.mp h
      exact .whole hv hm
    | none =>
      have hk : (Number.float x).whole? = none := h
      rw [Number.wholeAsInt_of_none hk]
      refine .float fun n hn => ?_
      by_contra hm
      simp only [not_or, Int.not_le] at hm
      have := Binary64.wideInt?_eq_some (k := ⟨n, by omega⟩).mpr ⟨hn, hm⟩
      rw [h] at this
      cases this

theorem respelled_wholeFloatsAsInts (v : Json) : Respelled v v.wholeFloatsAsInts := by
  induction v using Json.induction with
  | null => exact .null
  | bool b => exact .bool b
  | number n => exact respelled_number n
  | string s => exact .string s
  | list items ih =>
    rw [wholeFloatsAsInts_list]
    exact .list (List.forall₂_map_right_iff.mpr (List.forall₂_same.mpr ih))
  | map entries ih =>
    rw [wholeFloatsAsInts_map]
    refine .map (keys_wholeFloatsAsInts entries) ?_
    rw [List.map_map, List.forall₂_map_left_iff, List.forall₂_map_right_iff]
    exact List.forall₂_same.mpr ih

end BareMetal.Json

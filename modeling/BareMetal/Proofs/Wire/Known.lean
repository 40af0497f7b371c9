import BareMetal.Proofs.Json.Whole
import BareMetal.Proofs.Wire.Record

/-!
# What a shape knows of a value

A map that stands for a record may have entries that are none of the record's.
`known` leaves them out at every depth, and decoding does not see the difference
(`decode_known`).
-/

namespace BareMetal.Wire

mutual

/-- The value without the entries that its records do not have. -/
def known : Shape → Json → Json
  | .nullable inner, v => known inner v
  | .sequence inner, v =>
    match v with
    | .list items => .list (items.map fun item => known inner item)
    | v => v
  | .record _ fields, v =>
    match v with
    | .map entries => .map (entries.filterMap fun e => (knownEntry fields e.1 e.2).map (Prod.mk e.1))
    | .list items => .list (knownInOrder fields items)
    | v => v
  | _, v => v

def knownEntry : List (String × Bool × Shape) → String → Json → Option Json
  | [], _, _ => none
  | (name, _, s) :: rest, key, v => if name = key then some (known s v) else knownEntry rest key v

def knownInOrder : List (String × Bool × Shape) → List Json → List Json
  | (_, _, s) :: rest, item :: items => known s item :: knownInOrder rest items
  | _, items => items

end

theorem known_sequence_list (s : Shape) (items : List Json) :
    known (.sequence s) (.list items) = .list (items.map (known s)) := rfl

theorem known_record_list (title : String) (fields : List (String × Bool × Shape)) (items : List Json) :
    known (.record title fields) (.list items) = .list (knownInOrder fields items) := rfl

theorem knownEntry_eq (key : String) (v : Json) : ∀ fields : List (String × Bool × Shape),
    knownEntry fields key v = (fields.lookup key).map fun f => known f.2 v
  | [] => rfl
  | (name, isNeeded, s) :: rest => by
    rw [knownEntry, List.lookup_cons]
    by_cases h : name = key
    · simp [h]
    · have hk : (key == name) = false := beq_eq_false_iff_ne.mpr (Ne.symm h)
      rw [if_neg h, hk, knownEntry_eq key v rest]

/-- The entries of a record among those of a map. -/
def knownEntries (fields : List (String × Bool × Shape)) (entries : List (String × Json)) :
    List (String × Json) :=
  entries.filterMap fun e => (fields.lookup e.1).map fun f => (e.1, known f.2 e.2)

theorem known_record_map (title : String) (fields : List (String × Bool × Shape))
    (entries : List (String × Json)) :
    known (.record title fields) (.map entries) = .map (knownEntries fields entries) := by
  simp only [known, knownEntry_eq, Option.map_map]
  rfl

theorem knownEntries_cons (fields : List (String × Bool × Shape)) (e : String × Json)
    (entries : List (String × Json)) : knownEntries fields (e :: entries) =
      match fields.lookup e.1 with
      | some f => (e.1, known f.2 e.2) :: knownEntries fields entries
      | none => knownEntries fields entries := by
  unfold knownEntries
  rw [List.filterMap_cons]
  cases fields.lookup e.1 <;> rfl

theorem lookup_knownEntries {fields : List (String × Bool × Shape)} {name : String} {f : Bool × Shape}
    (hf : fields.lookup name = some f) (entries : List (String × Json)) :
    (knownEntries fields entries).lookup name = (entries.lookup name).map (known f.2) := by
  induction entries with
  | nil => rfl
  | cons e rest ih =>
    rw [knownEntries_cons, List.lookup_cons]
    by_cases h : name = e.1
    · subst h
      simp [hf]
    · have hn : (name == e.1) = false := beq_eq_false_iff_ne.mpr h
      cases fields.lookup e.1 with
      | none => simp [hn, ih]
      | some g => simp [List.lookup_cons, hn, ih]

theorem known_eq_null {s : Shape} {v : Json} : known s v = .null ↔ v = .null := by
  induction s using Shape.induction with
  | nullable s ih => exact ih
  | sequence s ih => cases v <;> simp [known]
  | record title fields ih => cases v <;> simp [known]
  | _ => exact .rfl

/-! ## Decoding -/

theorem fill_known {fields : List (String × Bool × Shape)}
    (h : ∀ f ∈ fields, ∀ v, decode f.2.2 (known f.2.2 v) = decode f.2.2 v) (slots : Slots fields)
    (key : String) (v : Json) :
    fill fields slots key v = match fields.lookup key with
      | some f => fill fields slots key (known f.2 v)
      | none => .ok slots := by
  induction fields with
  | nil => rfl
  | cons f rest ih =>
    obtain ⟨name, isNeeded, s⟩ := f
    rw [List.forall_mem_cons] at h
    rw [List.lookup_cons]
    by_cases hk : name = key
    · simp [fill, hk, h.1]
    · have hn : (key == name) = false := beq_eq_false_iff_ne.mpr (Ne.symm hk)
      simp only [fill, if_neg hk, hn, ih h.2 slots.2]
      cases rest.lookup key <;> rfl

theorem foldlM_fill_known {fields : List (String × Bool × Shape)}
    (h : ∀ f ∈ fields, ∀ v, decode f.2.2 (known f.2.2 v) = decode f.2.2 v)
    (entries : List (String × Json)) : ∀ slots : Slots fields,
      (knownEntries fields entries).foldlM (fun slots (e : String × Json) => fill fields slots e.1 e.2) slots =
        entries.foldlM (fun slots (e : String × Json) => fill fields slots e.1 e.2) slots := by
  induction entries with
  | nil => intro slots; rfl
  | cons e rest ih =>
    intro slots
    rw [knownEntries_cons, List.foldlM_cons, fill_known h]
    cases fields.lookup e.1 with
    | none => exact ih slots
    | some f => simp only [List.foldlM_cons, ih]

theorem length_knownInOrder : ∀ (fields : List (String × Bool × Shape)) (items : List Json),
    (knownInOrder fields items).length = items.length
  | [], items => by rw [knownInOrder]; simp
  | _ :: _, [] => rfl
  | (_, _, s) :: rest, item :: items => by
    rw [knownInOrder, List.length_cons, length_knownInOrder rest items, List.length_cons]

theorem decodeInOrder_known (title : String) (arity : Nat) : ∀ {fields : List (String × Bool × Shape)},
    (∀ f ∈ fields, ∀ v, decode f.2.2 (known f.2.2 v) = decode f.2.2 v) → ∀ (i : Nat) (items : List Json),
      decodeInOrder title arity fields i (knownInOrder fields items) =
        decodeInOrder title arity fields i items
  | [], _, i, items => by rw [knownInOrder]; simp
  | _ :: _, _, i, [] => rfl
  | (_, _, s) :: rest, h, i, item :: items => by
    rw [List.forall_mem_cons] at h
    simp only [knownInOrder, decodeInOrder, h.1, decodeInOrder_known title arity h.2]

/-- **Decoding does not see entries that no record has.** -/
theorem decode_known (s : Shape) : ∀ v : Json, decode s (known s v) = decode s v := by
  induction s using Shape.induction with
  | nullable s ih =>
    intro v
    by_cases hv : v = .null
    · subst hv
      rw [known_eq_null.mpr rfl]
    · rw [decode_nullable hv, decode_nullable (mt known_eq_null.mp hv), known, ih]
  | sequence s ih =>
    intro v
    cases v with
    | list items =>
      rw [known_sequence_list, decode_sequence_list, decode_sequence_list, List.mapM_map]
      exact congrArg (fun f => items.mapM f) (funext ih)
    | _ => rfl
  | record title fields ih =>
    intro v
    cases v with
    | map entries =>
      rw [known_record_map, decode_record_map, decode_record_map, foldlM_fill_known ih]
    | list items =>
      rw [known_record_list, decode_record_list, decode_record_list, decodeInOrder_known title _ ih,
        length_knownInOrder]
    | _ => rfl
  | _ => intro v; rfl

/-! ## Spelling -/

theorem knownInOrder_whole : ∀ {fields : List (String × Bool × Shape)},
    (∀ f ∈ fields, ∀ v, (known f.2.2 v).wholeFloatsAsInts = known f.2.2 v.wholeFloatsAsInts) →
      ∀ items : List Json, (knownInOrder fields items).map Json.wholeFloatsAsInts =
        knownInOrder fields (items.map Json.wholeFloatsAsInts)
  | [], _, items => by simp [knownInOrder]
  | _ :: _, _, [] => rfl
  | (_, _, s) :: rest, h, item :: items => by
    rw [List.forall_mem_cons] at h
    simp only [knownInOrder, List.map_cons, h.1, knownInOrder_whole h.2]

theorem wholeFloatsAsInts_known (s : Shape) : ∀ v : Json,
    (known s v).wholeFloatsAsInts = known s v.wholeFloatsAsInts := by
  induction s using Shape.induction with
  | nullable s ih => exact ih
  | sequence s ih =>
    intro v
    cases v with
    | list items => simp [known_sequence_list, ih]
    | _ => rfl
  | record title fields ih =>
    intro v
    cases v with
    | map entries =>
      simp only [known_record_map, Json.wholeFloatsAsInts_map]
      congr 1
      induction entries with
      | nil => rfl
      | cons e rest hrest =>
        rw [List.map_cons, knownEntries_cons, knownEntries_cons]
        cases hf : fields.lookup e.1 with
        | none => exact hrest
        | some f =>
          have hv := ih (e.1, f) (Keyed.mem_of_lookup hf) e.2
          simp only [List.map_cons, hrest, hv]
    | list items => simp [known_record_list, knownInOrder_whole ih]
    | _ => rfl
  | _ => intro v; cases v <;> rfl

end BareMetal.Wire

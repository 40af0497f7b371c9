import BareMetal.Proofs.Inventory.Lenient
import BareMetal.Proofs.Inventory.ListReading
import BareMetal.Proofs.Schema.Order
import BareMetal.Proofs.Wire.Known
import BareMetal.Proofs.Wire.Place

/-!
# Entries that no record has

A payload may have entries that are unknown to the records it is decoded into.
Neither its schema nor the decoder looks at them. Main statement: `reading_known`.
-/

namespace BareMetal.Wire

open Schema

theorem mem_of_knownEntries {fields : List (String × Bool × Shape)} {entries : List (String × Json)}
    {e : String × Json} (h : e ∈ knownEntries fields entries) : e.1 ∈ fields.map Prod.fst := by
  unfold knownEntries at h
  obtain ⟨x, -, hx⟩ := List.mem_filterMap.mp h
  obtain ⟨f, hf, rfl⟩ := Option.map_eq_some_iff.mp hx
  exact List.mem_map.mpr ⟨_, Keyed.mem_of_lookup hf, rfl⟩

theorem getElem?_knownInOrder : ∀ {fields : List (String × Bool × Shape)} {items : List Json} {i : Nat}
    {f : String × Bool × Shape}, fields[i]? = some f →
      (knownInOrder fields items)[i]? = items[i]?.map (known f.2.2)
  | [], _, _, _, h => by cases h
  | _ :: _, [], _, _, _ => by simp [knownInOrder]
  | (_, _, s) :: rest, item :: items, 0, f, h => by
    cases h
    rfl
  | (_, _, s) :: rest, item :: items, i + 1, f, h => by
    rw [knownInOrder, List.getElem?_cons_succ, List.getElem?_cons_succ]
    exact getElem?_knownInOrder h

/-- No record is left with an entry that it does not have. -/
theorem RecordAt.known_keys {s : Shape} {w : Json} {path : List Step} {title : String}
    {fields : List (String × Bool × Shape)} {entries : List (String × Json)}
    (h : RecordAt s w path title fields entries) : s.regular = true → ∀ v, w = known s v →
      ∀ e ∈ entries, e.1 ∈ fields.map Prod.fst := by
  induction h with
  | here title fields entries =>
    intro _ v hv e he
    cases v with
    | map es =>
      rw [known_record_map, Json.map.injEq] at hv
      exact mem_of_knownEntries (hv ▸ he)
    | _ => cases hv
  | nullable _ ih =>
    intro hr v hv
    rw [Shape.regular, Bool.and_eq_true] at hr
    exact ih hr.2 v hv
  | item at_index _ ih =>
    intro hr v hv
    cases v with
    | list its =>
      rw [known_sequence_list, Json.list.injEq] at hv
      rw [hv, List.getElem?_map, Option.map_eq_some_iff] at at_index
      obtain ⟨u, -, hu⟩ := at_index
      exact ih hr u hu.symm
    | _ => cases hv
  | @entry _ _ x _ _ _ _ _ _ hknown at_name _ ih =>
    intro hr v hv
    obtain ⟨distinct, hrf⟩ := Shape.regular_record.mp hr
    cases v with
    | map es =>
      rw [known_record_map, Json.map.injEq] at hv
      rw [hv, lookup_knownEntries (Keyed.lookup_of_mem distinct hknown), Option.map_eq_some_iff] at at_name
      obtain ⟨u, -, hu⟩ := at_name
      exact ih (hrf x hknown) u hu.symm
    | _ => cases hv
  | @element _ _ x _ _ _ _ _ _ _ hknown at_index _ ih =>
    intro hr v hv
    obtain ⟨-, hrf⟩ := Shape.regular_record.mp hr
    cases v with
    | list its =>
      rw [known_record_list, Json.list.injEq] at hv
      rw [hv, getElem?_knownInOrder hknown, Option.map_eq_some_iff] at at_index
      obtain ⟨u, -, hu⟩ := at_index
      exact ih (hrf x (List.mem_of_getElem? hknown)) u hu.symm
    | _ => cases hv

end BareMetal.Wire

namespace BareMetal.Schema

open Wire

theorem checkFields_known {fields : List (String × Bool × Shape)} (entries : List (String × Json))
    {fs : List (String × Bool × Checker)}
    (h : ∀ f ∈ fs, ∃ g, fields.lookup f.1 = some g ∧ ∀ v, check f.2.2 (known g.2 v) = check f.2.2 v) :
    checkFields fs (knownEntries fields entries) = checkFields fs entries := by
  apply checkFields_congr
  intro f hf
  obtain ⟨g, hg, hc⟩ := h f hf
  rw [lookup_knownEntries hg]
  cases entries.lookup f.1 with
  | none => rfl
  | some v => exact hc v

/-- A checker that a shape satisfies asks for nothing that the shape does not know. -/
theorem check_known {c : Checker} :
    ∀ {s : Shape}, c.admits s = true → ∀ v : Json, check c (known s v) = check c v := by
  induction c using Checker.induction with
  | any => intro s _ v; rfl
  | nullable c ih =>
    intro s ha v
    cases s with
    | nullable s =>
      rw [known]
      by_cases hv : v = .null
      · rw [hv, known_eq_null.mpr rfl]
      · rw [check_nullable hv, check_nullable (mt known_eq_null.mp hv), ih ha]
    | _ => cases ha
  | list c ih =>
    intro s ha v
    cases s with
    | sequence s =>
      cases v with
      | list items =>
        rw [known_sequence_list, check_list, check_list, checkItems_map]
        exact congrArg (fun f => checkItems f 0 items) (funext (ih ha))
      | _ => rfl
    | _ => cases ha
  | map c ih => intro s ha; cases s <;> cases ha
  | fields fs ih =>
    intro s ha v
    cases s with
    | record title fields =>
      cases v with
      | map entries =>
        rw [known_record_map, check_fields, check_fields]
        apply checkFields_known
        intro f hf
        obtain ⟨isNeeded, s, hl, hs, -⟩ := of_fieldsAdmit ha f hf
        exact ⟨(isNeeded, s), hl, ih f hf hs⟩
      | _ => rfl
    | _ => cases ha
  | _ => intro s ha v; cases s <;> first | rfl | cases ha

end BareMetal.Schema

namespace BareMetal.Inventory

open Schema Wire

theorem Kind.checkSchema_known (k : Kind) (p : Json) :
    k.reader.checkSchema k.name (known k.shape p) = k.reader.checkSchema k.name p :=
  congrArg (Except.mapError (ReadFault.schema k.name Api20.label)) (check_known k.admitted p)

theorem Kind.materialize_known (k : Kind) (p : Json) :
    k.reader.materialize k.name (known k.shape p) = k.reader.materialize k.name p := by
  have hb : k.build (known k.shape p) = k.build p := by
    rw [Kind.build_eq, Kind.build_eq, wholeFloatsAsInts_known, decode_known]
  exact congrArg (Except.mapError (ReadFault.build k.name Api20.label)) hb

/-- No outer form tells a payload from what its kind knows of it. -/
theorem Kind.check_map_known (k : Kind) (p : Json) :
    check (.map .any) (known k.shape p) = check (.map .any) p := by
  obtain ⟨title, fields, hk⟩ := k.shape_eq_record
  rw [hk]
  cases p with
  | map entries => rw [known_record_map, check_map_any ⟨_, rfl⟩, check_map_any ⟨_, rfl⟩]
  | _ => rfl

theorem eachElement_map {α β : Type} (kind : String) (f : α → Except ReadFault β) (g : α → α)
    (items : List α) : ∀ i : Nat, eachElement kind f i (items.map g) =
      eachElement kind (fun x => f (g x)) i items := by
  induction items with
  | nil => intro i; rfl
  | cons x rest ih => intro i; simp only [List.map_cons, eachElement, ih]

section

variable (k : Kind) (version : Version)

theorem readOne_known (p : Json) :
    readOne k.table version (known k.shape p) = readOne k.table version p := by
  apply readOne_congr (k.check_map_known p) (check_known k.admitted p)
  intro _
  rw [wholeFloatsAsInts_known, decode_known]

theorem readList_known (items : List Json) :
    readList k.table version (.list (items.map (known k.shape))) =
      readList k.table version (.list items) := by
  simp only [readList, resolveReader, Kind.resolve_table, Kind.table_kind]
  by_cases hv : version20.covers version
  · simp only [hv, if_true, Except.mapError_ok, Except.ok_bind, check_list, checkItems_map,
      eachElement_map, k.check_map_known, k.checkSchema_known, k.materialize_known]
  · simp only [hv]
    rfl

/-- **Unknown entries have no influence.** What its kind knows of a payload has no others, and the
payload is read as that, with the same fault where it cannot be read. So is a list of payloads. -/
theorem reading_known :
    (∀ p path title fields entries, RecordAt k.shape (known k.shape p) path title fields entries →
      ∀ e ∈ entries, e.1 ∈ fields.map Prod.fst) ∧
    (∀ p : Json, readOne k.table version (known k.shape p) = readOne k.table version p) ∧
    ∀ items : List Json, readList k.table version (.list (items.map (known k.shape))) =
      readList k.table version (.list items) :=
  ⟨fun p _ _ _ _ h => h.known_keys k.regular p rfl, readOne_known k version, readList_known k version⟩

end

end BareMetal.Inventory

import BareMetal.Proofs.Inventory.Kind
import BareMetal.Proofs.Inventory.ListReading

/-!
# Reading one payload, stage by stage

A payload of a version that is supported is read in four stages: its outer form,
its schema, decoding and assembly. `Reading` says what comes of it and which
stage it fails at. Main statement: `readOne_eq_iff`.
-/

namespace BareMetal.Inventory

open Schema Wire

/-- What comes of a payload, by the stage that decides it. -/
inductive Reading (k : Kind) (payload : Json) : Except ReadFault k.Entity → Prop
  | notMap (form : ¬ IsMap payload) :
      Reading k payload (.error (.outerForm k.name ⟨[], .map, describe (some payload)⟩))
  | schema {v : Violation} (form : IsMap payload) (violates : check k.schema payload = .error v) :
      Reading k payload (.error (.schema k.name Api20.label v))
  | decode {e : DecodeError} (passes : check k.schema payload = .ok ())
      (fails : decode k.shape payload.wholeFloatsAsInts = .error e) :
      Reading k payload (.error (.build k.name Api20.label (.decode e)))
  | assembly {w : k.shape.Value} {f : AssemblyFault} (passes : check k.schema payload = .ok ())
      (decodes : decode k.shape payload.wholeFloatsAsInts = .ok w) (fails : k.assemble w = .error f) :
      Reading k payload (.error (.build k.name Api20.label (.assembly f)))
  | read {w : k.shape.Value} {e : k.Entity} (passes : check k.schema payload = .ok ())
      (decodes : decode k.shape payload.wholeFloatsAsInts = .ok w) (assembles : k.assemble w = .ok e) :
      Reading k payload (.ok e)

theorem Kind.isMap_of_check {k : Kind} {payload : Json} (h : check k.schema payload = .ok ()) :
    IsMap payload := by
  obtain ⟨fs, hfs⟩ := k.schema_eq_fields
  rw [hfs] at h
  obtain ⟨entries, rfl, -⟩ := check_fields_eq_ok.mp h
  exact ⟨entries, rfl⟩

/-! ## Each stage -/

section

variable {k : Kind} {version : Version} {payload : Json}

theorem readOne_of_unsupported (h : version20.covers version = false) :
    readOne k.table version payload = .error (.unsupported ⟨k.name, version⟩) := by
  simp only [readOne, resolveReader, Kind.resolve_table, h]
  rfl

variable (h : version20.covers version = true)
include h

theorem readOne_of_not_map (form : ¬ IsMap payload) : readOne k.table version payload =
    .error (.outerForm k.name ⟨[], .map, describe (some payload)⟩) := by
  simp only [readOne, resolveReader, Kind.resolve_table, h, check_map_any_of_not form, Kind.table_kind]
  rfl

theorem readOne_of_violation (form : IsMap payload) {v : Violation}
    (violates : check k.schema payload = .error v) :
    readOne k.table version payload = .error (.schema k.name Api20.label v) := by
  have hr : k.table.resolve version = .ok k.reader := by rw [Kind.resolve_table, h, if_pos rfl]
  rw [readOne_of_map hr form, Kind.table_kind, Reader.checkSchema, Kind.reader, violates]
  rfl

theorem readOne_of_pass (passes : check k.schema payload = .ok ()) :
    readOne k.table version payload = (k.build payload).mapError (.build k.name Api20.label) := by
  have hr : k.table.resolve version = .ok k.reader := by rw [Kind.resolve_table, h, if_pos rfl]
  rw [readOne_of_map hr (Kind.isMap_of_check passes), Kind.table_kind, Reader.checkSchema, Kind.reader,
    passes]
  rfl

end

theorem Kind.build_eq (k : Kind) (payload : Json) : k.build payload =
    match decode k.shape payload.wholeFloatsAsInts with
    | .error e => .error (.decode e)
    | .ok w => (k.assemble w).mapError .assembly := by
  unfold Kind.build decodePayload
  cases decode k.shape payload.wholeFloatsAsInts <;> rfl

/-- Payloads that no stage tells apart are read alike. -/
theorem readOne_congr {k : Kind} {version : Version} {p q : Json}
    (form : check (.map .any) p = check (.map .any) q) (schema : check k.schema p = check k.schema q)
    (decodes : check k.schema p = .ok () →
      decode k.shape p.wholeFloatsAsInts = decode k.shape q.wholeFloatsAsInts) :
    readOne k.table version p = readOne k.table version q := by
  simp only [readOne, resolveReader, Kind.resolve_table, Kind.table_kind]
  by_cases hv : version20.covers version
  · simp only [hv, if_true, Except.mapError_ok, Except.ok_bind, Reader.checkSchema, Reader.materialize,
      Kind.reader, Kind.build_eq, form, ← schema]
    cases hc : check k.schema p with
    | error v => rfl
    | ok u => rw [decodes hc]
  · simp only [hv]
    rfl

/-! ## All stages -/

variable {k : Kind} {version : Version} {payload : Json}

theorem Reading.eq {r : Except ReadFault k.Entity} (hr : Reading k payload r)
    (h : version20.covers version = true) : readOne k.table version payload = r := by
  cases hr with
  | notMap form => exact readOne_of_not_map h form
  | schema form violates => exact readOne_of_violation h form violates
  | decode passes fails =>
    rw [readOne_of_pass h passes, Kind.build_eq, fails]
    rfl
  | assembly passes decodes fails =>
    rw [readOne_of_pass h passes, Kind.build_eq, decodes]
    simp only [fails, Except.mapError_error]
  | read passes decodes assembles =>
    rw [readOne_of_pass h passes, Kind.build_eq, decodes]
    simp only [assembles, Except.mapError_ok]

theorem exists_reading (k : Kind) (payload : Json) : ∃ r, Reading k payload r := by
  by_cases form : IsMap payload
  · cases hc : check k.schema payload with
    | error v => exact ⟨_, .schema form hc⟩
    | ok u =>
      cases hd : Wire.decode k.shape payload.wholeFloatsAsInts with
      | error e => exact ⟨_, .decode hc hd⟩
      | ok w =>
        cases ha : k.assemble w with
        | error f => exact ⟨_, .assembly hc hd ha⟩
        | ok e => exact ⟨_, .read hc hd ha⟩
  · exact ⟨_, .notMap form⟩

theorem readOne_eq_iff (h : version20.covers version = true) {r : Except ReadFault k.Entity} :
    readOne k.table version payload = r ↔ Reading k payload r := by
  refine ⟨?_, fun hr => hr.eq h⟩
  rintro rfl
  obtain ⟨r, hr⟩ := exists_reading k payload
  rw [hr.eq h]
  exact hr

theorem readOne_eq_ok_iff (h : version20.covers version = true) {e : k.Entity} :
    readOne k.table version payload = .ok e ↔ check k.schema payload = .ok () ∧
      ∃ w, decode k.shape payload.wholeFloatsAsInts = .ok w ∧ k.assemble w = .ok e := by
  rw [readOne_eq_iff h]
  constructor
  · intro hr
    cases hr with
    | read passes decodes assembles => exact ⟨passes, _, decodes, assembles⟩
  · rintro ⟨passes, w, decodes, assembles⟩
    exact .read passes decodes assembles

/-- What is read has gone through all stages. -/
theorem stages_of_readOne {e : k.Entity} (h : readOne k.table version payload = .ok e) :
    check k.schema payload = .ok () ∧
      ∃ w, decode k.shape payload.wholeFloatsAsInts = .ok w ∧ k.assemble w = .ok e := by
  cases hv : version20.covers version with
  | true => exact (readOne_eq_ok_iff hv).mp h
  | false => cases (readOne_of_unsupported hv).symm.trans h

end BareMetal.Inventory

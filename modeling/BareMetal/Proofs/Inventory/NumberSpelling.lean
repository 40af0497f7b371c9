import BareMetal.Proofs.Inventory.Kind
import BareMetal.Proofs.Schema.Spelling

/-!
# Reading does not see how a whole number is spelled

Schemas are checked on a payload as it came, records are decoded from the
payload with whole floats spelled as integers. Main statement:
`reading_wholeFloatsAsInts`, the two spellings are read alike.
-/

namespace BareMetal.Inventory

open Schema

theorem Kind.build_wholeFloatsAsInts (k : Kind) (p : Json) :
    k.build p.wholeFloatsAsInts = k.build p := by
  simp only [Kind.build, decodePayload, Json.wholeFloatsAsInts_idem]

/-- The payload was refused before anything was decoded. -/
inductive Refused {α : Type} : Except ReadFault α → Prop
  | outerForm (kind : String) (v : Violation) : Refused (.error (.outerForm kind v))
  | schema (kind label : String) (v : Violation) : Refused (.error (.schema kind label v))

theorem readOne_wholeFloatsAsInts (k : Kind) (version : Version) (p : Json) :
    readOne k.table version p.wholeFloatsAsInts = readOne k.table version p ∨
      Refused (readOne k.table version p) ∧
        Refused (readOne k.table version p.wholeFloatsAsInts) := by
  simp only [readOne, resolveReader, Kind.resolve_table, Kind.table_kind]
  by_cases hv : version20.covers version
  · have hf := check_wholeFloatsAsInts (.map .any) p
    have hs := check_wholeFloatsAsInts k.schema p
    simp only [hv, if_true, Except.mapError_ok, Except.ok_bind, Reader.checkSchema, Reader.materialize,
      Kind.reader, Kind.build_wholeFloatsAsInts]
    generalize check (.map .any) p = f, check (.map .any) p.wholeFloatsAsInts = f' at hf
    generalize check k.schema p = s, check k.schema p.wholeFloatsAsInts = s' at hs
    cases hf with
    | error => exact .inr ⟨.outerForm _ _, .outerForm _ _⟩
    | ok =>
      cases hs with
      | error => exact .inr ⟨.schema _ _ _, .schema _ _ _⟩
      | ok => exact .inl rfl
  · simp only [hv]
    exact .inl rfl

/-- **The two spellings of whole numbers are read alike.** Spelling whole floats as integers keeps
the tree and the values of the numbers, and once is enough. A checker passes both or fails on both
at one place and for want of one type; every reader makes the same entity of both or, past the
schema, fails on both with the same fault. -/
theorem reading_wholeFloatsAsInts (p : Json) :
    Json.Respelled p p.wholeFloatsAsInts ∧
    p.wholeFloatsAsInts.wholeFloatsAsInts = p.wholeFloatsAsInts ∧
    (∀ c, Alike (check c p) (check c p.wholeFloatsAsInts)) ∧
    ∀ (k : Kind) (version : Version),
      (∀ e, readOne k.table version p = .ok e ↔
        readOne k.table version p.wholeFloatsAsInts = .ok e) ∧
      ∀ kind label f, readOne k.table version p = .error (.build kind label f) ↔
        readOne k.table version p.wholeFloatsAsInts = .error (.build kind label f) := by
  refine ⟨Json.respelled_wholeFloatsAsInts p, Json.wholeFloatsAsInts_idem p,
    fun c => check_wholeFloatsAsInts c p, fun k version => ?_⟩
  rcases readOne_wholeFloatsAsInts k version p with h | ⟨hp, hq⟩
  · rw [h]
    exact ⟨fun e => .rfl, fun kind label f => .rfl⟩
  · have hne {r r' : Except ReadFault k.Entity} (hr : Refused r) (hr' : ¬ Refused r') : r ≠ r' := by
      rintro rfl
      exact hr' hr
    refine ⟨fun e => ?_, fun kind label f => ?_⟩
    · have hn : ¬ Refused (.ok e : Except ReadFault k.Entity) := nofun
      exact iff_of_false (hne hp hn) (hne hq hn)
    · have hn : ¬ Refused (.error (.build kind label f) : Except ReadFault k.Entity) := nofun
      exact iff_of_false (hne hp hn) (hne hq hn)

end BareMetal.Inventory

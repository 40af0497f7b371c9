import BareMetal.Proofs.Inventory.Lenient

/-!
# Reading what was encoded

A payload that is read is decoded into a wire record. The encoding of that record
has every field, the absent ones as null and the defaults written out, and is
another payload than the one that was read. Main statement: `readOne_encode`, it
is read into the same entity.
-/

namespace BareMetal.Inventory

open Schema Wire

/-- **The encoding of what was read is read again**, into the same entity: it passes the schema, it
decodes to the same wire record and that is assembled as before. -/
theorem readOne_encode (k : Kind) {version : Version} {p : Json} (ho : p.Ordered) {e : k.Entity}
    (h : readOne k.table version p = .ok e) :
    ∃ w, decode k.shape p.wholeFloatsAsInts = .ok w ∧
      check k.schema (encode k.shape w).arranged = .ok () ∧
      decode k.shape (encode k.shape w).arranged.wholeFloatsAsInts = .ok w ∧
      readOne k.table version (encode k.shape w).arranged = .ok e := by
  cases hv : version20.covers version with
  | false => cases (readOne_of_unsupported hv).symm.trans h
  | true =>
    obtain ⟨passes, w, decodes, assembles⟩ := (readOne_eq_ok_iff hv).mp h
    have hfits : Fits k.shape p := fits_of_check k.guarded passes
    have hpass : check k.schema (encode k.shape w).arranged = .ok () :=
      check_of_fits k.admitted (fits_encode k.regular w)
    have hdecode : decode k.shape (encode k.shape w).arranged.wholeFloatsAsInts = .ok w :=
      hfits.rereads k.regular ho decodes
    exact ⟨w, decodes, hpass, hdecode, (readOne_eq_ok_iff hv).mpr ⟨hpass, w, hdecode, assembles⟩⟩

/-- A payload with two entries left out and the encoding that has them. -/
theorem readOne_encode_terseDomain : ∃ e,
    readOne Kind.domain.table version20 terseDomain = .ok e ∧
    ∃ w, encode Kind.domain.shape w = .map [
        ("id", .number (.int ⟨0, by decide⟩)),
        ("name", .string "maas"),
        ("resource_uri", .string "/MAAS/api/2.0/domains/0/"),
        ("authoritative", .bool false),
        ("resource_record_count", .number (.int ⟨4, by decide⟩)),
        ("ttl", .null)] ∧
      readOne Kind.domain.table version20 (encode Kind.domain.shape w).arranged = .ok e := by
  obtain ⟨e, he⟩ : ∃ e, readOne Kind.domain.table version20 terseDomain = .ok e := ⟨_, rfl⟩
  obtain ⟨w, hw, -, -, hr⟩ := readOne_encode .domain terseDomain_ordered he
  refine ⟨e, he, w, ?_, hr⟩
  cases hw
  rfl

end BareMetal.Inventory

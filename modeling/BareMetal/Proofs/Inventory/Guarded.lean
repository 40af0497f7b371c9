import BareMetal.Proofs.Inventory.Kind
import BareMetal.Proofs.Schema.Passing
import BareMetal.Proofs.Wire.Integers

/-!
# Schemas guard the decoder

A schema and a wire record say of the same payloads what they look like.
`Shape.guardedBy` compares the two descriptions field by field. Main statement:
`decode_of_check`, a payload that passes the schema of its kind decodes, or an
integer in it is outside its word.
-/

namespace BareMetal.Wire

open Schema

/-! ## Comparing shapes with checkers -/

mutual

/-- Whatever passes the checker has the form of the shape. -/
def Shape.guardedBy : Shape → Checker → Bool
  | .text, .string => true
  | .flag, .bool => true
  | .integer _, .int => true
  | .real, .float => true
  | .nullable s, .nullable c => s.guardedBy c
  | .sequence s, .list c => s.guardedBy c
  | .record _ fields, .fields fs => decide (fields.map Prod.fst).Nodup && fieldsGuardedBy fields fs
  | _, _ => false

/-- Each field is declared in the schema; a needed field does not pass there if it is missing. -/
def fieldsGuardedBy : List (String × Bool × Shape) → List (String × Bool × Checker) → Bool
  | [], _ => true
  | (name, isNeeded, s) :: rest, fs =>
    (match fs.lookup name with
      | some (asked, c) => s.guardedBy c && (!isNeeded || (asked && !(checkAt c none).isOk))
      | none => false) && fieldsGuardedBy rest fs

end

theorem of_fieldsGuardedBy {fs : List (String × Bool × Checker)} :
    ∀ {fields : List (String × Bool × Shape)}, fieldsGuardedBy fields fs = true → ∀ f ∈ fields,
      ∃ asked c, fs.lookup f.1 = some (asked, c) ∧ f.2.2.guardedBy c = true ∧
        (f.2.1 = true → asked = true ∧ checkAt c none ≠ .ok ())
  | [], _, f, hf => by cases hf
  | (name, isNeeded, s) :: rest, h, f, hf => by
    rw [fieldsGuardedBy, Bool.and_eq_true] at h
    rcases List.mem_cons.mp hf with rfl | hf
    · have hh := h.1
      cases hl : fs.lookup name with
      | none =>
        rw [hl] at hh
        cases hh
      | some found =>
        obtain ⟨asked, c⟩ := found
        simp only [hl, Bool.and_eq_true, Bool.or_eq_true, Bool.not_eq_true'] at hh
        refine ⟨asked, c, rfl, hh.1, fun hn => ?_⟩
        rcases hh.2 with hf | ⟨ha, hm⟩
        · cases hf.symm.trans hn
        · refine ⟨ha, fun hok => ?_⟩
          rw [hok] at hm
          cases hm
    · exact of_fieldsGuardedBy h.2 f hf

theorem fits_of_check {s : Shape} :
    ∀ {c : Checker} {v : Json}, s.guardedBy c = true → check c v = .ok () → Fits s v := by
  induction s using Shape.induction with
  | text =>
    intro c v hg h
    cases c with
    | string =>
      obtain ⟨s, rfl⟩ := check_string_eq_ok.mp h
      exact .text s
    | _ => cases hg
  | flag =>
    intro c v hg h
    cases c with
    | bool =>
      obtain ⟨b, rfl⟩ := check_bool_eq_ok.mp h
      exact .flag b
    | _ => cases hg
  | integer w =>
    intro c v hg h
    cases c with
    | int =>
      obtain ⟨n, k, rfl, hk⟩ := check_int_eq_ok.mp h
      exact .integer w hk
    | _ => cases hg
  | real =>
    intro c v hg h
    cases c with
    | float =>
      obtain ⟨n, rfl⟩ := check_float_eq_ok.mp h
      exact .real n
    | _ => cases hg
  | nullable s ih =>
    intro c v hg h
    cases c with
    | nullable c =>
      rcases check_nullable_eq_ok.mp h with rfl | h
      · exact .null s
      · exact .present (ih hg h)
    | _ => cases hg
  | sequence s ih =>
    intro c v hg h
    cases c with
    | list c =>
      obtain ⟨items, rfl, hitems⟩ := check_list_eq_ok.mp h
      exact .sequence fun item hi => ih hg (hitems item hi)
    | _ => cases hg
  | record title fields ih =>
    intro c v hg h
    cases c with
    | fields fs =>
      obtain ⟨entries, rfl, hpass⟩ := check_fields_eq_ok.mp h
      rw [Shape.guardedBy, Bool.and_eq_true, decide_eq_true_eq] at hg
      refine .record hg.1 (fun f hf v hv => ?_) (fun f hf hn => ?_)
      · obtain ⟨asked, c, hl, hc, -⟩ := of_fieldsGuardedBy hg.2 f hf
        have hp := hpass _ (Keyed.mem_of_lookup hl)
        simp only [FieldPasses, hv] at hp
        exact ih f hf hc hp
      · obtain ⟨asked, c, hl, -, hm⟩ := of_fieldsGuardedBy hg.2 f hf
        have hp := hpass _ (Keyed.mem_of_lookup hl)
        obtain ⟨ha, hc⟩ := hm hn
        cases hv : entries.lookup f.1 with
        | some v => rfl
        | none =>
          simp only [FieldPasses, hv] at hp
          exact absurd (hp ha) hc
    | _ => cases hg

end BareMetal.Wire

namespace BareMetal.Inventory

open Schema Wire

/-- The two descriptions of each kind agree, at every depth. -/
theorem Kind.guarded (k : Kind) : k.shape.guardedBy k.schema = true := by
  cases k <;> rfl

/-- **A payload that passes its schema decodes, or an integer in it is outside its word.** The
integer that is reported is the first one that its word does not hold, in the order of the payload;
what is decoded is the payload with whole floats as integers. A payload that was read from a text is
ordered by `Json.parse_ordered`. -/
theorem decode_of_check (k : Kind) {payload : Json} (ho : payload.Ordered)
    (h : check k.schema payload = .ok ()) :
    ((∀ e ∈ integersAt k.shape payload, e.2.Holds e.1) ∧
      ∃ w, decode k.shape payload.wholeFloatsAsInts = .ok w) ∨
    ∃ before n w after, integersAt k.shape payload = before ++ (n, w) :: after ∧
      (∀ e ∈ before, e.2.Holds e.1) ∧ ¬ w.Holds n ∧
      decode k.shape payload.wholeFloatsAsInts = .error (.invalidValue n w) ∧
      (DecodeError.invalidValue n w).message =
        "invalid value: integer \x60" ++ toString n ++ "\x60, expected " ++ w.name := by
  have hfits : Fits k.shape payload := fits_of_check k.guarded h
  have hs := hfits.settles ho
  generalize decode k.shape payload.wholeFloatsAsInts = r at hs
  generalize integersAt k.shape payload = ints at hs
  cases hs with
  | ok held x => exact .inl ⟨held, x, rfl⟩
  | error held stray after =>
    exact .inr ⟨_, _, _, after, rfl, held, stray, rfl, rfl⟩

/-- Two integers are outside their words here, the unit of transmission and the tag. -/
def strayVlan : Json := .map [
  ("dhcp_on", .bool false),
  ("fabric", .string "fabric-0"),
  ("id", .number (.int ⟨5001, by decide⟩)),
  ("mtu", .number (.int ⟨-1, by decide⟩)),
  ("name", .string "untagged"),
  ("resource_uri", .string "/MAAS/api/2.0/vlans/5001/"),
  ("vid", .number (.int ⟨70000, by decide⟩))]

theorem strayVlan_ordered : strayVlan.Ordered := by
  refine .map ?_ fun e he => ?_
  · unfold Keyed.Sorted
    decide
  · simp only [List.mem_cons, List.not_mem_nil, or_false] at he
    rcases he with rfl | rfl | rfl | rfl | rfl | rfl | rfl
    · exact .bool _
    · exact .string _
    · exact .number _
    · exact .number _
    · exact .string _
    · exact .string _
    · exact .number _

theorem decode_strayVlan : strayVlan.Ordered ∧ check Kind.vlan.schema strayVlan = .ok () ∧
    ∃ n w, ¬ w.Holds n ∧
      decode Kind.vlan.shape strayVlan.wholeFloatsAsInts = .error (.invalidValue n w) := by
  refine ⟨strayVlan_ordered, rfl, ?_⟩
  rcases decode_of_check .vlan strayVlan_ordered rfl with ⟨held, -⟩ | h
  · have hmem : (-1, Word.u32) ∈ integersAt Kind.vlan.shape strayVlan := by
      decide
    exact absurd (held _ hmem) (by decide)
  · obtain ⟨before, n, w, after, -, -, stray, he, -⟩ := h
    exact ⟨n, w, stray, he⟩

end BareMetal.Inventory

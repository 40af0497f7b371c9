import BareMetal.Proofs.Inventory.Guarded
import BareMetal.Proofs.Inventory.Stages
import BareMetal.Proofs.Wire.Rereading

/-!
# Schemas ask for no more than the decoder

The comparison of `Shape.guardedBy` in the other direction: `Checker.admits` says
that what has the form of a shape passes the checker. Main statement:
`check_of_decode`, what decodes passes its schema, except for the lists that the
decoder takes for records. No reader takes those.
-/

namespace BareMetal.Schema

open Wire

mutual

/-- Whatever has the form of the shape passes the checker. -/
def Checker.admits : Checker → Shape → Bool
  | .any, _ => true
  | .string, .text => true
  | .int, .integer _ => true
  | .float, .real => true
  | .bool, .flag => true
  | .nullable c, .nullable s => c.admits s
  | .list c, .sequence s => c.admits s
  | .fields fs, .record _ fields => fieldsAdmit fs fields
  | _, _ => false

/-- Each field of the schema is one of the record; a field that the record may lack passes there if
it is missing. -/
def fieldsAdmit : List (String × Bool × Checker) → List (String × Bool × Shape) → Bool
  | [], _ => true
  | (name, asked, c) :: rest, fields =>
    (match fields.lookup name with
      | some (isNeeded, s) => c.admits s && (isNeeded || !asked || (checkAt c none).isOk)
      | none => false) && fieldsAdmit rest fields

end

theorem of_fieldsAdmit {fields : List (String × Bool × Shape)} :
    ∀ {fs : List (String × Bool × Checker)}, fieldsAdmit fs fields = true → ∀ f ∈ fs,
      ∃ isNeeded s, fields.lookup f.1 = some (isNeeded, s) ∧ f.2.2.admits s = true ∧
        (isNeeded = false → f.2.1 = true → checkAt f.2.2 none = .ok ())
  | [], _, f, hf => by cases hf
  | (name, asked, c) :: rest, h, f, hf => by
    rw [fieldsAdmit, Bool.and_eq_true] at h
    rcases List.mem_cons.mp hf with rfl | hf
    · have hh := h.1
      cases hl : fields.lookup name with
      | none =>
        rw [hl] at hh
        cases hh
      | some found =>
        obtain ⟨isNeeded, s⟩ := found
        simp only [hl, Bool.and_eq_true] at hh
        refine ⟨isNeeded, s, rfl, hh.1, ?_⟩
        rintro rfl rfl
        have hm := hh.2
        simp only [Bool.not_true, Bool.or_false, Bool.false_or] at hm
        cases hc : checkAt c none with
        | ok u => rfl
        | error e =>
          rw [hc] at hm
          cases hm
    · exact of_fieldsAdmit h.2 f hf

theorem check_of_fits {c : Checker} :
    ∀ {s : Shape} {v : Json}, c.admits s = true → Fits s v → check c v = .ok () := by
  induction c using Checker.induction with
  | any => exact fun _ _ => rfl
  | string =>
    intro s v ha hf
    cases hf with
    | text t => exact check_string_eq_ok.mpr ⟨t, rfl⟩
    | _ => cases ha
  | int =>
    intro s v ha hf
    cases hf with
    | integer w whole => exact check_int_eq_ok.mpr ⟨_, _, rfl, whole⟩
    | _ => cases ha
  | float =>
    intro s v ha hf
    cases hf with
    | real n => exact check_float_eq_ok.mpr ⟨n, rfl⟩
    | _ => cases ha
  | bool =>
    intro s v ha hf
    cases hf with
    | flag b => exact check_bool_eq_ok.mpr ⟨b, rfl⟩
    | _ => cases ha
  | nullable c ih =>
    intro s v ha hf
    cases hf with
    | null => exact check_nullable_eq_ok.mpr (.inl rfl)
    | present hf => exact check_nullable_eq_ok.mpr (.inr (ih ha hf))
    | _ => cases ha
  | list c ih =>
    intro s v ha hf
    cases hf with
    | sequence each => exact check_list_eq_ok.mpr ⟨_, rfl, fun item hi => ih ha (each item hi)⟩
    | _ => cases ha
  | map c ih =>
    intro s v ha hf
    cases hf <;> cases ha
  | fields fs ih =>
    intro s v ha hf
    cases hf with
    | @record title fields entries distinct known complete =>
      refine check_fields_eq_ok.mpr ⟨entries, rfl, fun f hm => ?_⟩
      obtain ⟨isNeeded, s, hl, has, hmissing⟩ := of_fieldsAdmit ha f hm
      have hs : (f.1, isNeeded, s) ∈ fields := Keyed.mem_of_lookup hl
      unfold FieldPasses
      cases hv : entries.lookup f.1 with
      | some v => exact ih f hm has (known _ hs v hv)
      | none =>
        refine fun hasked => hmissing ?_ hasked
        by_contra hn
        rw [Bool.not_eq_false] at hn
        have hsome := complete _ hs hn
        rw [hv] at hsome
        cases hsome
    | _ => cases ha

end BareMetal.Schema

namespace BareMetal.Inventory

open Schema Wire

/-- The two descriptions of each kind agree in this direction too, at every depth. -/
theorem Kind.admitted (k : Kind) : k.schema.admits k.shape = true := by
  cases k <;> rfl

theorem Kind.regular (k : Kind) : k.shape.regular = true := by
  cases k <;> rfl

theorem Kind.positional (k : Kind) (items : List Json) : Positional k.shape (.list items) := by
  cases k <;> exact .here _ _ items

theorem readOne_of_mem_readList {k : Kind} {version : Version} {items : List Json} {es : List k.Entity}
    (h : readList k.table version (.list items) = .ok es) :
    ∀ p ∈ items, ∃ e, readOne k.table version p = .ok e := by
  obtain ⟨_, hitems, each⟩ := forall₂_of_readList h
  cases hitems
  exact exists_forall₂.mp ⟨_, each⟩

/-- Each kind has a record that is decoded from the list of its values. -/
theorem exists_decode_list (k : Kind) :
    ∃ items w, decode k.shape (Json.list items).wholeFloatsAsInts = .ok w := by
  obtain ⟨title, fields, hk⟩ := k.shape_eq_record
  have hr := k.regular
  rw [hk] at hr ⊢
  have hfields := (Shape.regular_record.mp hr).2
  exact ⟨_, _, decode_encodeFields title (each_blanks fun f hf => rereads_blank (hfields f hf))⟩

/-- **What decodes passes its schema.** The one exception are lists that the decoder takes, value
by value, for records. With such a list in it, at any depth, a payload does not pass, and no reader
makes an entity of it. -/
theorem check_of_decode (k : Kind) :
    (∀ p : Json, p.Ordered → ¬ Positional k.shape p →
      ∀ w, decode k.shape p.wholeFloatsAsInts = .ok w → check k.schema p = .ok ()) ∧
    (∀ p, Positional k.shape p → check k.schema p ≠ .ok () ∧ ∀ version,
      (∀ e, readOne k.table version p ≠ .ok e) ∧
      ∀ items es, p ∈ items → readList k.table version (.list items) ≠ .ok es) ∧
    ∃ p w, Positional k.shape p ∧ decode k.shape p.wholeFloatsAsInts = .ok w := by
  have hrefused (p : Json) (hp : Positional k.shape p) : check k.schema p ≠ .ok () :=
    fun h => hp.not_fits (fits_of_check k.guarded h)
  refine ⟨fun p ho hp w hw => ?_, fun p hp => ⟨hrefused p hp, fun version => ⟨?_, ?_⟩⟩, ?_⟩
  · exact check_of_fits k.admitted (fits_of_decode k.regular ho hp hw)
  · intro e h
    exact hrefused p hp (stages_of_readOne h).1
  · intro items es hi h
    obtain ⟨e, he⟩ := readOne_of_mem_readList h p hi
    exact hrefused p hp (stages_of_readOne he).1
  · obtain ⟨items, w, hw⟩ := exists_decode_list k
    exact ⟨.list items, w, k.positional items, hw⟩

/-- Two entries are left out here, and a whole number is spelled as a float. -/
def terseDomain : Json := .map [
  ("id", .number (.int ⟨0, by decide⟩)),
  ("name", .string "maas"),
  ("resource_record_count", .number (.float ⟨false, 4503599627370496, -50, by decide, by decide, by decide,
    .inl (by decide)⟩)),
  ("resource_uri", .string "/MAAS/api/2.0/domains/0/")]

theorem terseDomain_ordered : terseDomain.Ordered := by
  refine .map ?_ fun e he => ?_
  · unfold Keyed.Sorted
    decide
  · simp only [List.mem_cons, List.not_mem_nil, or_false] at he
    rcases he with rfl | rfl | rfl | rfl
    · exact .number _
    · exact .string _
    · exact .number _
    · exact .string _

theorem decode_terseDomain :
    ∃ w, decode Kind.domain.shape terseDomain.wholeFloatsAsInts = .ok w := ⟨_, rfl⟩

/-- The payload passes; the list of its values, all six, does not. -/
theorem check_terseDomain : ¬ Positional Kind.domain.shape terseDomain ∧
    check Kind.domain.schema terseDomain = .ok () ∧
    ∀ items, check Kind.domain.schema (.list items) ≠ .ok () := by
  have hfits : Fits Kind.domain.shape terseDomain := by
    refine fits_of_check Kind.domain.guarded ?_
    rfl
  have hp : ¬ Positional Kind.domain.shape terseDomain := fun h => h.not_fits hfits
  obtain ⟨w, hw⟩ := decode_terseDomain
  obtain ⟨hpass, hlist, -⟩ := check_of_decode .domain
  exact ⟨hp, hpass _ terseDomain_ordered hp w hw, fun items => (hlist _ (Kind.domain.positional items)).1⟩

end BareMetal.Inventory

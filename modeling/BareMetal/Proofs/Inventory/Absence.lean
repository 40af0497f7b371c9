import BareMetal.Proofs.Inventory.Stages
import BareMetal.Proofs.Schema.Matched

/-!
# Absent entries and null

An entry that a record may lack may be null as well, and a needed one is missed
the same way in both cases. The exceptions are the entries of `strictFields`,
which have a default but are not nullable. Main statement: `reading_absent`.
-/

namespace BareMetal.Wire

open Schema

/-! ## Entries that may not be null -/

theorem RecordAt.of_everyRecord {P : String → List (String × Bool × Shape) → Bool} {s : Shape} {v : Json}
    {path : List Step} {title : String} {fields : List (String × Bool × Shape)}
    {entries : List (String × Json)} (h : RecordAt s v path title fields entries) :
    s.everyRecord P = true → P title fields = true := by
  induction h with
  | here title fields entries =>
    intro hs
    rw [Shape.everyRecord, Bool.and_eq_true] at hs
    exact hs.1
  | nullable _ ih => exact ih
  | item _ _ ih => exact ih
  | entry known _ _ ih =>
    intro hs
    rw [Shape.everyRecord, Bool.and_eq_true, everyFieldRecord_iff] at hs
    exact ih (hs.2 _ known)
  | element known _ _ ih =>
    intro hs
    rw [Shape.everyRecord, Bool.and_eq_true, everyFieldRecord_iff] at hs
    exact ih (hs.2 _ (List.mem_of_getElem? known))

/-- The type of an entry that has a default and may not be null. -/
def strict? (f : Bool × Shape) : Option Expected := if f.1 then none else f.2.outright?

theorem strict?_eq_some {f : Bool × Shape} {expected : Expected} :
    strict? f = some expected ↔ f.1 = false ∧ f.2.outright? = some expected := by
  unfold strict?
  cases f.1 <;> simp

/-- Those entries of each record. -/
def strictFields : String → List (String × Expected)
  | "MachineResponse" => [("physicalblockdevice_set", .list)]
  | "InterfaceResponse" => [("parents", .list), ("children", .list)]
  | "DomainResponse" => [("authoritative", .bool), ("resource_record_count", .int)]
  | "PartitionResponse" => [("bootable", .bool)]
  | _ => []

/-- The entries of the record have distinct names, and the table has all the strict ones. -/
def listsStrict (title : String) (fields : List (String × Bool × Shape)) : Bool :=
  decide (fields.map Prod.fst).Nodup &&
    decide (strictFields title = fields.filterMap fun f => (strict? f.2).map (f.1, ·))

theorem strictFields_ne_map {title key : String} {expected : Expected}
    (h : (strictFields title).lookup key = some expected) : expected ≠ .map := by
  have hm := Keyed.mem_of_lookup h
  rintro rfl
  unfold strictFields at hm
  split at hm <;> simp at hm

theorem strictFields_ne_empty {title key : String} {expected : Expected}
    (h : (strictFields title).lookup key = some expected) : key ≠ "" := by
  have hm := Keyed.mem_of_lookup h
  rintro rfl
  unfold strictFields at hm
  split at hm <;> simp at hm

section

variable {title : String} {fields : List (String × Bool × Shape)} (h : listsStrict title fields = true)
include h

theorem lookup_strictFields (key : String) :
    (strictFields title).lookup key = (fields.lookup key).bind strict? := by
  rw [listsStrict, Bool.and_eq_true, decide_eq_true_eq, decide_eq_true_eq] at h
  rw [h.2, Keyed.lookup_filterMap strict? h.1]

theorem strict?_of_mem {f : String × Bool × Shape} (hf : f ∈ fields) :
    strict? f.2 = (strictFields title).lookup f.1 := by
  have hl := lookup_strictFields h f.1
  rw [listsStrict, Bool.and_eq_true, decide_eq_true_eq] at h
  rw [hl, Keyed.lookup_of_mem h.1 hf, Option.bind_some]

theorem mem_of_strict {key : String} {expected : Expected}
    (hl : (strictFields title).lookup key = some expected) :
    ∃ s, (key, false, s) ∈ fields ∧ s.outright? = some expected := by
  rw [lookup_strictFields h, Option.bind_eq_some_iff] at hl
  obtain ⟨⟨isNeeded, s⟩, hf, hs⟩ := hl
  obtain ⟨rfl, hs⟩ := strict?_eq_some.mp hs
  exact ⟨s, Keyed.mem_of_lookup hf, hs⟩

end

end BareMetal.Wire

namespace BareMetal.Inventory

open Schema Wire

theorem Kind.matched (k : Kind) : Matched k.schema k.shape :=
  ⟨k.admitted, k.guarded, by cases k <;> rfl⟩

theorem Kind.listsStrict (k : Kind) : k.shape.everyRecord listsStrict = true := by
  cases k <;> rfl

section

variable {k : Kind} {version : Version} {p : Json} {path : List Step} {title : String}
  {fields : List (String × Bool × Shape)} {entries : List (String × Json)}

theorem check_map_editAt (h : RecordAt k.shape p path title fields entries)
    (f g : List (String × Json) → List (String × Json)) :
    check (.map .any) (p.editAt path f) = check (.map .any) (p.editAt path g) := by
  obtain ⟨outer, around, hk⟩ := k.shape_eq_record
  rw [hk] at h
  cases h with
  | here => exact (check_map_any ⟨_, rfl⟩).trans (check_map_any ⟨_, rfl⟩).symm
  | entry => exact (check_map_any ⟨_, rfl⟩).trans (check_map_any ⟨_, rfl⟩).symm
  | element => rfl

/-- A key that may be absent may have any value that passes where it is absent, and decodes to what
stands for its absence. -/
theorem readOne_deleteAt (h : RecordAt k.shape p path title fields entries) (ordered : p.Ordered)
    {key : String} {v : Json}
    (passes : ∀ fs, Matched (.fields fs) (.record title fields) → ∀ f ∈ fs, f.1 = key →
      checkFound f.2.1 f.2.2 none = checkFound f.2.1 f.2.2 (some v))
    (decodes : ∀ f ∈ fields, f.1 = key → f.2.1 = false →
      decode f.2.2 v.wholeFloatsAsInts = .ok f.2.2.blank) :
    readOne k.table version (p.deleteAt path key) = readOne k.table version (p.putAt path key v) := by
  apply readOne_congr (check_map_editAt h _ _)
  · refine h.check_editAt (fun fs hm => ?_) k.matched
    apply checkFields_congr
    intro f hf
    rw [Keyed.lookup_erase, Keyed.lookup_put]
    by_cases hname : f.1 = key
    · rw [if_pos hname, if_pos hname]
      exact passes fs hm f hf hname
    · rw [if_neg hname, if_neg hname]
  · intro hpass
    refine h.decode_editAt (fun hfits => ?_) (fits_of_check k.guarded hpass)
    cases hfits with
    | record distinct _ complete =>
      refine decode_erase distinct (h.sorted ordered) fun f hf hname => ?_
      -- A needed field is not missing in a value of the right form.
      have hn : f.2.1 = false := by
        by_contra hne
        have hsome := complete f hf (by simpa using hne)
        rw [Keyed.lookup_erase, if_pos hname] at hsome
        cases hsome
      exact ⟨hn, decodes f hf hname hn⟩

theorem readOne_deleteAt_null (h : RecordAt k.shape p path title fields entries) (ordered : p.Ordered)
    {key : String} (free : (strictFields title).lookup key = none) :
    readOne k.table version (p.deleteAt path key) = readOne k.table version (p.putAt path key .null) := by
  have hs := h.of_everyRecord k.listsStrict
  apply readOne_deleteAt h ordered
  · intro fs hm f hf hname
    obtain ⟨isNeeded, s, hx, hms, hneeded, -⟩ := hm.declared hf
    have hstrict := strict?_of_mem hs hx
    subst hname
    rw [free] at hstrict
    unfold strict? at hstrict
    simp only [checkFound, checkAt_null]
    by_cases ha : f.2.1 = true
    · rw [if_pos ha]
    · rw [if_neg ha, checkAt_nothing hms]
      cases isNeeded with
      | true => exact absurd (hneeded rfl) ha
      | false =>
        simp only [Bool.false_eq_true, if_false] at hstrict
        rw [hstrict]
  · intro f hf hname hn
    have hstrict := strict?_of_mem hs hf
    rw [hname, free] at hstrict
    unfold strict? at hstrict
    rw [hn, if_neg Bool.false_ne_true] at hstrict
    obtain ⟨name, isNeeded, s⟩ := f
    cases s with
    | nullable inner => rfl
    | _ => cases hstrict

theorem readOne_deleteAt_blank (h : RecordAt k.shape p path title fields entries) (ordered : p.Ordered)
    {key : String} {expected : Expected} (hl : (strictFields title).lookup key = some expected) :
    readOne k.table version (p.deleteAt path key) =
      readOne k.table version (p.putAt path key (blankOf expected)) := by
  have hs := h.of_everyRecord k.listsStrict
  obtain ⟨s, hx, hout⟩ := mem_of_strict hs hl
  have hne := strictFields_ne_map hl
  apply readOne_deleteAt h ordered
  · intro fs hm f hf hname
    obtain ⟨hms, -, hopt⟩ := hm.of_known hf hx hname
    have hpass : check f.2.2 (blankOf expected) = .ok () :=
      check_of_fits hms.admits (fits_blankOf hout hne)
    simp only [checkFound]
    rw [check] at hpass
    rw [hpass]
    by_cases ha : f.2.1 = true
    · rw [if_pos ha, hopt rfl ha]
    · rw [if_neg ha]
  · intro f hf hname _
    have hstrict := strict?_of_mem hs hf
    rw [hname, hl, strict?_eq_some] at hstrict
    exact decode_blankOf hstrict.2 hne

theorem Kind.isMap_of_found {v : Violation} (hv : check k.schema p = .error v) (hpath : v.path ≠ []) :
    IsMap p := by
  obtain ⟨fs, hfs⟩ := k.schema_eq_fields
  rw [hfs] at hv
  cases p with
  | map entries => exact ⟨entries, rfl⟩
  | _ => cases hv; exact absurd rfl hpath

/-- **An absent entry is as good as null, and a default is as good as an absent entry.** The two are
told apart for the entries of `strictFields` only: absent these have their default, and null is
reported at their place unless the schema has a violation before it. -/
theorem reading_absent (k : Kind) (version : Version) {p : Json} (ordered : p.Ordered)
    {path : List Step} {title : String} {fields : List (String × Bool × Shape)}
    {entries : List (String × Json)} (at_record : RecordAt k.shape p path title fields entries)
    (key : String) :
    ((strictFields title).lookup key = none →
      readOne k.table version (p.deleteAt path key) =
        readOne k.table version (p.putAt path key .null)) ∧
    ∀ expected, (strictFields title).lookup key = some expected →
      readOne k.table version (p.deleteAt path key) =
        readOne k.table version (p.putAt path key (blankOf expected)) ∧
      (version20.covers version = true →
        (readOne k.table version (p.putAt path key .null) =
            .error (.schema k.name Api20.label ⟨path ++ [.key key], expected, "nothing"⟩) ∧
          Violation.message ⟨path ++ [.key key], expected, "nothing"⟩ =
            renderPath (path ++ [.key key]) ++ ": " ++
              ("expected " ++ expected.name ++ ", got " ++ "nothing") ∧
          ∀ v, check k.schema (p.deleteAt path key) = .error v →
            Precedes k.schema (path ++ [.key key]) v.path) ∨
        ∃ v, check k.schema (p.deleteAt path key) = .error v ∧
          check k.schema (p.putAt path key .null) = .error v ∧
          Precedes k.schema v.path (path ++ [.key key]) ∧
          readOne k.table version (p.putAt path key .null) =
            readOne k.table version (p.deleteAt path key)) := by
  refine ⟨readOne_deleteAt_null at_record ordered, fun expected hl => ?_⟩
  refine ⟨readOne_deleteAt_blank at_record ordered hl, fun hv => ?_⟩
  obtain ⟨s, hkey, hs⟩ := mem_of_strict (at_record.of_everyRecord k.listsStrict) hl
  have hreported := at_record.reported hkey hs k.matched
  generalize hnull : check k.schema (p.putAt path key .null) = found at hreported
  cases hreported with
  | there first =>
    have hmap := Kind.isMap_of_found hnull (by simp)
    have hmessage := Violation.message_of_key (strictFields_ne_empty hl) path expected "nothing"
    exact .inl ⟨readOne_of_violation hv hmap hnull, hmessage, first⟩
  | @earlier v found before =>
    refine .inr ⟨v, found, rfl, before, ?_⟩
    apply readOne_congr (check_map_editAt at_record _ _) (hnull.trans found.symm)
    intro hok
    cases hok.symm.trans hnull

/-- A domain without `authoritative` is read, and with null there it is not. -/
theorem reading_absent_terseDomain : terseDomain.Ordered ∧
    (strictFields "DomainResponse").lookup "authoritative" = some .bool ∧
    (∃ e, readOne Kind.domain.table version20 (terseDomain.deleteAt [] "authoritative") = .ok e) ∧
    readOne Kind.domain.table version20 (terseDomain.putAt [] "authoritative" .null) =
      .error (.schema "domain" "2.0" ⟨[.key "authoritative"], .bool, "nothing"⟩) := by
  refine ⟨terseDomain_ordered, rfl, ⟨_, rfl⟩, ?_⟩
  have hnull := ((reading_absent .domain version20 terseDomain_ordered (.here _ _ _) "authoritative").2
    .bool rfl).2 rfl
  rcases hnull with ⟨hread, -⟩ | ⟨v, hv, -⟩
  · exact hread
  · have hpass : check Kind.domain.schema (terseDomain.deleteAt [] "authoritative") = .ok () := rfl
    cases hv.symm.trans hpass

end

end BareMetal.Inventory

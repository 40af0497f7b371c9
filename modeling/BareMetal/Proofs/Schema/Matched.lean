import BareMetal.Proofs.Inventory.Lenient
import BareMetal.Proofs.Schema.Order
import BareMetal.Proofs.Wire.Place

/-!
# Checkers and shapes of the same values

A checker and a shape that are `Matched` describe the same values, so a change at
the place of a record is seen by the checker of that record only
(`RecordAt.check_editAt`). An entry that is null where it may not be is reported
at its place, unless there is a violation before it (`RecordAt.reported`).
-/

namespace BareMetal.Schema

open Wire

/-! ## Checkers and shapes of the same values -/

mutual

/-- No map has two fields of one name. -/
def Checker.distinct : Checker → Bool
  | .nullable inner => inner.distinct
  | .list inner => inner.distinct
  | .map inner => inner.distinct
  | .fields fs => decide (fs.map Prod.fst).Nodup && fieldsDistinct fs
  | _ => true

def fieldsDistinct : List (String × Bool × Checker) → Bool
  | [] => true
  | (_, _, c) :: rest => c.distinct && fieldsDistinct rest

end

theorem fieldsDistinct_iff : ∀ {fs : List (String × Bool × Checker)},
    fieldsDistinct fs = true ↔ ∀ f ∈ fs, f.2.2.distinct = true
  | [] => by simp [fieldsDistinct]
  | (name, asked, c) :: rest => by
    rw [List.forall_mem_cons, ← fieldsDistinct_iff, fieldsDistinct, Bool.and_eq_true]

structure Matched (c : Checker) (s : Shape) : Prop where
  admits : c.admits s = true
  guards : s.guardedBy c = true
  distinct : c.distinct = true

namespace Matched

theorem nullable {c : Checker} {s : Shape} (h : Matched c (.nullable s)) :
    ∃ d, c = .nullable d ∧ Matched d s := by
  obtain ⟨ha, hg, hd⟩ := h
  cases c with
  | nullable d => exact ⟨d, rfl, ha, hg, hd⟩
  | _ => cases hg

theorem sequence {c : Checker} {s : Shape} (h : Matched c (.sequence s)) :
    ∃ d, c = .list d ∧ Matched d s := by
  obtain ⟨ha, hg, hd⟩ := h
  cases c with
  | list d => exact ⟨d, rfl, ha, hg, hd⟩
  | _ => cases hg

theorem record {c : Checker} {title : String} {fields : List (String × Bool × Shape)}
    (h : Matched c (.record title fields)) : ∃ fs, c = .fields fs := by
  cases c with
  | fields fs => exact ⟨fs, rfl⟩
  | _ => cases h.guards

section

variable {fs : List (String × Bool × Checker)} {title : String} {fields : List (String × Bool × Shape)}
  (h : Matched (.fields fs) (.record title fields))
include h

theorem nodup : (fs.map Prod.fst).Nodup ∧ (fields.map Prod.fst).Nodup := by
  have hd := h.distinct
  have hg := h.guards
  rw [Checker.distinct, Bool.and_eq_true, decide_eq_true_eq] at hd
  rw [Shape.guardedBy, Bool.and_eq_true, decide_eq_true_eq] at hg
  exact ⟨hd.1, hg.1⟩

/-- What a declared field is in the record: it is asked for if it is needed, and if it is not then
only if it may be absent all the same. -/
theorem declared {f : String × Bool × Checker} (hf : f ∈ fs) : ∃ isNeeded s,
    (f.1, isNeeded, s) ∈ fields ∧ Matched f.2.2 s ∧ (isNeeded = true → f.2.1 = true) ∧
      (isNeeded = false → f.2.1 = true → checkAt f.2.2 none = .ok ()) := by
  obtain ⟨isNeeded, s, hl, hs, hmissing⟩ := of_fieldsAdmit h.admits f hf
  have hm : (f.1, isNeeded, s) ∈ fields := Keyed.mem_of_lookup hl
  have hg := h.guards
  rw [Shape.guardedBy, Bool.and_eq_true] at hg
  obtain ⟨asked, c, hc, hsc, hneeded⟩ := of_fieldsGuardedBy hg.2 _ hm
  have hd := h.distinct
  rw [Checker.distinct, Bool.and_eq_true, fieldsDistinct_iff] at hd
  have hfc : f.2 = (asked, c) := Option.some.inj ((Keyed.lookup_of_mem h.nodup.1 hf).symm.trans hc)
  refine ⟨isNeeded, s, hm, ⟨hs, ?_, hd.2 f hf⟩, ?_, hmissing⟩
  · rw [hfc]
    exact hsc
  · rw [hfc]
    exact fun hn => (hneeded hn).1

theorem known {f : String × Bool × Shape} (hf : f ∈ fields) : ∃ asked c, (f.1, asked, c) ∈ fs := by
  have hg := h.guards
  rw [Shape.guardedBy, Bool.and_eq_true] at hg
  obtain ⟨asked, c, hc, -⟩ := of_fieldsGuardedBy hg.2 f hf
  exact ⟨asked, c, Keyed.mem_of_lookup hc⟩

/-- The checker of a field that the record knows. -/
theorem of_known {f : String × Bool × Checker} (hf : f ∈ fs) {x : String × Bool × Shape} (hx : x ∈ fields)
    (hname : f.1 = x.1) : Matched f.2.2 x.2.2 ∧ (x.2.1 = true → f.2.1 = true) ∧
      (x.2.1 = false → f.2.1 = true → checkAt f.2.2 none = .ok ()) := by
  obtain ⟨isNeeded, s, hm, hrest⟩ := h.declared hf
  have he : (f.1, isNeeded, s) = x := Keyed.eq_of_mem h.nodup.2 hm hx hname
  subst he
  exact hrest

end

end Matched

end BareMetal.Schema

namespace BareMetal.Wire

open Schema

/-! ## What nothing is where something is wanted -/

/-- The type that a value of the shape has, unless it may be null. -/
def Shape.outright? : Shape → Option Expected
  | .text => some .string
  | .flag => some .bool
  | .integer _ => some .int
  | .real => some .float
  | .nullable _ => none
  | .sequence _ => some .list
  | .record _ _ => some .map

theorem checkAt_nothing {c : Checker} {s : Shape} (h : Matched c s) : checkAt c none =
    match s.outright? with
    | some expected => .error ⟨[], expected, "nothing"⟩
    | none => .ok () := by
  have hg := h.guards
  cases s <;> cases c <;> first | rfl | cases hg

/-- What a value is by default: false, zero or empty. -/
def blankOf : Expected → Json
  | .string => .string ""
  | .int => .number (.int ⟨0, Binary64.zero_inRange⟩)
  | .float => .number (.float (.zero false))
  | .bool => .bool false
  | .list => .list []
  | .map => .map []

theorem fits_blankOf {s : Shape} {expected : Expected} (hs : s.outright? = some expected)
    (hm : expected ≠ .map) : Fits s (blankOf expected) := by
  cases s with
  | text => cases hs; exact .text ""
  | flag => cases hs; exact .flag false
  | integer w => cases hs; exact .integer w rfl
  | real => cases hs; exact .real _
  | nullable inner => cases hs
  | sequence inner => cases hs; exact .sequence (by simp)
  | record title fields => cases hs; exact absurd rfl hm

theorem decode_blankOf {s : Shape} {expected : Expected} (hs : s.outright? = some expected)
    (hm : expected ≠ .map) : decode s (blankOf expected).wholeFloatsAsInts = .ok s.blank := by
  cases s with
  | nullable inner => cases hs
  | sequence inner => cases hs; rfl
  | record title fields => cases hs; exact absurd rfl hm
  | _ => cases hs; exact rereads_blank rfl

/-! ## Checking around the place -/

section

variable {s : Shape} {v : Json} {path : List Step} {title : String}
  {fields : List (String × Bool × Shape)} {entries : List (String × Json)}

theorem check_nullable_editAt {c : Checker} (h : v ≠ .null) (path : List Step)
    (f : List (String × Json) → List (String × Json)) :
    check (.nullable c) (v.editAt path f) = check c (v.editAt path f) :=
  check_nullable (mt Json.editAt_eq_null.mp h)

/-- **A change at a place is seen only by the checker of the record there.** -/
theorem RecordAt.check_editAt (h : RecordAt s v path title fields entries)
    {f g : List (String × Json) → List (String × Json)}
    (base : ∀ fs, Matched (.fields fs) (.record title fields) →
      checkFields fs (f entries) = checkFields fs (g entries)) :
    ∀ {c : Checker}, Matched c s → check c (v.editAt path f) = check c (v.editAt path g) := by
  induction h with
  | here title fields entries =>
    intro c hm
    obtain ⟨fs, rfl⟩ := hm.record
    exact base fs hm
  | nullable inside ih =>
    intro c hm
    obtain ⟨d, rfl, hd⟩ := hm.nullable
    rw [check_nullable_editAt inside.ne_null, check_nullable_editAt inside.ne_null, ih base hd]
  | item at_index inside ih =>
    intro c hm
    obtain ⟨d, rfl, hd⟩ := hm.sequence
    rw [Json.editAt_list, Json.editAt_list, check_list, check_list, checkItems_modify _ at_index,
      checkItems_modify _ at_index, ih base hd]
  | @entry _ _ x _ _ _ _ _ _ known at_name inside ih =>
    intro c hm
    obtain ⟨fs, rfl⟩ := hm.record
    rw [Json.editAt_map, Json.editAt_map, check_fields, check_fields]
    apply checkFields_congr
    intro y hy
    rw [Keyed.lookup_modify, Keyed.lookup_modify]
    by_cases hname : y.1 = x.1
    · rw [if_pos hname, if_pos hname, at_name]
      exact ih base (hm.of_known hy known hname).1
    · rw [if_neg hname, if_neg hname]
  | element known at_index inside ih =>
    intro c hm
    obtain ⟨fs, rfl⟩ := hm.record
    rfl

/-- **Null is reported where something is wanted**, unless there is a violation before it. -/
theorem RecordAt.reported (h : RecordAt s v path title fields entries) {key : String} {inner : Shape}
    {expected : Expected} (hkey : (key, false, inner) ∈ fields)
    (hinner : inner.outright? = some expected) : ∀ {c : Checker}, Matched c s →
      Reported c (path ++ [.key key]) expected (check c (v.deleteAt path key))
        (check c (v.putAt path key .null)) := by
  unfold Json.deleteAt Json.putAt
  induction h with
  | here title fields entries =>
    intro c hm
    obtain ⟨fs, rfl⟩ := hm.record
    obtain ⟨asked, d, hd⟩ := hm.known hkey
    obtain ⟨hmd, -, hopt⟩ := hm.of_known hd hkey rfl
    have hnone := checkAt_nothing hmd
    simp only [hinner] at hnone
    have hasked : asked = false := by
      by_contra hne
      rw [hopt rfl (Bool.not_eq_false _ ▸ hne)] at hnone
      cases hnone
    subst hasked
    obtain ⟨before, after, rfl⟩ := List.append_of_mem hd
    simp only [Json.editAt, check_fields, List.nil_append]
    have herase (q : String) (hq : q ≠ key) : (Keyed.erase key entries).lookup q = entries.lookup q := by
      rw [Keyed.lookup_erase, if_neg hq]
    have hput (q : String) (hq : q ≠ key) : (Keyed.put key .null entries).lookup q = entries.lookup q := by
      rw [Keyed.lookup_put, if_neg hq]
    refine Reported.field hm.nodup.1 herase hput ?_
    rw [Keyed.lookup_erase, if_pos rfl, Keyed.lookup_put, if_pos rfl]
    simp only [checkFound, checkAt_null, hnone]
    refine .there fun v hv => ?_
    cases hv
  | nullable inside ih =>
    intro c hm
    obtain ⟨d, rfl, hd⟩ := hm.nullable
    rw [check_nullable_editAt inside.ne_null, check_nullable_editAt inside.ne_null]
    exact (ih hkey hd).nullable
  | item at_index inside ih =>
    intro c hm
    obtain ⟨d, rfl, hd⟩ := hm.sequence
    exact .item at_index (ih hkey hd)
  | @entry _ _ x siblings w _ _ _ _ known at_name inside ih =>
    intro c hm
    obtain ⟨fs, rfl⟩ := hm.record
    obtain ⟨asked, d, hd⟩ := hm.known known
    obtain ⟨hmd, -⟩ := hm.of_known hd known rfl
    obtain ⟨before, after, rfl⟩ := List.append_of_mem hd
    rw [Json.editAt_map, Json.editAt_map, check_fields, check_fields, List.cons_append]
    have hother (f : Json → Json) (q : String) (hq : q ≠ x.1) :
        (Keyed.modify x.1 f siblings).lookup q = siblings.lookup q := by
      rw [Keyed.lookup_modify, if_neg hq]
    refine Reported.field hm.nodup.1 (hother _) (hother _) ?_
    rw [Keyed.lookup_modify, Keyed.lookup_modify, if_pos rfl, if_pos rfl, at_name]
    exact ih hkey hmd
  | element known at_index inside ih =>
    intro c hm
    obtain ⟨fs, rfl⟩ := hm.record
    exact .earlier rfl (.above _ _ _)

end

end BareMetal.Wire

import BareMetal.Proofs.Except
import BareMetal.Proofs.Text.Numeral
import BareMetal.Proofs.Text.Pieces
import BareMetal.Version.Basic
import Mathlib.Data.List.Induction
import Mathlib.Data.Nat.Digits.Defs

/-!
# How versions are spelled

A version has two or three parts with points between them, and blanks may stand
around it. `Spells` is the grammar, with the numbers that the parts stand for.
Main statement: `parse_spells`, the grammar is what is read, and what a version is
written as spells that version.
-/

namespace BareMetal.Version

/-! ## Numbers -/

/-- The number that digits stand for, the last of them counting ones. -/
def written (ds : List Char) : Nat := Nat.ofDigits 10 (ds.reverse.map fun c => c.toNat - 48)

structure IsNumeral (n : Nat) (ds : List Char) : Prop where
  some : ds ≠ []
  digits : ∀ c ∈ ds, c.isDigit = true
  number : written ds = n

/-- At most one plus sign, and digits whose number fits 32 bits. -/
inductive SpellsPart (n : UInt32) : List Char → Prop
  | plain {ds : List Char} (numeral : IsNumeral n.toNat ds) : SpellsPart n ds
  | signed {ds : List Char} (numeral : IsNumeral n.toNat ds) : SpellsPart n ('+' :: ds)

theorem decimalValue_eq (ds : List Char) : decimalValue ds = written ds := by
  induction ds using List.reverseRecOn with
  | nil => rfl
  | append_singleton ds d ih =>
    have hlast : decimalValue (ds ++ [d]) = 10 * decimalValue ds + (d.toNat - 48) := by
      simp [decimalValue]
    rw [hlast, ih]
    simp [written, Nat.ofDigits_cons, Nat.add_comm]

theorem written_toDigits (n : Nat) : written (Nat.toDigits 10 n) = n := by
  rw [← decimalValue_eq]
  exact Nat.ofDigitChars_ten_toDigits

theorem isNumeral_toDigits (n : Nat) : IsNumeral n (Nat.toDigits 10 n) :=
  ⟨Nat.toDigits_ne_nil, Text.isDigit_toDigits n, written_toDigits n⟩

theorem number?_eq_some {ds : List Char} {n : UInt32} :
    (if ds ≠ [] ∧ ds.all Char.isDigit ∧ decimalValue ds < UInt32.size then
      some (UInt32.ofNat (decimalValue ds)) else none) = some n ↔ IsNumeral n.toNat ds := by
  rw [decimalValue_eq, Option.ite_none_right_eq_some, Option.some.injEq]
  constructor
  · intro h
    obtain ⟨⟨hsome, hdigits, hlt⟩, hn⟩ := h
    refine ⟨hsome, List.all_eq_true.mp hdigits, ?_⟩
    rw [← hn, UInt32.toNat_ofNat_of_lt' hlt]
  · intro h
    have hlt : written ds < UInt32.size := h.number ▸ n.toNat_lt
    refine ⟨⟨h.some, List.all_eq_true.mpr h.digits, hlt⟩, ?_⟩
    rw [h.number, UInt32.ofNat_toNat]

/-- A sign is taken off, and a second one is no digit. -/
theorem part?_eq_some {t : List Char} {n : UInt32} : part? t = some n ↔ SpellsPart n t := by
  have hsign (ds : List Char) : ¬ IsNumeral n.toNat ('+' :: ds) := by
    intro h
    have hplus := h.digits '+' List.mem_cons_self
    simp at hplus
  unfold part?
  extract_lets ds
  rw [number?_eq_some]
  by_cases hplus : ∃ r, t = '+' :: r
  · obtain ⟨r, hr⟩ := hplus
    subst hr
    constructor
    · exact .signed
    · intro h
      cases h with
      | plain numeral => exact absurd numeral (hsign r)
      | signed numeral => exact numeral
  · have hds : ds = t := by
      unfold ds
      split
      · exact absurd ⟨_, rfl⟩ hplus
      · rfl
    rw [hds]
    constructor
    · exact .plain
    · intro h
      cases h with
      | plain numeral => exact numeral
      | signed numeral => exact absurd ⟨_, rfl⟩ hplus

theorem SpellsPart.chars {n : UInt32} {t : List Char} (h : SpellsPart n t) :
    ∀ c ∈ t, c = '+' ∨ c.isDigit = true := by
  cases h with
  | plain numeral =>
    intro c hc
    exact .inr (numeral.digits c hc)
  | signed numeral =>
    intro c hc
    exact (List.mem_cons.mp hc).imp_right (numeral.digits c)

/-! ## Parts between points -/

/-- The last part may be left out, and then it is zero. -/
inductive SpellsParts : Version → List Char → Prop
  | two {major minor : UInt32} {a b : List Char} (ha : SpellsPart major a) (hb : SpellsPart minor b) :
      SpellsParts ⟨major, minor, 0⟩ (a ++ '.' :: b)
  | three {major minor patch : UInt32} {a b c : List Char} (ha : SpellsPart major a)
      (hb : SpellsPart minor b) (hc : SpellsPart patch c) :
      SpellsParts ⟨major, minor, patch⟩ (a ++ '.' :: (b ++ '.' :: c))

theorem SpellsPart.no_point {n : UInt32} {t : List Char} (h : SpellsPart n t) :
    ∀ c ∈ t, (c == '.') = false := by
  intro c hc
  rcases h.chars c hc with hplus | hdigit
  · subst hplus
    decide
  · by_cases hp : c = '.'
    · subst hp
      simp at hdigit
    · simpa using hp

theorem parse_eq_ok_trimmed {s : String} {v : Version} :
    parse s = .ok v ↔ SpellsParts v (Text.trimBoth Text.isBlank s.toList) := by
  have hparse : parse s = .ok v ↔ parse? s = some v := by
    unfold parse
    cases parse? s <;> simp
  rw [hparse]
  unfold parse?
  generalize Text.trimBoth Text.isBlank s.toList = t
  constructor
  · intro h
    split at h
    · rename_i a b hab
      rw [Text.pieces_eq_iff] at hab
      simp only [bind, Option.bind_eq_some_iff] at h
      obtain ⟨major, ha, minor, hb, hv⟩ := h
      cases hv
      rw [← hab.2.1]
      simpa [List.intercalate_cons_cons] using SpellsParts.two (part?_eq_some.mp ha) (part?_eq_some.mp hb)
    · rename_i a b c habc
      rw [Text.pieces_eq_iff] at habc
      simp only [bind, Option.bind_eq_some_iff] at h
      obtain ⟨major, ha, minor, hb, patch, hc, hv⟩ := h
      cases hv
      rw [← habc.2.1]
      simpa [List.intercalate_cons_cons] using
        SpellsParts.three (part?_eq_some.mp ha) (part?_eq_some.mp hb) (part?_eq_some.mp hc)
    · cases h
  · intro h
    cases h with
    | two ha hb =>
      rw [Text.pieces_append_cons ha.no_point (by decide), Text.pieces_of_free hb.no_point]
      simp [part?_eq_some.mpr ha, part?_eq_some.mpr hb]
    | three ha hb hc =>
      rw [Text.pieces_append_cons ha.no_point (by decide), Text.pieces_append_cons hb.no_point (by decide),
        Text.pieces_of_free hc.no_point]
      simp [part?_eq_some.mpr ha, part?_eq_some.mpr hb, part?_eq_some.mpr hc]

/-! ## Blanks around -/

/-- A version with blanks around it. -/
inductive Spells (s : String) (v : Version) : Prop
  | mk (before t after : List Char) (split : s.toList = before ++ t ++ after)
      (blank_before : ∀ c ∈ before, Text.isBlank c = true)
      (blank_after : ∀ c ∈ after, Text.isBlank c = true) (parts : SpellsParts v t)

theorem not_isBlank_of_isDigit {c : Char} (h : c.isDigit = true) : Text.isBlank c = false := by
  have hc : 48 ≤ c.toNat ∧ c.toNat ≤ 57 := by simpa [Char.isDigit_iff_toNat] using h
  simp only [Text.isBlank, Bool.or_eq_false_iff, Bool.and_eq_false_iff, decide_eq_false_iff_not,
    beq_eq_false_iff_ne]
  omega

theorem SpellsPart.not_blank {n : UInt32} {t : List Char} (h : SpellsPart n t) :
    ∀ c ∈ t, Text.isBlank c = false := by
  intro c hc
  rcases h.chars c hc with hplus | hdigit
  · subst hplus
    decide
  · exact not_isBlank_of_isDigit hdigit

theorem SpellsParts.not_blank {v : Version} {t : List Char} (h : SpellsParts v t) :
    ∀ c ∈ t, Text.isBlank c = false := by
  have hpoint : Text.isBlank '.' = false := by decide
  cases h with
  | two ha hb =>
    simp only [List.forall_mem_append, List.forall_mem_cons]
    exact ⟨ha.not_blank, hpoint, hb.not_blank⟩
  | three ha hb hc =>
    simp only [List.forall_mem_append, List.forall_mem_cons]
    exact ⟨ha.not_blank, hpoint, hb.not_blank, hpoint, hc.not_blank⟩

theorem parse_eq_ok {s : String} {v : Version} : parse s = .ok v ↔ Spells s v := by
  rw [parse_eq_ok_trimmed]
  constructor
  · intro h
    obtain ⟨before, after, hsplit, hb, ha⟩ := Text.exists_trimBoth Text.isBlank s.toList
    exact ⟨before, _, after, hsplit, hb, ha, h⟩
  · intro h
    obtain ⟨before, t, after, hsplit, hb, ha, ht⟩ := h
    rw [hsplit, Text.trimBoth_between hb ht.not_blank ha]
    exact ht

theorem parse_eq_error {s : String} {e : ParseError} :
    parse s = .error e ↔ (∀ v, ¬ Spells s v) ∧ e = ⟨s⟩ := by
  simp only [← parse_eq_ok]
  unfold parse
  cases parse? s with
  | some v => simp
  | none => simp [eq_comm]

/-! ## What a version is written as -/

theorem toList_toString (n : UInt32) : (toString n).toList = Nat.toDigits 10 n.toNat := by
  have hrepr : toString n = String.ofList (Nat.toDigits 10 n.toNat) := rfl
  rw [hrepr, String.toList_ofList]

theorem spells_text (v : Version) : Spells v.text v := by
  have hpart (n : UInt32) : SpellsPart n (toString n).toList := by
    rw [toList_toString]
    exact .plain (isNumeral_toDigits n.toNat)
  refine ⟨[], v.text.toList, [], by simp, by simp, by simp, ?_⟩
  have hthree := SpellsParts.three (hpart v.major) (hpart v.minor) (hpart v.patch)
  simpa [text] using hthree

/-- **What is read as a version.** A text is read exactly if it spells a version, and every other one
is reported as it came, with its blanks. A version reads back from what it is written as, so writing
what was read and reading it again changes nothing. -/
theorem parse_spells (s : String) :
    (∀ v, parse s = .ok v ↔ Spells s v) ∧
    (∀ e, parse s = .error e ↔ (∀ v, ¬ Spells s v) ∧ e = ⟨s⟩) ∧
    (∀ v : Version, parse v.text = .ok v) ∧
    (parse s >>= fun v => parse v.text) = parse s := by
  have hwritten (v : Version) : parse v.text = .ok v := parse_eq_ok.mpr (spells_text v)
  refine ⟨fun v => parse_eq_ok, fun e => parse_eq_error, hwritten, ?_⟩
  cases parse s with
  | ok v => rw [Except.ok_bind, hwritten]
  | error e => rfl

end BareMetal.Version

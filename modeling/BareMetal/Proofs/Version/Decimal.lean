import BareMetal.Proofs.Text.Ascii
import BareMetal.Proofs.Version.Spelling

/-!
# Versions spelled with digits and points

An accepted text of digits and points has two parts or three: `IsDecimal.parts`.
-/

namespace BareMetal.Version

/-- A text of digits and points. -/
def IsDecimal (s : String) : Prop := ∀ c ∈ s.toList, c.isDigit = true ∨ c = '.'

instance : DecidablePred IsDecimal := fun s =>
  inferInstanceAs (Decidable (∀ c ∈ s.toList, c.isDigit = true ∨ c = '.'))

/-- A part without a sign. -/
def IsPart (ds : List Char) : Prop := ds ≠ [] ∧ ∀ c ∈ ds, c.isDigit = true

theorem SpellsPart.isPart {n : UInt32} {t : List Char} (h : SpellsPart n t) (hs : '+' ∉ t) : IsPart t := by
  cases h with
  | plain numeral => exact ⟨numeral.some, numeral.digits⟩
  | signed numeral => exact absurd List.mem_cons_self hs

namespace IsPart

variable {ds : List Char} (h : IsPart ds)
include h

theorem not_mem {c : Char} (hc : c.isDigit = false) : c ∉ ds := by
  intro hm
  have hd := h.2 c hm
  rw [hc] at hd
  cases hd

theorem count_point : ds.count '.' = 0 := List.count_eq_zero.mpr (h.not_mem (by decide))

end IsPart

section
variable {s : String} (h : IsDecimal s)
include h

theorem IsDecimal.not_mem {d : Char} (hd : d.isDigit = false) (hp : d ≠ '.') : d ∉ s.toList := by
  intro hm
  rcases h d hm with h | h
  · rw [hd] at h; cases h
  · exact hp h

theorem IsDecimal.not_blank : ∀ c ∈ s.toList, Text.isBlank c = false := by
  intro c hc
  rcases h c hc with h | rfl
  · exact not_isBlank_of_isDigit h
  · decide

/-- Digits and points spell a version in one of two ways. -/
theorem IsDecimal.parts {v : Version} (hv : parse s = .ok v) :
    (∃ a b, IsPart a ∧ IsPart b ∧ s.toList = a ++ '.' :: b) ∨
      ∃ a b c, IsPart a ∧ IsPart b ∧ IsPart c ∧ s.toList = a ++ '.' :: (b ++ '.' :: c) := by
  have hplus : '+' ∉ s.toList := h.not_mem (by decide) (by decide)
  rw [parse_eq_ok_trimmed, Text.trimBoth_of_not h.not_blank] at hv
  generalize s.toList = t at hv hplus
  cases hv with
  | @two _ _ a b ha hb =>
    simp only [List.mem_append, List.mem_cons, not_or] at hplus
    exact .inl ⟨a, b, ha.isPart hplus.1, hb.isPart hplus.2.2, rfl⟩
  | @three _ _ _ a b c ha hb hc =>
    simp only [List.mem_append, List.mem_cons, not_or] at hplus
    exact .inr ⟨a, b, c, ha.isPart hplus.1, hb.isPart hplus.2.2.1, hc.isPart hplus.2.2.2.2, rfl⟩

end

end BareMetal.Version

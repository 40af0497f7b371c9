import BareMetal.Proofs.Json.Whole
import BareMetal.Proofs.Number.Nearest

/-!
# Equality of numbers

A binary64 other than zero has one form, so floats are equal as numbers exactly
if their values are: `numEq_iff`. Reading a number rounds integers and keeps the
values of floats, also of those that are spelled as integers first:
`toRat_of_decodeReal`.
-/

namespace BareMetal

namespace Binary64

variable {x y : Binary64}

/-- With a lower exponent the first mantissa would have too many bits. -/
theorem exponent_le_of_value (h : (x.mantissa : ℚ) * 2 ^ x.exponent = y.mantissa * 2 ^ y.exponent) :
    y.exponent ≤ x.exponent := by
  by_contra hlt
  have hle := x.le_exponent
  have hy : (4503599627370496 : ℚ) ≤ y.mantissa := by
    rcases y.normal with hn | hn
    · exact_mod_cast hn
    · omega
  have hx : (x.mantissa : ℚ) < 9007199254740992 := by exact_mod_cast x.mantissa_lt
  have hp : (0 : ℚ) < 2 ^ x.exponent := zpow_pos (by norm_num) _
  have hstep : (2 : ℚ) * 2 ^ x.exponent ≤ 2 ^ y.exponent := by
    rw [← zpow_one_add₀ (by norm_num)]
    exact zpow_le_zpow_right₀ (by norm_num) (by omega)
  have hbig : (9007199254740992 : ℚ) * 2 ^ x.exponent ≤ y.mantissa * 2 ^ y.exponent :=
    calc (9007199254740992 : ℚ) * 2 ^ x.exponent
      _ = 4503599627370496 * (2 * 2 ^ x.exponent) := by ring
      _ ≤ y.mantissa * 2 ^ y.exponent := mul_le_mul hy hstep (by positivity) (by positivity)
  rw [← h] at hbig
  exact absurd (le_of_mul_le_mul_right hbig hp) (not_le.mpr hx)

theorem parts_of_value (h : (x.mantissa : ℚ) * 2 ^ x.exponent = y.mantissa * 2 ^ y.exponent) :
    x.mantissa = y.mantissa ∧ x.exponent = y.exponent := by
  have he : x.exponent = y.exponent := le_antisymm (exponent_le_of_value h.symm) (exponent_le_of_value h)
  rw [he] at h
  have hp : (2 : ℚ) ^ y.exponent ≠ 0 := zpow_ne_zero _ (by norm_num)
  exact ⟨by exact_mod_cast mul_right_cancel₀ hp h, he⟩

theorem negative_iff (hx : x.mantissa ≠ 0) : x.negative = true ↔ x.toRat < 0 := by
  have hpos : (0 : ℚ) < x.mantissa * 2 ^ x.exponent :=
    mul_pos (by exact_mod_cast Nat.pos_of_ne_zero hx) (zpow_pos (by norm_num) _)
  unfold toRat
  cases x.negative
  · simpa using hpos.le
  · simpa using hpos

theorem toRat_of_isZero (h : x.isZero = true) : x.toRat = 0 := by
  rw [isZero, beq_iff_eq] at h
  rw [toRat, h, Nat.cast_zero, zero_mul, mul_zero]

/-- **Floats are equal as numbers exactly if they have one value.** -/
theorem numEq_iff : x.numEq y = true ↔ x.toRat = y.toRat := by
  unfold numEq
  rw [Bool.or_eq_true, decide_eq_true_iff, Bool.and_eq_true]
  constructor
  · intro h
    rcases h with h | ⟨hx, hy⟩
    · rw [h]
    · rw [toRat_of_isZero hx, toRat_of_isZero hy]
  · intro h
    have habs := congrArg abs h
    rw [abs_toRat, abs_toRat] at habs
    obtain ⟨hm, he⟩ := parts_of_value habs
    by_cases hz : x.mantissa = 0
    · right
      rw [isZero, isZero, ← hm, hz]
      exact ⟨rfl, rfl⟩
    · left
      have hs : x.negative = y.negative := by
        rw [Bool.eq_iff_iff, negative_iff hz, negative_iff (hm ▸ hz), h]
      cases x
      cases y
      simp_all

end Binary64

/-! ## Numbers that are read -/

namespace Json

/-- The value that a number is read as: an integer of 64 bits is rounded. -/
def Number.rounded : Number → ℚ
  | .int n => (Wire.nearest n).toRat
  | .float x => x.toRat

theorem Number.rounded_wholeAsInt (n : Number) : n.wholeAsInt.rounded = n.rounded := by
  cases n with
  | int k => rfl
  | float x =>
    cases h : x.wideInt? with
    | none => rw [wholeAsInt_of_none (n := .float x) h]
    | some k =>
      have hx := (Binary64.wideInt?_eq_some.mp h).1
      -- No float is nearer to the integer than the one of its value.
      have hnear := Binary64.nearest_le k x
      rw [hx, sub_self, abs_zero] at hnear
      rw [wholeAsInt_of_some (n := .float x) h, rounded, rounded, hx]
      exact sub_eq_zero.mp (abs_nonpos_iff.mp hnear)

end Json

theorem Wire.toRat_of_decodeReal {v : Json} {x : Binary64}
    (h : Wire.decodeReal v.wholeFloatsAsInts = .ok x) : ∃ n, v = .number n ∧ x.toRat = n.rounded := by
  cases v with
  | number n =>
    refine ⟨n, rfl, ?_⟩
    rw [← n.rounded_wholeAsInt]
    rw [Json.wholeFloatsAsInts_number] at h
    cases hn : n.wholeAsInt with
    | int k =>
      rw [hn] at h
      cases h
      rfl
    | float y =>
      rw [hn] at h
      cases h
      rfl
  | _ => cases h

end BareMetal

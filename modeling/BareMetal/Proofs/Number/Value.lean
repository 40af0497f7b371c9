import BareMetal.Json.Whole
import Mathlib.Data.Nat.Cast.Field
import Mathlib.Data.Rat.Cast.Order

/-!
# The numbers that binary64 stands for

`toRat` is the exact value of a float. `whole?_eq_some`: what is taken as the
whole number of a float is its value.
-/

namespace BareMetal.Binary64

/-- The value of a float, a rational number. -/
def toRat (x : Binary64) : ℚ :=
  (if x.negative then -1 else 1) * (x.mantissa * 2 ^ x.exponent)

theorem ratio_pos (x : Binary64) : 0 < x.ratio.2 := by
  unfold ratio
  split
  · exact Nat.one_pos
  · exact Nat.pow_pos Nat.two_pos

theorem ratio_div (x : Binary64) : (x.ratio.1 : ℚ) / x.ratio.2 = x.mantissa * 2 ^ x.exponent := by
  unfold ratio
  by_cases h : 0 ≤ x.exponent
  · have he : (2 : ℚ) ^ x.exponent = 2 ^ x.exponent.toNat := by
      rw [← zpow_natCast, Int.toNat_of_nonneg h]
    simp [h, he]
  · have he : (2 : ℚ) ^ x.exponent = (2 ^ (-x.exponent).toNat)⁻¹ := by
      rw [← zpow_natCast, Int.toNat_of_nonneg (by omega), zpow_neg, inv_inv]
    simp [h, he, div_eq_mul_inv]

theorem toRat_eq_ratio (x : Binary64) :
    x.toRat = (if x.negative then -1 else 1) * ((x.ratio.1 : ℚ) / x.ratio.2) := by
  rw [ratio_div, toRat]

theorem toRat_of_whole {x : Binary64} {n : Int} (h : x.whole? = some n) : x.toRat = n := by
  simp only [whole?] at h
  split at h
  · rename_i hd
    have hq : (x.ratio.1 : ℚ) / x.ratio.2 = ((x.ratio.1 / x.ratio.2 : Nat) : ℚ) := by
      rw [Nat.cast_div (Nat.dvd_of_mod_eq_zero hd) (by exact_mod_cast (ratio_pos x).ne')]
    rw [toRat_eq_ratio, hq, ← Option.some.inj h]
    cases x.negative
    · simp only [Bool.false_eq_true, if_false, one_mul, Int.cast_natCast]
    · simp only [if_true, neg_one_mul, Int.cast_neg, Int.cast_natCast]
  · cases h

/-- The numerator is a multiple of the denominator where the value is whole. -/
theorem ratio_mod {x : Binary64} {n : Int} (h : x.toRat = n) : x.ratio.1 % x.ratio.2 = 0 := by
  have hd : (x.ratio.2 : ℚ) ≠ 0 := by exact_mod_cast (ratio_pos x).ne'
  rw [toRat_eq_ratio] at h
  have hz : (x.ratio.1 : Int) = (if x.negative then -n else n) * x.ratio.2 := by
    rw [← Int.cast_inj (α := ℚ)]
    cases hn : x.negative
    · simp only [hn, Bool.false_eq_true, if_false, one_mul, div_eq_iff hd] at h ⊢
      simpa using h
    · simp only [hn, if_true, neg_one_mul, neg_eq_iff_eq_neg, div_eq_iff hd] at h ⊢
      simpa using h
  exact Nat.mod_eq_zero_of_dvd (Int.natCast_dvd_natCast.mp (Dvd.intro_left _ hz.symm))

/-- A float is whole exactly if its value is an integer, and then that is its whole number. -/
theorem whole?_eq_some {x : Binary64} {n : Int} : x.whole? = some n ↔ x.toRat = n := by
  refine ⟨toRat_of_whole, fun h => ?_⟩
  obtain ⟨m, hm⟩ : ∃ m, x.whole? = some m := by
    simp only [whole?, ratio_mod h, if_true]
    exact ⟨_, rfl⟩
  have := (toRat_of_whole hm).symm.trans h
  rw [hm, Int.cast_injective this]

theorem wideInt?_eq_some {x : Binary64} {k : WideInt} :
    x.wideInt? = some k ↔ x.toRat = k.val ∧ -wholeLimit < k.val ∧ k.val < wholeLimit := by
  unfold wideInt?
  rw [← whole?_eq_some]
  cases hw : x.whole? with
  | none => simp
  | some n =>
    simp only [Option.dite_none_right_eq_some, Option.some.injEq]
    constructor
    · rintro ⟨hn, rfl⟩
      exact ⟨rfl, hn⟩
    · rintro ⟨rfl, hn⟩
      exact ⟨hn, rfl⟩

end BareMetal.Binary64

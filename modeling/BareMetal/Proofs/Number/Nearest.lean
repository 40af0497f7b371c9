import BareMetal.Proofs.Number.Value
import BareMetal.Wire.Decode
import Mathlib.Algebra.Order.Field.Power
import Mathlib.Tactic.Linarith
import Mathlib.Tactic.NormNum
import Mathlib.Tactic.Ring

/-!
# The binary64 nearest to an integer

Rounding an integer of 64 bits never fails, no binary64 is nearer to it than the
result, and it is exact where a binary64 has the value of the integer. Main
statements: `nearest_le`, `nearest_of_toRat`, `nearest_ne_negative_zero`.
-/

namespace BareMetal.Binary64

/-! ## Rounded quotients -/

theorem roundDiv_mul (m : Nat) {d : Nat} (hd : 0 < d) : roundDiv (m * d) d = m := by
  unfold roundDiv
  simp only [Nat.mul_div_cancel m hd, Nat.mul_mod_left, Nat.mul_zero]
  rw [if_neg (by omega)]

theorem roundDiv_bounds {n d a b : Nat} (hd : 0 < d) (ha : a * d ≤ n) (hb : n < b * d) :
    a ≤ roundDiv n d ∧ roundDiv n d ≤ b := by
  have hq : a ≤ n / d := (Nat.le_div_iff_mul_le hd).mpr ha
  have hq' : n / d < b := (Nat.div_lt_iff_lt_mul hd).mpr hb
  unfold roundDiv
  dsimp only
  split
  · omega
  · omega

/-! ## Scaling -/

theorem scaleDown_pos (n : Nat) (e : Int) : 0 < (scaleDown n 1 e).2 := by
  unfold scaleDown
  split
  · exact Nat.mul_pos Nat.one_pos (Nat.pow_pos Nat.two_pos)
  · exact Nat.one_pos

/-- The fraction is `n / 2^e`. -/
theorem scaleDown_mul (n : Nat) (e : Int) :
    ((scaleDown n 1 e).1 : ℚ) * 2 ^ e = n * (scaleDown n 1 e).2 := by
  unfold scaleDown
  by_cases h : 0 ≤ e
  · have he : (2 : ℚ) ^ e = 2 ^ e.toNat := by
      rw [← zpow_natCast, Int.toNat_of_nonneg h]
    simp [h, he]
  · have he : (2 : ℚ) ^ e = (2 ^ (-e).toNat)⁻¹ := by
      rw [← zpow_natCast, Int.toNat_of_nonneg (by omega), zpow_neg, inv_inv]
    simp [h, he]

theorem zpow_log2_le {n : Nat} (hn : n ≠ 0) : (2 : ℚ) ^ (n.log2 : Int) ≤ n := by
  rw [zpow_natCast]
  exact_mod_cast Nat.log2_self_le hn

theorem lt_zpow_log2 (n : Nat) : (n : ℚ) < 2 ^ ((n.log2 : Int) + 1) := by
  have h : (n : ℚ) < 2 ^ (n.log2 + 1) := by exact_mod_cast Nat.lt_log2_self
  exact_mod_cast h

theorem exponentFor_one {n : Nat} (hn : n ≠ 0) : exponentFor n 1 = n.log2 - 52 := by
  have h1 : Nat.log2 1 = 0 := by decide
  have hle : 1 * Nat.pow 2 n.log2 ≤ n := by
    rw [Nat.one_mul]
    exact Nat.log2_self_le hn
  unfold exponentFor scaleDown
  simp only [h1, Nat.cast_zero, sub_zero, Int.natCast_nonneg, if_true, Int.toNat_natCast, hle]
  omega

/-- Scaled to its exponent an integer has a mantissa of 53 bits. -/
theorem scaleDown_bounds {n : Nat} (hn : n ≠ 0) :
    4503599627370496 * (scaleDown n 1 (n.log2 - 52)).2 ≤ (scaleDown n 1 (n.log2 - 52)).1 ∧
      (scaleDown n 1 (n.log2 - 52)).1 < 9007199254740992 * (scaleDown n 1 (n.log2 - 52)).2 := by
  have hmul := scaleDown_mul n (n.log2 - 52)
  have hpos : (0 : ℚ) < (scaleDown n 1 (n.log2 - 52)).2 := by
    exact_mod_cast scaleDown_pos n (n.log2 - 52)
  generalize (scaleDown n 1 (n.log2 - 52)).1 = a at hmul ⊢
  generalize (scaleDown n 1 (n.log2 - 52)).2 = d at hmul hpos ⊢
  have hlow := zpow_log2_le hn
  have hhigh := lt_zpow_log2 n
  have he : (0 : ℚ) < 2 ^ ((n.log2 : Int) - 52) := zpow_pos (by norm_num) _
  have hlog : (2 : ℚ) ^ (n.log2 : Int) = 4503599627370496 * 2 ^ ((n.log2 : Int) - 52) := by
    rw [zpow_sub₀ (by norm_num)]
    ring
  rw [zpow_add_one₀ (by norm_num), hlog] at hhigh
  rw [hlog] at hlow
  constructor
  · have h : (4503599627370496 * d : ℚ) * 2 ^ ((n.log2 : Int) - 52) ≤ a * 2 ^ ((n.log2 : Int) - 52) := by
      rw [hmul]
      nlinarith
    exact_mod_cast le_of_mul_le_mul_right h he
  · have h : (a : ℚ) * 2 ^ ((n.log2 : Int) - 52) < 9007199254740992 * d * 2 ^ ((n.log2 : Int) - 52) := by
      rw [hmul]
      nlinarith
    exact_mod_cast lt_of_mul_lt_mul_right h he.le

/-! ## Integers -/

theorem ofNat?_eq {n : Nat} (hn : n ≠ 0) : ofNat? n =
    if roundDiv (scaleDown n 1 (n.log2 - 52)).1 (scaleDown n 1 (n.log2 - 52)).2 = 9007199254740992
    then ofParts? false 4503599627370496 ((n.log2 : Int) - 52 + 1)
    else ofParts? false
      (roundDiv (scaleDown n 1 (n.log2 - 52)).1 (scaleDown n 1 (n.log2 - 52)).2) (n.log2 - 52) := by
  unfold ofNat? ofRatio?
  rw [if_neg hn, exponentFor_one hn]

theorem ofParts?_eq_some {m : Nat} {e : Int} (hm : m < 9007199254740992) (he : -1074 ≤ e)
    (he' : e ≤ 971) (hn : 4503599627370496 ≤ m ∨ e = -1074) :
    ofParts? false m e = some ⟨false, m, e, hm, he, he', hn⟩ := by
  unfold ofParts?
  rw [dif_pos ⟨hm, he, he', hn⟩]

/-- The number that is taken for a positive integer has the value of its rounded significand. -/
theorem ofNat?_rounded {n : Nat} (hn : n ≠ 0) (hlt : n < 18446744073709551616) :
    ∃ x, ofNat? n = some x ∧ x.mantissa ≠ 0 ∧ (x.mantissa : ℚ) * 2 ^ x.exponent =
      roundDiv (scaleDown n 1 (n.log2 - 52)).1 (scaleDown n 1 (n.log2 - 52)).2 * 2 ^ ((n.log2 : Int) - 52) := by
  have hl : n.log2 < 64 := (Nat.log2_lt hn).mpr hlt
  obtain ⟨hlow, hhigh⟩ := scaleDown_bounds hn
  have hr := roundDiv_bounds (scaleDown_pos n (n.log2 - 52)) hlow hhigh
  rw [ofNat?_eq hn]
  generalize roundDiv (scaleDown n 1 (n.log2 - 52)).1 (scaleDown n 1 (n.log2 - 52)).2 = m at hr
  by_cases hm : m = 9007199254740992
  · rw [if_pos hm, ofParts?_eq_some (by decide) (by omega) (by omega) (.inl le_rfl), hm]
    refine ⟨_, rfl, Nat.succ_ne_zero _, ?_⟩
    dsimp only
    rw [zpow_add_one₀ (by norm_num)]
    push_cast
    ring
  · rw [if_neg hm, ofParts?_eq_some (by omega) (by omega) (by omega) (.inl hr.1)]
    refine ⟨_, rfl, ?_, rfl⟩
    dsimp only
    omega

/-! ## No binary64 is nearer -/

theorem roundDiv_le {n d : Nat} (hd : 0 < d) (k : Nat) :
    ((roundDiv n d * d : Nat) - n : Int).natAbs ≤ ((k * d : Nat) - n : Int).natAbs := by
  have hn := Nat.div_add_mod n d
  have hr := Nat.mod_lt n hd
  rw [Nat.mul_comm] at hn
  have hk : k * d ≤ n / d * d ∨ n / d * d + d ≤ k * d := by
    rcases Nat.lt_or_ge (n / d) k with h | h
    · right
      rw [← Nat.succ_mul]
      exact Nat.mul_le_mul_right d h
    · exact .inl (Nat.mul_le_mul_right d h)
  unfold roundDiv
  dsimp only
  split
  · rw [Nat.succ_mul]
    omega
  · omega

/-- The rounded value is at least as near as any other multiple of the last place. -/
theorem roundDiv_scaleDown_le (n : Nat) (e : Int) (k : Nat) :
    |(roundDiv (scaleDown n 1 e).1 (scaleDown n 1 e).2 : ℚ) * 2 ^ e - n| ≤ |(k : ℚ) * 2 ^ e - n| := by
  have hd := scaleDown_pos n e
  have hmul := scaleDown_mul n e
  have hle := roundDiv_le (n := (scaleDown n 1 e).1) hd k
  generalize (scaleDown n 1 e).1 = a at hmul hle ⊢
  generalize (scaleDown n 1 e).2 = d at hd hmul hle ⊢
  have hp : (0 : ℚ) < 2 ^ e := zpow_pos (by norm_num) _
  have hd' : (0 : ℚ) < d := by exact_mod_cast hd
  have hscale (m : Nat) : |(m : ℚ) * 2 ^ e - n| * d = |(m * d : ℚ) - a| * 2 ^ e :=
    calc |(m : ℚ) * 2 ^ e - n| * d
      _ = |((m : ℚ) * 2 ^ e - n) * d| := by rw [abs_mul, abs_of_pos hd']
      _ = |((m * d : ℚ) - a) * 2 ^ e| := by rw [sub_mul, sub_mul, hmul, mul_right_comm]
      _ = |(m * d : ℚ) - a| * 2 ^ e := by rw [abs_mul, abs_of_pos hp]
  have hle' : |((roundDiv a d : ℚ) * d) - a| ≤ |(k * d : ℚ) - a| := by
    have hi : |((roundDiv a d * d : Nat) - a : Int)| ≤ |((k * d : Nat) - a : Int)| := by
      rw [Int.abs_eq_natAbs, Int.abs_eq_natAbs]
      exact_mod_cast hle
    exact_mod_cast hi
  apply le_of_mul_le_mul_right _ hd'
  rw [hscale, hscale]
  exact mul_le_mul_of_nonneg_right hle' hp.le

/-- A binary64 is a multiple of the last place of an integer, or it is below the numbers of that
place. -/
theorem multiple_or_below (y : Binary64) (e : Int) :
    (∃ k : Nat, (y.mantissa : ℚ) * 2 ^ y.exponent = k * 2 ^ e) ∨
      (y.mantissa : ℚ) * 2 ^ y.exponent ≤ 4503599627370496 * 2 ^ e := by
  by_cases he : e ≤ y.exponent
  · left
    refine ⟨y.mantissa * 2 ^ (y.exponent - e).toNat, ?_⟩
    have hsplit : (2 : ℚ) ^ y.exponent = 2 ^ (y.exponent - e).toNat * 2 ^ e := by
      rw [← zpow_natCast, Int.toNat_of_nonneg (by omega), ← zpow_add₀ (by norm_num), sub_add_cancel]
    rw [hsplit]
    push_cast
    ring
  · right
    have hm : (y.mantissa : ℚ) ≤ 9007199254740992 := by exact_mod_cast y.mantissa_lt.le
    have hpow : (2 : ℚ) ^ y.exponent ≤ 2 ^ (e - 1) := zpow_le_zpow_right₀ (by norm_num) (by omega)
    have hhalf : (9007199254740992 : ℚ) * 2 ^ (e - 1) = 4503599627370496 * 2 ^ e := by
      rw [zpow_sub_one₀ (by norm_num)]
      ring
    rw [← hhalf]
    exact mul_le_mul hm hpow (zpow_pos (by norm_num) _).le (by norm_num)

theorem natCast_nearest_le {n : Nat} (hn : n ≠ 0) {x : Binary64} (hlt : n < 18446744073709551616)
    (hx : ofNat? n = some x) (y : Binary64) :
    |(x.mantissa : ℚ) * 2 ^ x.exponent - n| ≤ |(y.mantissa : ℚ) * 2 ^ y.exponent - n| := by
  obtain ⟨x', hx', -, hv⟩ := ofNat?_rounded hn hlt
  cases hx.symm.trans hx'
  rw [hv]
  rcases multiple_or_below y (n.log2 - 52) with ⟨k, hk⟩ | hbelow
  · rw [hk]
    exact roundDiv_scaleDown_le n _ k
  · -- The least number of this place lies between `y` and `n`.
    have hleast := roundDiv_scaleDown_le n (n.log2 - 52) 4503599627370496
    have hlow : (4503599627370496 : ℚ) * 2 ^ ((n.log2 : Int) - 52) ≤ n := by
      have h := zpow_log2_le hn
      have hlog : (2 : ℚ) ^ (n.log2 : Int) = 4503599627370496 * 2 ^ ((n.log2 : Int) - 52) := by
        rw [zpow_sub₀ (by norm_num)]
        ring
      rwa [hlog] at h
    refine hleast.trans ?_
    push_cast
    rw [abs_of_nonpos (by linarith), abs_of_nonpos (by linarith)]
    linarith

theorem abs_toRat (x : Binary64) : |x.toRat| = x.mantissa * 2 ^ x.exponent := by
  have hp : (0 : ℚ) ≤ x.mantissa * 2 ^ x.exponent :=
    mul_nonneg (Nat.cast_nonneg _) (zpow_pos (by norm_num) _).le
  rw [toRat, abs_mul, abs_of_nonneg hp]
  split <;> simp

/-- **No binary64 is nearer to an integer than the one that is taken for it.** -/
theorem nearest_le (n : WideInt) (y : Binary64) :
    |(Wire.nearest n).toRat - n.val| ≤ |y.toRat - n.val| := by
  by_cases h0 : n.val.natAbs = 0
  · have hz : n.val = 0 := Int.natAbs_eq_zero.mp h0
    have hx : (Wire.nearest n).toRat = 0 := by
      rw [Wire.nearest, hz]
      simp [toRat, withSign, ofNat?, ofRatio?, zero]
    rw [hx, hz, Int.cast_zero, sub_zero, abs_zero]
    exact abs_nonneg _
  · have hlt : n.val.natAbs < 18446744073709551616 := by
      have := n.property
      omega
    obtain ⟨x, hx, -⟩ := ofNat?_rounded h0 hlt
    have hn : (n.val : ℚ) = (if n.val < 0 then -1 else 1) * n.val.natAbs := by
      rw [Nat.cast_natAbs, Int.cast_abs]
      by_cases hs : n.val < 0
      · rw [if_pos hs, abs_of_neg (by exact_mod_cast hs), neg_one_mul, neg_neg]
      · rw [if_neg hs, abs_of_nonneg (by exact_mod_cast Int.not_lt.mp hs), one_mul]
    have hvalue : (Wire.nearest n).toRat =
        (if n.val < 0 then -1 else 1) * (x.mantissa * 2 ^ x.exponent) := by
      rw [Wire.nearest, hx]
      simp [toRat, withSign]
    have hsame : |(Wire.nearest n).toRat - n.val| =
        |(x.mantissa : ℚ) * 2 ^ x.exponent - n.val.natAbs| := by
      rw [hvalue, hn, ← mul_sub, abs_mul]
      split <;> simp
    rw [hsame]
    refine (natCast_nearest_le h0 hlt hx y).trans ?_
    -- A number of the other sign is further away still.
    rw [← abs_toRat y, Nat.cast_natAbs, Int.cast_abs]
    exact abs_abs_sub_abs_le _ _

/-- At the lowest exponent every value is below one, so the mantissa has all its bits. -/
theorem mantissa_of_one_le {x : Binary64} (h : (1 : ℚ) ≤ x.mantissa * 2 ^ x.exponent) :
    4503599627370496 ≤ x.mantissa := by
  rcases x.normal with hn | hn
  · exact hn
  · have hlt : (x.mantissa : ℚ) < 9007199254740992 := by exact_mod_cast x.mantissa_lt
    have h53 : (9007199254740992 : ℚ) = 2 ^ (53 : Int) := by norm_num
    have hsmall : (9007199254740992 : ℚ) * 2 ^ (-1074 : Int) < 1 := by
      rw [h53, ← zpow_add₀ (by norm_num)]
      exact zpow_lt_one_of_neg₀ (by norm_num) (by norm_num)
    have hp : (0 : ℚ) < 2 ^ (-1074 : Int) := zpow_pos (by norm_num) _
    have hm : (x.mantissa : ℚ) * 2 ^ (-1074 : Int) < 9007199254740992 * 2 ^ (-1074 : Int) :=
      mul_lt_mul_of_pos_right hlt hp
    rw [hn] at h
    linarith

theorem exponent_of_whole {x : Binary64} {n : Nat} (hn : n ≠ 0)
    (hv : (x.mantissa : ℚ) * 2 ^ x.exponent = n) : x.exponent = n.log2 - 52 := by
  have hone : (1 : ℚ) ≤ n := by exact_mod_cast Nat.one_le_iff_ne_zero.mpr hn
  have hle : (4503599627370496 : ℚ) ≤ x.mantissa := by exact_mod_cast mantissa_of_one_le (hv ▸ hone)
  have hlt : (x.mantissa : ℚ) < 9007199254740992 := by exact_mod_cast x.mantissa_lt
  have hp : (0 : ℚ) < 2 ^ x.exponent := zpow_pos (by norm_num) _
  have hlow := zpow_log2_le hn
  have hhigh := lt_zpow_log2 n
  -- Both `n.log2` and the exponent, 52 or 53 higher, place `n` between two powers of two.
  have h52 : (2 : ℚ) ^ (52 + x.exponent) = 4503599627370496 * 2 ^ x.exponent := by
    rw [zpow_add₀ (by norm_num)]
    norm_num
  have h53 : (2 : ℚ) ^ (53 + x.exponent) = 9007199254740992 * 2 ^ x.exponent := by
    rw [zpow_add₀ (by norm_num)]
    norm_num
  have h1 : (2 : ℚ) ^ (n.log2 : Int) < 2 ^ (53 + x.exponent) := by
    rw [h53]
    nlinarith
  have h2 : (2 : ℚ) ^ (52 + x.exponent) < 2 ^ ((n.log2 : Int) + 1) := by
    rw [h52]
    nlinarith
  rw [zpow_lt_zpow_iff_right₀ (by norm_num)] at h1 h2
  omega

theorem scaleDown_exact {m n : Nat} {e : Int} (hv : (m : ℚ) * 2 ^ e = n) :
    (scaleDown n 1 e).1 = m * (scaleDown n 1 e).2 := by
  have hp : (2 : ℚ) ^ e ≠ 0 := zpow_ne_zero _ (by norm_num)
  have hmul := scaleDown_mul n e
  rw [← hv] at hmul
  have hq : ((scaleDown n 1 e).1 : ℚ) = m * (scaleDown n 1 e).2 := by
    apply mul_right_cancel₀ hp
    rw [hmul]
    ring
  exact_mod_cast hq

/-- A positive binary64 of whole value is what that value is rounded to. -/
theorem ofNat?_exact {x : Binary64} {n : Nat} (hn : n ≠ 0) (hs : x.negative = false)
    (hv : (x.mantissa : ℚ) * 2 ^ x.exponent = n) : ofNat? n = some x := by
  have hm := x.mantissa_lt
  have hround : roundDiv (scaleDown n 1 x.exponent).1 (scaleDown n 1 x.exponent).2 = x.mantissa := by
    rw [scaleDown_exact hv, roundDiv_mul _ (scaleDown_pos n x.exponent)]
  rw [ofNat?_eq hn, ← exponent_of_whole hn hv, hround, if_neg (by omega),
    ofParts?_eq_some hm x.le_exponent x.exponent_le x.normal, ← hs]

theorem eq_zero_of_mantissa {x : Binary64} (h : x.mantissa = 0) : x = zero x.negative := by
  have he : x.exponent = -1074 := by
    rcases x.normal with hn | hn
    · omega
    · exact hn
  cases x
  cases h
  cases he
  rfl

/-- A number other than negative zero is nearest to the integer that is its value. -/
theorem nearest_of_toRat {x : Binary64} {n : WideInt} (hv : x.toRat = n.val) (hz : x ≠ zero true) :
    Wire.nearest n = x := by
  unfold toRat at hv
  by_cases hm : x.mantissa = 0
  · have hx := eq_zero_of_mantissa hm
    have hs : x.negative = false := by
      by_contra hs
      rw [Bool.not_eq_false] at hs
      rw [hs] at hx
      exact hz hx
    have hn : n.val = 0 := by
      rw [hm, Nat.cast_zero, zero_mul, mul_zero] at hv
      exact_mod_cast hv.symm
    rw [hx, hs, Wire.nearest, hn]
    rfl
  · have hpos : (0 : ℚ) < x.mantissa * 2 ^ x.exponent :=
      mul_pos (by exact_mod_cast Nat.pos_of_ne_zero hm) (zpow_pos (by norm_num) _)
    have hsign : decide (n.val < 0) = x.negative := by
      rw [Bool.eq_iff_iff, decide_eq_true_iff, ← Int.cast_lt_zero (R := ℚ), ← hv]
      cases x.negative
      · simpa using hpos.le
      · simpa using hpos
    have habs : (x.mantissa : ℚ) * 2 ^ x.exponent = n.val.natAbs := by
      rw [Nat.cast_natAbs, Int.cast_abs, ← hv, abs_mul, abs_of_pos hpos]
      cases x.negative <;> simp
    have hne : n.val.natAbs ≠ 0 := by
      intro h0
      rw [h0, Nat.cast_zero] at habs
      exact hpos.ne' habs
    unfold Wire.nearest
    rw [ofNat?_exact (x := x.withSign false) hne rfl habs, hsign]
    rfl

theorem nearest_ne_negative_zero (n : WideInt) : Wire.nearest n ≠ zero true := by
  unfold Wire.nearest
  by_cases hn : n.val < 0
  · obtain ⟨x, hx, hm, -⟩ := ofNat?_rounded (n := n.val.natAbs) (by omega) (by have := n.property; omega)
    rw [hx]
    intro h
    exact hm (congrArg mantissa h)
  · rw [decide_eq_false hn]
    intro h
    exact Bool.false_ne_true (congrArg negative h)

theorem zero_inRange : -9223372036854775808 ≤ (0 : Int) ∧ (0 : Int) < 18446744073709551616 := by decide

/-- Negative zero too counts as the integer zero. -/
theorem wideInt?_zero (negative : Bool) : (zero negative).wideInt? = some ⟨0, zero_inRange⟩ := by
  refine wideInt?_eq_some.mpr ⟨?_, by decide, by decide⟩
  simp [toRat, zero]

end BareMetal.Binary64

import Mathlib.Data.Nat.Notation

/-!
# ASCII characters

What is said of all ASCII characters can be decided, as is what is said of all
characters of a text. Letters and digits are ASCII characters.
-/

namespace BareMetal.Text

-- To go through all the characters there are would take too long.
instance (priority := 2000) decidableForallMem {p : Char → Prop} [DecidablePred p] (s : List Char) :
    Decidable (∀ c ∈ s, p c) :=
  List.decidableBAll p s

instance (priority := 2000) decidableForallHead {p : Char → Prop} [DecidablePred p] (c? : Option Char) :
    Decidable (∀ c ∈ c?, p c) :=
  Option.decidableForallMem c?

theorem of_ascii {p : Char → Prop} (h : ∀ n < 128, p (Char.ofNat n)) {c : Char} (hc : c.toNat < 128) : p c := by
  rw [← Char.ofNat_toNat c]
  exact h _ hc

theorem lt_of_isDigit {c : Char} (h : c.isDigit = true) : c.toNat < 128 := by
  have hc : c.toNat ≤ 57 := by
    simp only [Char.isDigit, Bool.and_eq_true, decide_eq_true_eq] at h
    exact h.2
  omega

theorem lt_of_isAlpha {c : Char} (h : c.isAlpha = true) : c.toNat < 128 := by
  have hc : c.toNat ≤ 90 ∨ c.toNat ≤ 122 := by
    refine (Bool.or_eq_true_iff.mp h).imp (fun hupper => ?_) fun hlower => ?_
    · have hrange : c.val ≥ 'A'.val ∧ c.val ≤ 'Z'.val := of_decide_eq_true hupper
      exact hrange.2
    · exact of_decide_eq_true (Bool.and_eq_true_iff.mp hlower).2
  omega

theorem isUpper_iff {c : Char} : c.isUpper = true ↔ 65 ≤ c.toNat ∧ c.toNat ≤ 90 := decide_eq_true_iff

theorem toNat_toLower (c : Char) : c.toLower.toNat = if c.isUpper = true then c.toNat + 32 else c.toNat := by
  by_cases hc : c.isUpper = true
  · have hval : c.toLower.val = c.val + 32 := by
      unfold Char.toLower
      rw [dif_pos (of_decide_eq_true hc)]
      rfl
    have hshift : (32 : UInt32).toNat = 32 := rfl
    have hrange := isUpper_iff.mp hc
    rw [if_pos hc, ← Char.toNat_val, hval, UInt32.toNat_add, Char.toNat_val, hshift]
    exact Nat.mod_eq_of_lt (by omega)
  · unfold Char.toLower
    rw [if_neg hc, dif_neg fun h => hc (decide_eq_true h)]

theorem lt_of_isAlphanum {c : Char} (h : c.isAlphanum = true) : c.toNat < 128 := by
  rw [Char.isAlphanum, Bool.or_eq_true] at h
  exact h.elim lt_of_isAlpha lt_of_isDigit

end BareMetal.Text

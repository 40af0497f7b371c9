import BareMetal.Text.Hex
import Mathlib.Algebra.Group.Nat.Defs
import Mathlib.Data.List.Induction
import Mathlib.Data.Nat.Notation

/-!
# Numerals

What `Nat.toDigits` writes is read as the same number: `numeral_toDigits`.
-/

namespace BareMetal.Text

theorem isDigit_toDigits (n : Nat) : ∀ c ∈ Nat.toDigits 10 n, c.isDigit = true :=
  fun _ hc => Nat.isDigit_of_mem_toDigits (by decide) (by decide) hc

theorem head_toDigits {n : Nat} (hn : n ≠ 0) : (Nat.toDigits 10 n).head? ≠ some '0' := by
  have hdigit : ∀ d < 10, d ≠ 0 → some (Nat.digitChar d) ≠ some '0' := by
    decide
  induction n using Nat.strongRecOn with
  | ind n ih =>
    rw [Nat.toDigits_eq_if (by decide)]
    split
    · rename_i hlt
      exact hdigit n hlt hn
    · have hhead := ih (n / 10) (by omega) (by omega)
      obtain ⟨c, r, heq⟩ := List.exists_cons_of_ne_nil (Nat.toDigits_ne_nil (n := n / 10) (b := 10))
      rw [heq] at hhead ⊢
      exact hhead

/-- No zero stands before other digits. -/
theorem toDigits_ne_zero_cons (n : Nat) (c : Char) (r : List Char) : Nat.toDigits 10 n ≠ '0' :: c :: r := by
  intro heq
  by_cases hn : n = 0
  · rw [hn, Nat.toDigits_zero] at heq
    cases heq
  · have hhead := head_toDigits hn
    rw [heq] at hhead
    exact hhead rfl

theorem hexValue?_digitChar {d : Nat} (h : d < 16) : hexValue? (Nat.digitChar d) = some d := by
  have hall : ∀ d < 16, hexValue? (Nat.digitChar d) = some d := by decide
  exact hall d h

/-- Digits are ASCII characters with values below 16. -/
theorem of_hexValue? {c : Char} {d : Nat} (h : hexValue? c = some d) : d < 16 ∧ c.toNat < 128 := by
  have hcode : (c.toNat ≤ 57 ∧ c.toNat - 48 = d) ∨ (97 ≤ c.toNat ∧ c.toNat ≤ 102 ∧ c.toNat - 87 = d) ∨
      (65 ≤ c.toNat ∧ c.toNat ≤ 70 ∧ c.toNat - 55 = d) := by
    unfold hexValue? at h
    split at h
    · rename_i hc
      exact .inl ⟨(Char.isDigit_iff_toNat.mp hc).2, Option.some.inj h⟩
    · split at h
      · rename_i hc
        exact .inr (.inl ⟨hc.1, hc.2, Option.some.inj h⟩)
      · split at h
        · rename_i hc
          exact .inr (.inr ⟨hc.1, hc.2, Option.some.inj h⟩)
        · cases h
  omega

section
variable {b : Nat} (hb : 1 < b)
include hb

theorem mem_toDigits {n : Nat} {c : Char} : c ∈ Nat.toDigits b n → ∃ d < b, c = Nat.digitChar d := by
  induction n using Nat.strongRecOn with
  | ind n ih =>
    rw [Nat.toDigits_eq_if hb]
    split
    · rename_i hn
      intro hc
      exact ⟨n, hn, List.mem_singleton.mp hc⟩
    · intro hc
      rcases List.mem_append.mp hc with hc | hc
      · exact ih (n / b) (Nat.div_lt_self (by omega) hb) hc
      · exact ⟨n % b, Nat.mod_lt _ (by omega), List.mem_singleton.mp hc⟩

theorem numeral_toDigits (h16 : b ≤ 16) (n : Nat) : numeral b (Nat.toDigits b n) = n := by
  induction n using Nat.strongRecOn with
  | ind n ih =>
    rw [Nat.toDigits_eq_if hb]
    split
    · simp [numeral, hexValue?_digitChar (show n < 16 by omega)]
    · have hmod := Nat.mod_lt n (show 0 < b by omega)
      have hfront := ih (n / b) (Nat.div_lt_self (by omega) hb)
      rw [numeral] at hfront
      rw [numeral, List.foldl_append, hfront, List.foldl_cons, List.foldl_nil, hexValue?_digitChar (by omega),
        Option.getD_some, Nat.mul_comm]
      exact Nat.div_add_mod n b

end

theorem numeral_lt {b : Nat} {s : List Char} (h : ∀ c ∈ s, ∃ d < b, hexValue? c = some d) :
    numeral b s < b ^ s.length := by
  induction s using List.reverseRecOn with
  | nil => simp [numeral]
  | append_singleton s c ih =>
    rw [List.forall_mem_append, List.forall_mem_singleton] at h
    obtain ⟨d, hd, hc⟩ := h.2
    have hfront := ih h.1
    rw [numeral] at hfront
    rw [numeral, List.foldl_append, List.foldl_cons, List.foldl_nil, hc, Option.getD_some, List.length_append,
      List.length_singleton, Nat.pow_succ]
    calc s.foldl (fun n c => n * b + (hexValue? c).getD 0) 0 * b + d
        < s.foldl (fun n c => n * b + (hexValue? c).getD 0) 0 * b + b := Nat.add_lt_add_left hd _
      _ = (s.foldl (fun n c => n * b + (hexValue? c).getD 0) 0 + 1) * b := by rw [Nat.add_mul, Nat.one_mul]
      _ ≤ b ^ s.length * b := Nat.mul_le_mul_right b hfront

end BareMetal.Text

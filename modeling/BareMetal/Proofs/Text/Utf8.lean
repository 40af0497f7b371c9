import BareMetal.Text.Utf8
import Mathlib.Data.String.Basic

/-!
# Texts and their bytes

`encode_lt_encode`: texts are in the order of their code points as their encodings
are in the order of bytes. `decode?_encode`: no text is lost.
-/

namespace BareMetal.Utf8

/-! ## The order of bytes -/

/-- Whatever follows, the bytes of a lower character come first. -/
theorem encodeChar_append_lt {c d : Char} (h : c < d) (r s : List UInt8) :
    String.utf8EncodeChar c ++ r < String.utf8EncodeChar d ++ s := by
  have hlt : c.val.toNat < d.val.toNat := h
  have hd : d.val.toNat < 1114112 := by
    rcases d.valid with hd | ⟨-, hd⟩
    · exact Nat.lt_trans hd (by decide)
    · exact hd
  unfold String.utf8EncodeChar
  dsimp only
  generalize c.val.toNat = v, d.val.toNat = w at hlt hd
  -- The first byte of four has room for more than there is.
  have hw : w / 262144 % 8 = w / 262144 := Nat.mod_eq_of_lt (by omega)
  split_ifs <;>
    simp only [List.cons_append, List.nil_append, List.cons_lt_cons_iff, UInt8.lt_iff_toNat_lt,
      ← UInt8.toNat_inj, UInt8.toNat_ofNat'] <;>
    simp (disch := omega) only [Nat.mod_eq_of_lt] <;>
    omega

theorem encode_lt_of_lt {s t : List Char} (h : s < t) : encode s < encode t := by
  unfold encode
  induction h with
  | @nil c t =>
    rw [List.flatMap_nil, List.flatMap_cons]
    obtain ⟨b, rest, hb⟩ := List.exists_cons_of_ne_nil (String.utf8EncodeChar_ne_nil (c := c))
    rw [hb]
    exact .nil
  | rel h => exact encodeChar_append_lt h _ _
  | cons _ ih => exact List.append_left_lt ih

theorem encode_lt_encode {s t : String} : encode s.toList < encode t.toList ↔ s < t := by
  constructor
  · intro h
    rcases Std.lt_trichotomy s t with hlt | rfl | hgt
    · exact hlt
    · exact absurd h (List.lt_irrefl _)
    · exact absurd h (List.lt_asymm (encode_lt_of_lt (String.lt_iff_toList_lt.mp hgt)))
  · exact fun h => encode_lt_of_lt (String.lt_iff_toList_lt.mp h)

/-! ## Reading what was written -/

section
variable {n : Nat} {b : UInt8} {rest : List UInt8}

theorem scan_ascii (hn : n < 0x80) (hb : b.toNat = n) : scan 0 (b :: rest) = some (Char.ofNat n) :: scan 0 rest := by
  rw [scan, character, if_pos (by omega), hb]

/-- A character of several bytes begins with one that says how many follow, and bounds the next. -/
theorem scan_lead {lo hi k bits : Nat} (hlead : lead? b.toNat = some (lo, hi, k, bits)) (hb : 0x80 ≤ b.toNat)
    (hrest : continuation bits k lo hi rest = (some n, k)) :
    scan 0 (b :: rest) = some (Char.ofNat n) :: scan k rest := by
  rw [scan, character, if_neg (by omega), hlead]
  dsimp only
  rw [hrest]
  rfl

theorem continuation_cons {bits k lo hi value taken : Nat} (hlo : lo ≤ b.toNat) (hhi : b.toNat ≤ hi)
    (h : continuation (bits * 64 + (b.toNat - 0x80)) k 0x80 0xbf rest = (some value, taken)) :
    continuation bits (k + 1) lo hi (b :: rest) = (some value, taken + 1) := by
  rw [continuation]
  simp only [hlo, hhi, and_self, if_true, h]

theorem continuation_zero {bits lo hi : Nat} (h : bits = n) : continuation bits 0 lo hi rest = (some n, 0) := by
  rw [continuation, h]

theorem lead_two {b : Nat} (h : 0xc2 ≤ b ∧ b ≤ 0xdf) : lead? b = some (0x80, 0xbf, 1, b - 0xc0) := if_pos h

theorem lead_three {b : Nat} (h : 0xe0 ≤ b ∧ b ≤ 0xef) : lead? b =
    some (if b = 0xe0 then 0xa0 else 0x80, if b = 0xed then 0x9f else 0xbf, 2, b - 0xe0) := by
  obtain ⟨d, rfl⟩ := Nat.exists_eq_add_of_le h.1
  have hall : ∀ d < 16, lead? (0xe0 + d) = some (if 0xe0 + d = 0xe0 then 0xa0 else 0x80,
      if 0xe0 + d = 0xed then 0x9f else 0xbf, 2, 0xe0 + d - 0xe0) := by decide
  exact hall d (by omega)

theorem lead_four {b : Nat} (h : 0xf0 ≤ b ∧ b ≤ 0xf4) : lead? b =
    some (if b = 0xf0 then 0x90 else 0x80, if b = 0xf4 then 0x8f else 0xbf, 3, b - 0xf0) := by
  obtain ⟨d, rfl⟩ := Nat.exists_eq_add_of_le h.1
  have hall : ∀ d < 5, lead? (0xf0 + d) = some (if 0xf0 + d = 0xf0 then 0x90 else 0x80,
      if 0xf0 + d = 0xf4 then 0x8f else 0xbf, 3, 0xf0 + d - 0xf0) := by decide
  exact hall d (by omega)

end

theorem scan_encodeChar (c : Char) (rest : List UInt8) :
    scan 0 (String.utf8EncodeChar c ++ rest) = some c :: scan 0 rest := by
  have hc : c.val.toNat < 0xd800 ∨ 0xdfff < c.val.toNat ∧ c.val.toNat < 0x110000 := c.valid
  have hv : some c = some (Char.ofNat c.val.toNat) := congrArg some (Char.ofNat_toNat c).symm
  rw [hv]
  unfold String.utf8EncodeChar
  dsimp only
  generalize c.val.toNat = v at hc
  split_ifs with h1 h2 h3
  · exact scan_ascii (by omega) (by simp; omega)
  · have hb₀ : (UInt8.ofNat (v / 64 % 32 + 192)).toNat = v / 64 + 192 := by simp; omega
    have hb₁ : (UInt8.ofNat (v % 64 + 128)).toNat = v % 64 + 128 := by simp; omega
    refine scan_lead (lead_two (by omega)) (by omega) ?_
    exact continuation_cons (by omega) (by omega) (continuation_zero (by omega))
  · have hb₀ : (UInt8.ofNat (v / 4096 % 16 + 224)).toNat = v / 4096 + 224 := by simp; omega
    have hb₁ : (UInt8.ofNat (v / 64 % 64 + 128)).toNat = v / 64 % 64 + 128 := by simp; omega
    have hb₂ : (UInt8.ofNat (v % 64 + 128)).toNat = v % 64 + 128 := by simp; omega
    refine scan_lead (lead_three (by omega)) (by omega) ?_
    refine continuation_cons ?_ ?_ (continuation_cons (by omega) (by omega) (continuation_zero (by omega)))
    · split <;> omega
    · split <;> omega
  · have hb₀ : (UInt8.ofNat (v / 262144 % 8 + 240)).toNat = v / 262144 + 240 := by simp; omega
    have hb₁ : (UInt8.ofNat (v / 4096 % 64 + 128)).toNat = v / 4096 % 64 + 128 := by simp; omega
    have hb₂ : (UInt8.ofNat (v / 64 % 64 + 128)).toNat = v / 64 % 64 + 128 := by simp; omega
    have hb₃ : (UInt8.ofNat (v % 64 + 128)).toNat = v % 64 + 128 := by simp; omega
    refine scan_lead (lead_four (by omega)) (by omega) ?_
    refine continuation_cons ?_ ?_ (continuation_cons (by omega) (by omega)
      (continuation_cons (by omega) (by omega) (continuation_zero (by omega))))
    · split <;> omega
    · split <;> omega

/-- **Decoding is the inverse of encoding.** -/
theorem decode?_encode (s : List Char) : decode? (encode s) = some s := by
  have hscan : scan 0 (encode s) = s.map some := by
    induction s with
    | nil => rfl
    | cons c s ih => rw [encode, List.flatMap_cons, scan_encodeChar, ← encode, ih, List.map_cons]
  have hall : (s.map some).mapM id = some s := by
    clear hscan
    induction s with
    | nil => rfl
    | cons c s ih => rw [List.map_cons, List.mapM_cons, ih]; rfl
  rw [decode?, hscan, hall]

end BareMetal.Utf8

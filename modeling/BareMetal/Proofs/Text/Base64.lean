import BareMetal.Proofs.Text.Ascii
import BareMetal.Text.Base64

/-!
# Reading base64

`decode?` reads whole groups of four letters. The last group may be filled up with
equals signs, and the bits that it has too many must be zero. Main statement:
`decode?_eq_some`, what is written for some bytes is the one text that is read as
them.
-/

namespace BareMetal.Base64

/-- Capital letters, small letters and digits in their order, and then the plus sign and the slash. -/
def value? (c : Char) : Option Nat :=
  if c.isUpper then some (c.toNat - 65)
  else if c.isLower then some (c.toNat - 97 + 26)
  else if c.isDigit then some (c.toNat - 48 + 52)
  else if c = '+' then some 62
  else if c = '/' then some 63
  else none

/-- The bytes of a last group that ends in an equals sign. -/
def lastGroup? (a b c : Char) : Option (List UInt8) := do
  let x ← value? a
  let y ← value? b
  if c = '=' then
    let n := x * 64 + y
    if n % 16 = 0 then some [UInt8.ofNat (n / 16)] else none
  else
    let z ← value? c
    let n := (x * 64 + y) * 64 + z
    if n % 4 = 0 then some [UInt8.ofNat (n / 1024), UInt8.ofNat (n / 4)] else none

def decode? : List Char → Option (List UInt8)
  | [] => some []
  | a :: b :: c :: d :: rest =>
    if rest = [] ∧ d = '=' then lastGroup? a b c
    else do
      let x ← value? a
      let y ← value? b
      let z ← value? c
      let w ← value? d
      let n := ((x * 64 + y) * 64 + z) * 64 + w
      let more ← decode? rest
      some (UInt8.ofNat (n / 65536) :: UInt8.ofNat (n / 256) :: UInt8.ofNat n :: more)
  | _ => none

/-! ## Letters -/

theorem value?_letter {n : Nat} (h : n < 64) : value? (letter n) = some n := by
  have hall : ∀ n < 64, value? (letter n) = some n := by decide +kernel
  exact hall n h

theorem letter_ne_pad {n : Nat} (h : n < 64) : letter n ≠ '=' := by
  intro hpad
  have hvalue := value?_letter h
  rw [hpad] at hvalue
  cases hvalue

theorem lt_of_value? {c : Char} {n : Nat} (h : value? c = some n) : c.toNat < 128 := by
  by_cases hupper : c.isUpper = true
  · exact Text.lt_of_isAlpha (Bool.or_eq_true_iff.mpr (.inl hupper))
  by_cases hlower : c.isLower = true
  · exact Text.lt_of_isAlpha (Bool.or_eq_true_iff.mpr (.inr hlower))
  by_cases hdigit : c.isDigit = true
  · exact Text.lt_of_isDigit hdigit
  by_cases hplus : c = '+'
  · subst hplus
    decide
  by_cases hslash : c = '/'
  · subst hslash
    decide
  simp [value?, hupper, hlower, hdigit, hplus, hslash] at h

theorem of_value? {c : Char} {n : Nat} (h : value? c = some n) : n < 64 ∧ c = letter n := by
  have hall : ∀ m < 128, ∀ n ∈ value? (Char.ofNat m), n < 64 ∧ Char.ofNat m = letter n := by
    decide +kernel
  exact Text.of_ascii (p := fun c => ∀ n ∈ value? c, n < 64 ∧ c = letter n) hall (lt_of_value? h) n h

/-! ## Groups

Bytes and letters that are the same number in base 256 and in base 64. -/

theorem ofNat_eq {n : Nat} {a : UInt8} (h : n % 256 = a.toNat) : UInt8.ofNat n = a := by
  apply UInt8.toNat_inj.mp
  rw [UInt8.toNat_ofNat', h]

section

variable {x y z w : Nat} {a b c : UInt8}
  (h : (a.toNat * 256 + b.toNat) * 256 + c.toNat = ((x * 64 + y) * 64 + z) * 64 + w)
include h

theorem encode_group (hy : y < 64) (hz : z < 64) (hw : w < 64) (rest : List UInt8) :
    encode (a :: b :: c :: rest) = letter x :: letter y :: letter z :: letter w :: encode rest := by
  have h1 : (((x * 64 + y) * 64 + z) * 64 + w) / 262144 = x := by omega
  have h2 : (((x * 64 + y) * 64 + z) * 64 + w) / 4096 % 64 = y := by omega
  have h3 : (((x * 64 + y) * 64 + z) * 64 + w) / 64 % 64 = z := by omega
  have h4 : (((x * 64 + y) * 64 + z) * 64 + w) % 64 = w := by omega
  simp only [encode, h, h1, h2, h3, h4]

theorem decode?_group (hx : x < 64) (hy : y < 64) (hz : z < 64) (hw : w < 64) (rest : List Char) :
    decode? (letter x :: letter y :: letter z :: letter w :: rest) =
      (decode? rest).map fun more => a :: b :: c :: more := by
  have ha := a.toNat_lt
  have hb := b.toNat_lt
  have hc := c.toNat_lt
  have h1 := ofNat_eq (n := (((x * 64 + y) * 64 + z) * 64 + w) / 65536) (a := a) (by omega)
  have h2 := ofNat_eq (n := (((x * 64 + y) * 64 + z) * 64 + w) / 256) (a := b) (by omega)
  have h3 := ofNat_eq (n := ((x * 64 + y) * 64 + z) * 64 + w) (a := c) (by omega)
  rw [decode?, if_neg fun hpad => letter_ne_pad hw hpad.2]
  simp only [value?_letter hx, value?_letter hy, value?_letter hz, value?_letter hw, bind,
    Option.bind_some, h1, h2, h3]
  cases decode? rest <;> rfl

end

section

variable {x y z : Nat} {a b : UInt8} (h : (a.toNat * 256 + b.toNat) * 4 = (x * 64 + y) * 64 + z)
include h

theorem encode_two (hy : y < 64) (hz : z < 64) : encode [a, b] = [letter x, letter y, letter z, '='] := by
  have h1 : ((x * 64 + y) * 64 + z) / 4096 = x := by omega
  have h2 : ((x * 64 + y) * 64 + z) / 64 % 64 = y := by omega
  have h3 : ((x * 64 + y) * 64 + z) % 64 = z := by omega
  simp only [encode, h, h1, h2, h3]

theorem decode?_two (hx : x < 64) (hy : y < 64) (hz : z < 64) :
    decode? [letter x, letter y, letter z, '='] = some [a, b] := by
  have ha := a.toNat_lt
  have hb := b.toNat_lt
  have h1 := ofNat_eq (n := ((x * 64 + y) * 64 + z) / 1024) (a := a) (by omega)
  have h2 := ofNat_eq (n := ((x * 64 + y) * 64 + z) / 4) (a := b) (by omega)
  have hspare : ((x * 64 + y) * 64 + z) % 4 = 0 := by omega
  rw [decode?, if_pos ⟨rfl, rfl⟩]
  simp [lastGroup?, letter_ne_pad hz, value?_letter hx, value?_letter hy, value?_letter hz, h1, h2, hspare]

end

section

variable {x y : Nat} {a : UInt8} (h : a.toNat * 16 = x * 64 + y)
include h

theorem encode_one (hy : y < 64) : encode [a] = [letter x, letter y, '=', '='] := by
  have h1 : (x * 64 + y) / 64 = x := by omega
  have h2 : (x * 64 + y) % 64 = y := by omega
  simp only [encode, h, h1, h2]

theorem decode?_one (hx : x < 64) (hy : y < 64) : decode? [letter x, letter y, '=', '='] = some [a] := by
  have ha := a.toNat_lt
  have h1 := ofNat_eq (n := (x * 64 + y) / 16) (a := a) (by omega)
  have hspare : (x * 64 + y) % 16 = 0 := by omega
  rw [decode?, if_pos ⟨rfl, rfl⟩]
  simp [lastGroup?, value?_letter hx, value?_letter hy, h1, hspare]

end

/-! ## All groups -/

theorem decode?_encode (bs : List UInt8) : decode? (encode bs) = some bs := by
  induction bs using encode.induct with
  | case1 a b c rest ih =>
    let n := (a.toNat * 256 + b.toNat) * 256 + c.toNat
    have ha := a.toNat_lt
    have hx : n / 262144 < 64 := by
      have hb := b.toNat_lt
      have hc := c.toNat_lt
      omega
    have hy : n / 4096 % 64 < 64 := Nat.mod_lt _ (by decide)
    have hz : n / 64 % 64 < 64 := Nat.mod_lt _ (by decide)
    have hw : n % 64 < 64 := Nat.mod_lt _ (by decide)
    have h : n = ((n / 262144 * 64 + n / 4096 % 64) * 64 + n / 64 % 64) * 64 + n % 64 := by omega
    rw [encode_group h hy hz hw, decode?_group h hx hy hz hw, ih, Option.map_some]
  | case2 a b =>
    let n := (a.toNat * 256 + b.toNat) * 4
    have ha := a.toNat_lt
    have hx : n / 4096 < 64 := by
      have hb := b.toNat_lt
      omega
    have hy : n / 64 % 64 < 64 := Nat.mod_lt _ (by decide)
    have hz : n % 64 < 64 := Nat.mod_lt _ (by decide)
    have h : n = (n / 4096 * 64 + n / 64 % 64) * 64 + n % 64 := by omega
    rw [encode_two h hy hz, decode?_two h hx hy hz]
  | case3 a =>
    let n := a.toNat * 16
    have ha := a.toNat_lt
    have hx : n / 64 < 64 := by omega
    have hy : n % 64 < 64 := Nat.mod_lt _ (by decide)
    have h : n = n / 64 * 64 + n % 64 := by omega
    rw [encode_one h hy, decode?_one h hx hy]
  | case4 => rfl

/-- A last group that is read is written for what it is read as. -/
theorem eq_encode_of_lastGroup? {a b c : Char} {bs : List UInt8} (h : lastGroup? a b c = some bs) :
    [a, b, c, '='] = encode bs := by
  simp only [lastGroup?, bind, Option.bind_eq_some_iff] at h
  obtain ⟨x, hx, y, hy, h⟩ := h
  obtain ⟨xlt, rfl⟩ := of_value? hx
  obtain ⟨ylt, rfl⟩ := of_value? hy
  by_cases hc : c = '='
  · rw [if_pos hc, Option.ite_none_right_eq_some] at h
    obtain ⟨hspare, hbs⟩ := h
    cases hbs
    have hvalue : (UInt8.ofNat ((x * 64 + y) / 16)).toNat * 16 = x * 64 + y := by
      rw [UInt8.toNat_ofNat']
      omega
    rw [hc, encode_one hvalue ylt]
  · rw [if_neg hc, Option.bind_eq_some_iff] at h
    obtain ⟨z, hz, h⟩ := h
    obtain ⟨zlt, rfl⟩ := of_value? hz
    rw [Option.ite_none_right_eq_some] at h
    obtain ⟨hspare, hbs⟩ := h
    cases hbs
    have hvalue : ((UInt8.ofNat (((x * 64 + y) * 64 + z) / 1024)).toNat * 256 +
        (UInt8.ofNat (((x * 64 + y) * 64 + z) / 4)).toNat) * 4 = (x * 64 + y) * 64 + z := by
      rw [UInt8.toNat_ofNat', UInt8.toNat_ofNat']
      omega
    rw [encode_two hvalue ylt zlt]

theorem eq_encode_of_decode? {s : List Char} {bs : List UInt8} (h : decode? s = some bs) : s = encode bs := by
  induction s using decode?.induct generalizing bs with
  | case1 =>
    cases h
    rfl
  | case2 a b c d rest hpad =>
    obtain ⟨rfl, rfl⟩ := hpad
    rw [decode?, if_pos ⟨rfl, rfl⟩] at h
    exact eq_encode_of_lastGroup? h
  | case3 a b c d rest hpad ih =>
    rw [decode?, if_neg hpad] at h
    simp only [bind, Option.bind_eq_some_iff] at h
    obtain ⟨x, hx, y, hy, z, hz, w, hw, more, hmore, hbs⟩ := h
    obtain ⟨xlt, rfl⟩ := of_value? hx
    obtain ⟨ylt, rfl⟩ := of_value? hy
    obtain ⟨zlt, rfl⟩ := of_value? hz
    obtain ⟨wlt, rfl⟩ := of_value? hw
    cases hbs
    have hvalue : ((UInt8.ofNat ((((x * 64 + y) * 64 + z) * 64 + w) / 65536)).toNat * 256 +
        (UInt8.ofNat ((((x * 64 + y) * 64 + z) * 64 + w) / 256)).toNat) * 256 +
        (UInt8.ofNat (((x * 64 + y) * 64 + z) * 64 + w)).toNat = ((x * 64 + y) * 64 + z) * 64 + w := by
      rw [UInt8.toNat_ofNat', UInt8.toNat_ofNat', UInt8.toNat_ofNat']
      omega
    rw [encode_group hvalue ylt zlt wlt, ← ih hmore]
  | case4 t hnil hgroup =>
    unfold decode? at h
    split at h
    · exact absurd rfl hnil
    · exact absurd rfl (hgroup _ _ _ _ _)
    · cases h

/-- **What is written for some bytes is the one text that is read as them.** -/
theorem decode?_eq_some {s : List Char} {bs : List UInt8} : decode? s = some bs ↔ s = encode bs := by
  constructor
  · exact eq_encode_of_decode?
  · intro h
    rw [h, decode?_encode]

/-- Four letters for every three bytes that are begun. -/
theorem length_encode (bs : List UInt8) : (encode bs).length = 4 * ((bs.length + 2) / 3) := by
  induction bs using encode.induct with
  | case1 a b c rest ih =>
    simp only [encode, List.length_cons, ih]
    omega
  | case2 a b => simp [encode]
  | case3 a => simp [encode]
  | case4 => rfl

end BareMetal.Base64

/-!
# Finite binary64 numbers

A `Binary64` is a sign, a mantissa below `2^53 = 9007199254740992` and a power of
two, in the one normal form the format stores. All arithmetic here is exact
arithmetic on natural numbers followed by a single rounding to nearest, ties to
even.
-/

namespace BareMetal

/-- Quotient rounded to nearest; a tie goes to the even neighbour. -/
def roundDiv (num den : Nat) : Nat :=
  let q := num / den
  let r := num % den
  if den < 2 * r ∨ (2 * r = den ∧ q % 2 = 1) then q + 1 else q

/-- The finite number `± mantissa · 2^exponent`. A mantissa below `2^52 = 4503599627370496`
occurs only at the lowest exponent, so each number other than zero has one form and zero has
two, one for each sign. -/
structure Binary64 where
  negative : Bool
  mantissa : Nat
  exponent : Int
  mantissa_lt : mantissa < 9007199254740992
  le_exponent : -1074 ≤ exponent
  exponent_le : exponent ≤ 971
  normal : 4503599627370496 ≤ mantissa ∨ exponent = -1074
deriving DecidableEq

namespace Binary64

def zero (negative : Bool) : Binary64 :=
  ⟨negative, 0, -1074, by decide, by decide, by decide, .inr rfl⟩

instance : Inhabited Binary64 := ⟨zero false⟩

def isZero (x : Binary64) : Bool := x.mantissa == 0

/-- The number with these parts, if the parts are in normal form. -/
def ofParts? (negative : Bool) (mantissa : Nat) (exponent : Int) : Option Binary64 :=
  if h : mantissa < 9007199254740992 ∧ -1074 ≤ exponent ∧ exponent ≤ 971 ∧
      (4503599627370496 ≤ mantissa ∨ exponent = -1074) then
    some ⟨negative, mantissa, exponent, h.1, h.2.1, h.2.2.1, h.2.2.2⟩
  else none

/-- `num / den` divided by `2^e`, again as a fraction. -/
def scaleDown (num den : Nat) (e : Int) : Nat × Nat :=
  if 0 ≤ e then (num, den * Nat.pow 2 e.toNat) else (num * Nat.pow 2 (-e).toNat, den)

/-- The exponent at which `num / den` has a mantissa of 53 bits, or the lowest one. -/
def exponentFor (num den : Nat) : Int :=
  let k : Int := (Nat.log2 num : Int) - Nat.log2 den
  let (n, d) := scaleDown num den k
  max (if d ≤ n then k - 52 else k - 53) (-1074)

/-- The number nearest to `± num / den`, or `none` beyond the largest finite one. -/
def ofRatio? (negative : Bool) (num den : Nat) : Option Binary64 :=
  if num = 0 then some (zero negative) else
  let e := exponentFor num den
  let (n, d) := scaleDown num den e
  let m := roundDiv n d
  if m = 9007199254740992 then ofParts? negative 4503599627370496 (e + 1)
  else ofParts? negative m e

def ofNat? (n : Nat) : Option Binary64 := ofRatio? false n 1

def ratio (x : Binary64) : Nat × Nat :=
  if 0 ≤ x.exponent then (x.mantissa * Nat.pow 2 x.exponent.toNat, 1)
  else (x.mantissa, Nat.pow 2 (-x.exponent).toNat)

/-- Rounded product; `none` when it is not finite. -/
def mul? (x y : Binary64) : Option Binary64 :=
  ofRatio? (x.negative != y.negative) (x.ratio.1 * y.ratio.1) (x.ratio.2 * y.ratio.2)

/-- Rounded quotient of `x` by a nonzero `y`; `none` when it is not finite. -/
def div? (x y : Binary64) : Option Binary64 :=
  ofRatio? (x.negative != y.negative) (x.ratio.1 * y.ratio.2) (x.ratio.2 * y.ratio.1)

def neg (x : Binary64) : Binary64 := { x with negative := !x.negative }

def withSign (negative : Bool) (x : Binary64) : Binary64 := { x with negative := negative }

/-- Equality as numbers: the two zeros are one number. -/
def numEq (x y : Binary64) : Bool := x = y || (x.isZero && y.isZero)

def whole? (x : Binary64) : Option Int :=
  let (n, d) := x.ratio
  if n % d = 0 then
    let v : Int := (n / d : Nat)
    some (if x.negative then -v else v)
  else none

/-- The number nearest to `± digits · 10^power`, or `none` beyond the largest finite one.
Powers that no rounding can bring back into range are settled without computing them. -/
def ofDecimal? (negative : Bool) (digits : Nat) (power : Int) : Option Binary64 :=
  if digits = 0 then some (zero negative)
  else
    let size : Int := Nat.log2 digits
    if power < -345 - size then some (zero negative)
    else if 310 < power then none
    else if 0 ≤ power then ofRatio? negative (digits * Nat.pow 10 power.toNat) 1
    else ofRatio? negative digits (Nat.pow 10 (-power).toNat)

end Binary64

end BareMetal

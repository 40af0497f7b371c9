import BareMetal.Number.Binary64

/-!
# Shortest decimals

Among the decimals that round to a given `Binary64`, `shortest` finds one on the
coarsest grid of powers of ten that has any, and of those the nearest.
-/

namespace BareMetal.Binary64

/-- Where the numbers that round to `x` lie, in quarters of the last place of the mantissa:
between `low` and `high` around `mid`, the ends included when `closed`. -/
structure Basin where
  low : Nat
  mid : Nat
  high : Nat
  closed : Bool

/-- The step below a power of two is half as wide as the step above it. -/
def basin (x : Binary64) : Basin where
  low :=
    if x.mantissa = 4503599627370496 ∧ -1074 < x.exponent then 4 * x.mantissa - 1
    else 4 * x.mantissa - 2
  mid := 4 * x.mantissa
  high := 4 * x.mantissa + 2
  closed := x.mantissa % 2 = 0

/-- A quarter of the last place of `x`, as a fraction of `10^power`. -/
def quarterOn (x : Binary64) (power : Int) : Nat × Nat :=
  let e := x.exponent - 2
  (Nat.pow 2 e.toNat * Nat.pow 10 (-power).toNat, Nat.pow 2 (-e).toNat * Nat.pow 10 power.toNat)

/-- The multiple of `10^power` nearest to `x` among those that round to `x`. -/
def onGrid? (x : Binary64) (power : Int) : Option Nat :=
  let (a, b) := x.quarterOn power
  let inside (c : Nat) : Bool :=
    if x.basin.closed then x.basin.low * a ≤ c * b ∧ c * b ≤ x.basin.high * a
    else x.basin.low * a < c * b ∧ c * b < x.basin.high * a
  let c := x.basin.mid * a / b
  let below := inside c
  let above := inside (c + 1)
  if below && above then some (roundDiv (x.basin.mid * a) b)
  else if below then some c
  else if above then some (c + 1)
  else none

/-- The first grid with a hit, from `10^power` downward. -/
def firstGrid (x : Binary64) : Nat → Int → Nat × Int
  | 0, power => (x.basin.mid, power)
  | n + 1, power =>
    match x.onGrid? power with
    | some c => (c, power)
    | none => firstGrid x n (power - 1)

/-- `c` and `p` with `c · 10^p` the shortest decimal for the magnitude of `x`. Seventeen digits
always suffice, and the search starts at most three grids above the leading one. -/
def shortest (x : Binary64) : Nat × Int :=
  if x.isZero then (0, 0)
  else
    let top := (Nat.log2 x.mantissa : Int) + x.exponent
    firstGrid x 24 (top * 30103 / 100000 + 2)

end BareMetal.Binary64

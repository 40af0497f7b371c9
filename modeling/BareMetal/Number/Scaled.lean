import BareMetal.Number.Binary64

/-!
# A significand scaled by a power of ten

Numbers are read in two roundings: the significand becomes a binary64 first and
is then multiplied or divided by the binary64 nearest to the power of ten. The
result can differ from the correctly rounded decimal in the last place.
-/

namespace BareMetal.Binary64

/-- The binary64 nearest to `10^k`, for `k` up to 308. -/
def tenPow (k : Nat) : Binary64 := (ofNat? (Nat.pow 10 k)).getD (zero false)

/-- `significand · 10^power`; `none` when it is not finite. A significand of 64 bits divided
twice by `10^308` is zero. -/
def scaled? (significand : Nat) (power : Int) : Option Binary64 := do
  let f ← ofNat? significand
  let k := power.natAbs
  if f.isZero then some f
  else if 0 ≤ power then
    if k ≤ 308 then f.mul? (tenPow k) else none
  else if k ≤ 308 then f.div? (tenPow k)
  else if k ≤ 616 then (f.div? (tenPow 308)).bind (·.div? (tenPow (k - 308)))
  else some (zero false)

end BareMetal.Binary64

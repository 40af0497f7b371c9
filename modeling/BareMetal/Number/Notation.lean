import BareMetal.Number.Shortest

/-!
# Decimal notations for binary64

Two ways of writing the shortest decimal: `jsonText` changes to an exponent for
very large and very small numbers and always shows that the number is not an
integer, `plainText` never uses an exponent and writes whole numbers bare.
-/

namespace BareMetal.Binary64

/-- The digits `c` with the point moved `power` places: integer part and fraction. -/
def placed (c : Nat) (power : Int) : String × String :=
  let ds := toString c
  if 0 ≤ power then (ds ++ String.ofList (List.replicate power.toNat '0'), "")
  else
    let k := (-power).toNat
    let padded := List.replicate (k + 1 - ds.length) '0' ++ ds.toList
    let (whole, fraction) := padded.splitAt (padded.length - k)
    (String.ofList whole, String.ofList fraction)

def sign (x : Binary64) : String := if x.negative then "-" else ""

/-- Exponent form: one digit before the point, a signed exponent without padding. -/
def scientific (c : Nat) (power : Int) : String :=
  let ds := (toString c).toList
  let e := power + ds.length - 1
  let tail := match ds.drop 1 with
    | [] => ""
    | rest => "." ++ String.ofList rest
  String.ofList (ds.take 1) ++ tail ++ "e" ++ (if 0 ≤ e then "+" else "-") ++ toString e.natAbs

/-- Positional from `10^-5` up to `10^16`, with at least one digit after the point. -/
def jsonText (x : Binary64) : String :=
  let (c, power) := x.shortest
  let lead := power + (toString c).length - 1
  if x.isZero ∨ (-5 ≤ lead ∧ lead ≤ 15) then
    let (whole, fraction) := placed c power
    x.sign ++ whole ++ "." ++ (if fraction.isEmpty then "0" else fraction)
  else x.sign ++ scientific c power

def plainText (x : Binary64) : String :=
  let (c, power) := x.shortest
  let (whole, fraction) := placed c power
  x.sign ++ whole ++ (if fraction.isEmpty then "" else "." ++ fraction)

end BareMetal.Binary64

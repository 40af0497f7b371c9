import BareMetal.Text.Blank
import BareMetal.Text.Quoted

/-!
# API versions

`major.minor[.patch]`, ordered part by part. `parse` reads what `text` writes,
and tolerates surrounding blanks, leading zeros and a plus sign on each part.
-/

namespace BareMetal

structure Version where
  major : UInt32
  minor : UInt32
  patch : UInt32
deriving DecidableEq, Repr

namespace Version

def majorMinor (v : Version) : Nat × Nat := (v.major.toNat, v.minor.toNat)

def text (v : Version) : String :=
  toString v.major ++ "." ++ toString v.minor ++ "." ++ toString v.patch

/-- Order of the parts, the first difference deciding. -/
def cmp (a b : Version) : Ordering :=
  (compare a.major.toNat b.major.toNat).then
    ((compare a.minor.toNat b.minor.toNat).then (compare a.patch.toNat b.patch.toNat))

def decimalValue (ds : List Char) : Nat := ds.foldl (fun n d => 10 * n + (d.toNat - 48)) 0

/-- An optional plus sign and at least one ASCII digit, of a value below `2^32`. -/
def part? (s : List Char) : Option UInt32 :=
  let ds := match s with
    | '+' :: r => r
    | _ => s
  if ds ≠ [] ∧ ds.all Char.isDigit ∧ decimalValue ds < UInt32.size then
    some (UInt32.ofNat (decimalValue ds))
  else none

structure ParseError where
  input : String
deriving DecidableEq, Repr

def ParseError.message (e : ParseError) : String :=
  "invalid version " ++ Text.quoted e.input ++ ": expected major.minor[.patch]"

def parse? (s : String) : Option Version :=
  match Text.pieces (· == '.') (Text.trimBoth Text.isBlank s.toList) with
  | [a, b] => do return ⟨← part? a, ← part? b, 0⟩
  | [a, b, c] => do return ⟨← part? a, ← part? b, ← part? c⟩
  | _ => none

def parse (s : String) : Except ParseError Version :=
  match parse? s with
  | some v => .ok v
  | none => .error ⟨s⟩

end Version

end BareMetal

import BareMetal.Keyed
import BareMetal.Number.Binary64

/-!
# JSON values

Numbers are of two kinds, integers of at most 64 bits and binary64 numbers, and
the kind is part of the value. The entries of a map are a list of pairs; reading
puts them in ascending order of their keys, each key once.
-/

namespace BareMetal

/-- An integer that fits 64 bits, with or without a sign. -/
abbrev WideInt := {n : Int // -9223372036854775808 ≤ n ∧ n < 18446744073709551616}

def WideInt.ofInt? (n : Int) : Option WideInt :=
  if h : -9223372036854775808 ≤ n ∧ n < 18446744073709551616 then some ⟨n, h⟩ else none

inductive Json.Number where
  | int (n : WideInt)
  | float (x : Binary64)
deriving DecidableEq

inductive Json where
  | null
  | bool (b : Bool)
  | number (n : Json.Number)
  | string (s : String)
  | list (items : List Json)
  | map (entries : List (String × Json))

namespace Json

instance : Inhabited Json := ⟨null⟩

/-- The map with these entries, where a later entry replaces an earlier one with its key. -/
def ofEntries (entries : List (String × Json)) : Json := .map (Keyed.ofList entries)

def entry? (key : String) (entries : List (String × Json)) : Option Json :=
  entries.lookup key

end Json

end BareMetal

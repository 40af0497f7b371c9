import BareMetal.Text.Blank

/-!
# Hardware addresses

An address is kept as the server wrote it. `agreesWith` compares two of them
without regard to letter case and to which separator is used.
-/

namespace BareMetal

structure MacAddress where
  text : String
deriving DecidableEq

namespace MacAddress

def isSeparator (c : Char) : Bool := c == ':' || c == '-'

def octets (s : String) : List (List Char) :=
  (Text.pieces isSeparator s.toList).map fun p => p.map Char.toLower

def agreesWith (m : MacAddress) (other : String) : Bool := octets m.text == octets other

end MacAddress

end BareMetal

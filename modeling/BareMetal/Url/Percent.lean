import BareMetal.Text.Hex
import BareMetal.Text.Utf8

/-!
# Percent encoding

Which characters each part of a URL has to escape, and the encoding of forms.
Characters beyond ASCII are escaped in every part, byte by byte.
-/

namespace BareMetal.Url

def percentByte (b : UInt8) : List Char :=
  ['%', Text.upperHex (b.toNat / 16), Text.upperHex (b.toNat % 16)]

/-- Escapes a character beyond ASCII, and one that satisfies `special`. -/
def percentEncodeChar (special : Char → Bool) (c : Char) : List Char :=
  if c.toNat < 0x80 ∧ !special c then [c] else (String.utf8EncodeChar c).flatMap percentByte

def percentEncode (special : Char → Bool) (s : List Char) : List Char :=
  s.flatMap (percentEncodeChar special)

/-! ## Sets of characters to escape -/

def isControl (c : Char) : Bool := c.toNat < 0x20 || c.toNat == 0x7f

def inFragment (c : Char) : Bool := isControl c || [' ', '"', '<', '>', '\x60'].contains c

def inQuery (c : Char) : Bool := isControl c || [' ', '"', '#', '<', '>'].contains c

def inSpecialQuery (c : Char) : Bool := inQuery c || c == '\''

def inPath (c : Char) : Bool :=
  inQuery c || ['?', '\x60', '\x7b', '\x7d'].contains c

def inUserinfo (c : Char) : Bool :=
  inPath c || ['/', ':', ';', '=', '@', '[', '\\', ']', '^', '|'].contains c

/-! ## Decoding -/

def hexByte? : List UInt8 → Option UInt8
  | h :: l :: _ => do
    let x ← Text.hexValue? (Char.ofNat h.toNat)
    let y ← Text.hexValue? (Char.ofNat l.toNat)
    return UInt8.ofNat (16 * x + y)
  | _ => none

/-- Replaces each percent sign and the two hexadecimal digits behind it by a byte, after `skip`
bytes that were taken already. -/
def unescape : (skip : Nat) → List UInt8 → List UInt8
  | _, [] => []
  | skip + 1, _ :: rest => unescape skip rest
  | 0, b :: rest =>
    match if b.toNat = 0x25 then hexByte? rest else none with
    | some v => v :: unescape 2 rest
    | none => b :: unescape 0 rest

def percentDecode (bytes : List UInt8) : List UInt8 := unescape 0 bytes

/-! ## Forms -/

/-- A byte of a form: letters, digits and `*-._` as they are, a blank as a plus sign. -/
def formByte (b : UInt8) : List Char :=
  let c := Char.ofNat b.toNat
  if c.isAlphanum || ['*', '-', '.', '_'].contains c then [c]
  else if c = ' ' then ['+']
  else percentByte b

def formEncode (s : String) : String :=
  String.ofList ((Utf8.encode s.toList).flatMap formByte)

def formPair (pair : String × String) : String :=
  formEncode pair.1 ++ "=" ++ formEncode pair.2

def formBody (pairs : List (String × String)) : String :=
  "&".intercalate (pairs.map formPair)

end BareMetal.Url

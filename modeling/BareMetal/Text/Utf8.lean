/-!
# UTF-8

Decoding of bytes. What is no part of a character is replaced, one replacement
for each longest run of bytes that begins a character without completing it.
-/

namespace BareMetal.Utf8

def encode (s : List Char) : List UInt8 := s.flatMap String.utf8EncodeChar

/-- The range of the second byte after `b`, the number of bytes after `b` and the bits in `b`. -/
def lead? (b : Nat) : Option (Nat × Nat × Nat × Nat) :=
  if 0xc2 ≤ b ∧ b ≤ 0xdf then some (0x80, 0xbf, 1, b - 0xc0)
  else if b = 0xe0 then some (0xa0, 0xbf, 2, 0)
  else if b = 0xed then some (0x80, 0x9f, 2, 13)
  else if 0xe1 ≤ b ∧ b ≤ 0xef then some (0x80, 0xbf, 2, b - 0xe0)
  else if b = 0xf0 then some (0x90, 0xbf, 3, 0)
  else if b = 0xf4 then some (0x80, 0x8f, 3, 4)
  else if 0xf1 ≤ b ∧ b ≤ 0xf3 then some (0x80, 0xbf, 3, b - 0xf0)
  else none

/-- Takes up to `n` continuation bytes into `bits`, the first from `lo` to `hi`: the value, if
all are there, and how many are. -/
def continuation (bits : Nat) : (n lo hi : Nat) → List UInt8 → Option Nat × Nat
  | 0, _, _, _ => (some bits, 0)
  | n + 1, lo, hi, rest =>
    match rest with
    | [] => (none, 0)
    | b :: rest =>
      if lo ≤ b.toNat ∧ b.toNat ≤ hi then
        let (value, taken) := continuation (bits * 64 + (b.toNat - 0x80)) n 0x80 0xbf rest
        (value, taken + 1)
      else (none, 0)

/-- The character that begins at `b`, if it is complete, and how many bytes of `rest` belong to it
or to its beginning. -/
def character (b : UInt8) (rest : List UInt8) : Option Char × Nat :=
  if b.toNat < 0x80 then (some (Char.ofNat b.toNat), 0)
  else
    match lead? b.toNat with
    | none => (none, 0)
    | some (lo, hi, n, bits) =>
      let (value, taken) := continuation bits n lo hi rest
      (value.map Char.ofNat, taken)

/-- The characters from the byte after `skip` more on, `none` for each thing that is none. -/
def scan : (skip : Nat) → List UInt8 → List (Option Char)
  | _, [] => []
  | skip + 1, _ :: rest => scan skip rest
  | 0, b :: rest =>
    let (c, taken) := character b rest
    c :: scan taken rest

def decode? (bytes : List UInt8) : Option (List Char) := (scan 0 bytes).mapM id

def decodeLossy (bytes : List UInt8) : List Char := (scan 0 bytes).map (·.getD '\ufffd')

end BareMetal.Utf8

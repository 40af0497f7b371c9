import BareMetal.Url.Fault
import BareMetal.Url.Name
import BareMetal.Url.Percent

/-!
# Hosts

Names, IPv4 addresses in any of their spellings, and IPv6 addresses in brackets.
-/

namespace BareMetal.Url

inductive Host where
  | domain (name : String)
  | ipv4 (address : Nat)
  | ipv6 (pieces : List Nat)
deriving DecidableEq, Repr

/-! ## IPv4 -/

/-- A part of an IPv4 address: hexadecimal behind `0x`, octal behind `0`, else decimal. -/
def ipv4Number? (s : List Char) : Option Nat :=
  let (radix, ds) := match s with
    | '0' :: 'x' :: r => (16, r)
    | '0' :: 'X' :: r => (16, r)
    | '0' :: c :: r => (8, c :: r)
    | s => (10, s)
  let valid (c : Char) : Bool :=
    if radix = 8 then '0' ≤ c && c ≤ '7'
    else if radix = 10 then c.isDigit
    else Text.isHexDigit c
  if s.isEmpty then none else if ds.all valid then some (Text.numeral radix ds) else none

/-- The parts of a name, without the empty one behind a point at the end. -/
def nameParts (s : List Char) : List (List Char) :=
  match (dots s).getLast? with
  | some [] => (dots s).dropLast
  | _ => dots s

/-- Whether a name has to be an IPv4 address: its last part is a number. -/
def endsInNumber (s : List Char) : Bool :=
  match (nameParts s).getLast? with
  | none => false
  | some last => (!last.isEmpty && last.all Char.isDigit) || (ipv4Number? last).isSome

/-- The last part fills all the bytes that the parts before it leave. -/
def ipv4? (s : List Char) : Option Nat := do
  let numbers ← (nameParts s).mapM ipv4Number?
  let last ← numbers.getLast?
  let front := numbers.dropLast
  let left := Nat.pow 256 (4 - front.length)
  if numbers.length ≤ 4 ∧ front.all (· ≤ 255) ∧ last < left then
    some (front.foldl (fun n b => n * 256 + b) 0 * left + last)
  else none

/-! ## IPv6 -/

def group? (s : List Char) : Option Nat :=
  if !s.isEmpty ∧ s.length ≤ 4 ∧ s.all Text.isHexDigit then some (Text.numeral 16 s)
  else none

def decimalByte? (s : List Char) : Option Nat :=
  if s.all Char.isDigit ∧ !s.isEmpty ∧ s.length ≤ 3 ∧ (s.length = 1 ∨ s.head? ≠ some '0') ∧
      Text.numeral 10 s ≤ 255 then
    some (Text.numeral 10 s)
  else none

/-- Groups between colons; the last one may be an IPv4 address in place of two. -/
def groups? : List (List Char) → Option (List Nat)
  | [] => some []
  | [last] =>
    if last.contains '.' then
      match (dots last).mapM decimalByte? with
      | some [a, b, c, d] => some [a * 256 + b, c * 256 + d]
      | _ => none
    else (group? last).map fun g => [g]
  | g :: rest => do return (← group? g) :: (← groups? rest)

/-- The texts before and after the first pair of colons. -/
def splitGap : List Char → Option (List Char × List Char)
  | ':' :: ':' :: rest => some ([], rest)
  | c :: rest => (splitGap rest).map fun (a, b) => (c :: a, b)
  | [] => none

def colonGroups? (s : List Char) : Option (List Nat) :=
  if s.isEmpty then some [] else groups? (Text.pieces (· == ':') s)

def ipv6? (s : List Char) : Option (List Nat) :=
  match splitGap s with
  | none => do
    let gs ← colonGroups? s
    if gs.length = 8 then some gs else none
  | some (a, b) => do
    let front ← if a.contains '.' then none else colonGroups? a
    let back ← colonGroups? b
    let known := front.length + back.length
    if known ≤ 7 then some (front ++ List.replicate (8 - known) 0 ++ back) else none

/-! ### Writing addresses -/

def ipv4Text (n : Nat) : String :=
  ".".intercalate ([n / 16777216, n / 65536 % 256, n / 256 % 256, n % 256].map toString)

def zeroRun (gs : List Nat) : Nat := (gs.takeWhile (· == 0)).length

/-- Where the first of the longest runs of zeros is, and its length. -/
def longestZeroRun : Nat → List Nat → Nat × Nat
  | i, [] => (i, 0)
  | i, g :: rest =>
    let later := longestZeroRun (i + 1) rest
    let here := zeroRun (g :: rest)
    if later.2 ≤ here then (i, here) else later

/-- Groups in hexadecimal; a run of at least two zeros becomes a pair of colons. -/
def ipv6Text (gs : List Nat) : String :=
  let text (gs : List Nat) : String :=
    ":".intercalate (gs.map fun g => String.ofList (Nat.toDigits 16 g))
  let (i, n) := longestZeroRun 0 gs
  if n < 2 then text gs else text (gs.take i) ++ "::" ++ text (gs.drop (i + n))

def Host.text : Host → String
  | domain name => name
  | ipv4 n => ipv4Text n
  | ipv6 gs => "[" ++ ipv6Text gs ++ "]"

/-! ## Reading hosts -/

/-- Characters that no host of a URL without a special scheme can hold. -/
def forbiddenInOpaqueHost (c : Char) : Bool :=
  ['\x00', '\t', '\n', '\r', ' ', '#', '/', ':', '<', '>', '?', '@', '[', '\\', ']', '^',
    '|'].contains c

/-- The host of a URL whose scheme has hosts of its own kind. -/
def parseHost (s : List Char) : Except UrlFault Host :=
  match s with
  | '[' :: r =>
    if r.getLast? = some ']' then
      match ipv6? r.dropLast with
      | some gs => .ok (.ipv6 gs)
      | none => .error .invalidIpv6
    else .error .invalidIpv6
  | _ =>
    match (Utf8.decode? (percentDecode (Utf8.encode s))).bind asciiName? with
    | none => .error .invalidDomain
    | some [] => .error .emptyHost
    | some name =>
      if endsInNumber name then
        match ipv4? name with
        | some n => .ok (.ipv4 n)
        | none => .error .invalidIpv4
      else .ok (.domain (String.ofList name))

/-- The host of any other URL, which is kept as it is. -/
def parseOpaqueHost (s : List Char) : Except UrlFault Host :=
  match s with
  | '[' :: _ => parseHost s
  | _ =>
    if s.any forbiddenInOpaqueHost then .error .invalidDomainCharacter
    else .ok (.domain (String.ofList (percentEncode isControl s)))

end BareMetal.Url

import BareMetal.Settings.Layer
import BareMetal.Text.Blank
import BareMetal.Toml.Scalar
import BareMetal.Toml.Text

/-!
# Settings spelled in one line

The text of an environment variable spells a setting: `true`, a number, a list in
brackets, a table in braces, or a string between quotes. A text that spells none
of these is itself the setting.
-/

namespace BareMetal.Settings

open Toml (splitSign)

def isGap (c : Char) : Bool := [' ', '\t', '\n', '\x0c', '\r'].contains c

def skipGap (s : List Char) : List Char := s.dropWhile isGap

/-! ## Numbers -/

def digits? (s : List Char) : Option Nat :=
  if s.isEmpty ∨ !s.all Char.isDigit then none else some (Text.numeral 10 s)

def unsigned? (s : List Char) : Option Nat :=
  match splitSign s with
  | (true, _) => none
  | (false, r) => (digits? r).filter (· < countLimit)

def signed? (s : List Char) : Option Int := do
  let (negative, r) := splitSign s
  let n : Int := (← digits? r)
  let n := if negative then -n else n
  if -9223372036854775808 ≤ n ∧ n < 9223372036854775808 then some n else none

/-- The power of ten behind an exponent mark; nothing stands for zero. -/
def power? : List Char → Option Int
  | [] => some 0
  | _ :: r => do
    let (negative, r) := splitSign r
    let n : Int := (← digits? r)
    return if negative then -n else n

/-- A number with a point, which may stand before or behind all of its digits. -/
def real? (s : List Char) : Option Toml.Real := do
  let (negative, r) := splitSign s
  let (mantissa, exponent) := r.span fun c => !(c == 'e' || c == 'E')
  let (whole, fraction) := mantissa.span (· != '.')
  let fraction := fraction.drop 1
  let digits ← digits? (whole ++ fraction)
  return Toml.Real.ofDecimal negative digits ((← power? exponent) - fraction.length)

/-- The setting that a run of plain characters spells: a number where it can be one. -/
def plain (s : List Char) : Setting :=
  match (if s.contains '.' then real? s else none), unsigned? s, signed? s with
  | some x, _, _ => .real x
  | none, some n, _ => .unsigned n
  | none, none, some n => .signed n
  | none, none, none => .text (String.ofList s)

/-! ## Values -/

/-- Takes a string from behind its opening quote; `acc` holds what was read, last first. -/
def takeQuoted? : (fuel : Nat) → (acc : List Char) → List Char → Option (String × List Char)
  | 0, _, _ => none
  | _ + 1, _, [] => none
  | fuel + 1, acc, c :: r =>
    if c = '"' then some (String.ofList acc.reverse, r)
    else if c = '\\' then do
      let (d, r) ← Toml.takeEscape? r
      takeQuoted? fuel (d :: acc) r
    else takeQuoted? fuel (c :: acc) r

def takeName? (s : List Char) : Option (String × List Char) :=
  match s with
  | '"' :: r => takeQuoted? s.length [] r
  | _ =>
    let (key, rest) := s.span Toml.isBareKeyChar
    if key.isEmpty then none else some (String.ofList key, rest)

def isPlainChar (c : Char) : Bool := [',', '\x7b', '\x7d', '[', ']'].all (c != ·)

mutual

def takeSetting? : (fuel : Nat) → List Char → Option (Setting × List Char)
  | 0, _ => none
  | fuel + 1, s => do
    let (v, rest) ← match skipGap s with
      | 't' :: 'r' :: 'u' :: 'e' :: r => some (Setting.flag true, r)
      | 'f' :: 'a' :: 'l' :: 's' :: 'e' :: r => some (.flag false, r)
      | '\x7b' :: r => (takeEntries? fuel [] r).map fun (es, r) => (.table es, r)
      | '[' :: r => (takeItems? fuel [] r).map fun (items, r) => (.list items, r)
      | '"' :: r => (takeQuoted? (r.length + 1) [] r).map fun (t, r) => (.text t, r)
      | '\'' :: c :: '\'' :: r => some (.text (String.singleton c), r)
      | '\'' :: _ => none
      | s =>
        let (run, r) := s.span isPlainChar
        some (plain (Text.trimBoth Text.isBlank run), r)
    return (v, skipGap rest)

/-- Takes the elements of a list up to its bracket; `acc` holds those read, last first. -/
def takeItems? : (fuel : Nat) → List Setting → List Char → Option (List Setting × List Char)
  | 0, _, _ => none
  | fuel + 1, acc, s =>
    match s with
    | ']' :: r => some (acc.reverse, r)
    | _ => do
      let (v, s) ← takeSetting? fuel s
      match s with
      | ',' :: r => takeItems? fuel (v :: acc) r
      | ']' :: r => return ((v :: acc).reverse, r)
      | _ => none

/-- Takes the entries of a table up to its brace. Of entries with one key the last counts. -/
def takeEntries? : (fuel : Nat) → Layer → List Char → Option (Layer × List Char)
  | 0, _, _ => none
  | fuel + 1, acc, s =>
    match s with
    | '\x7d' :: r => some (acc, r)
    | _ => do
      let (key, s) ← takeName? (skipGap s)
      match skipGap s with
      | '=' :: r =>
        let (v, s) ← takeSetting? fuel r
        let acc := Keyed.put key v acc
        match s with
        | ',' :: r => takeEntries? fuel acc r
        | '\x7d' :: r => return (acc, r)
        | _ => none
      | _ => none

end

def Setting.ofText (text : String) : Setting :=
  let s := text.toList
  match takeSetting? (2 * s.length + 2) s with
  | some (v, []) => v
  | _ => .text text

end BareMetal.Settings

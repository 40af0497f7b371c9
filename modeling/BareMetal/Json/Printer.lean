import BareMetal.Json.Basic
import BareMetal.Number.Notation
import BareMetal.Text.Hex

/-!
# Compact JSON text

No blanks, entries in the order they are in, and only the escapes the format
demands.
-/

namespace BareMetal.Json

def hex2 (n : Nat) : String :=
  String.ofList [Text.lowerHex (n / 16 % 16), Text.lowerHex (n % 16)]

def printChar (c : Char) : String :=
  match c with
  | '"' => "\\\""
  | '\\' => "\\\\"
  | '\x08' => "\\b"
  | '\x0c' => "\\f"
  | '\n' => "\\n"
  | '\r' => "\\r"
  | '\t' => "\\t"
  | c => if c.toNat < 0x20 then "\\u00" ++ hex2 c.toNat else String.singleton c

def printString (s : String) : String := "\"" ++ String.join (s.toList.map printChar) ++ "\""

def Number.text : Number → String
  | .int n => toString n.val
  | .float x => x.jsonText

mutual

def print : Json → String
  | .null => "null"
  | .bool b => if b then "true" else "false"
  | .number n => n.text
  | .string s => printString s
  | .list items => "[" ++ ",".intercalate (printItems items) ++ "]"
  | .map entries => "\x7b" ++ ",".intercalate (printEntries entries) ++ "\x7d"

def printItems : List Json → List String
  | [] => []
  | v :: rest => print v :: printItems rest

def printEntries : List (String × Json) → List String
  | [] => []
  | (k, v) :: rest => (printString k ++ ":" ++ print v) :: printEntries rest

end

end BareMetal.Json

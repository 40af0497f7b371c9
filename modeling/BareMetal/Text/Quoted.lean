import BareMetal.Text.Hidden

/-!
# Quoted text in messages

A string between double quotes, with everything a reader could not see written
as an escape. Two different strings have different quoted forms.
-/

namespace BareMetal.Text

/-- Lower-case hexadecimal without padding. -/
def hex (n : Nat) : String := String.ofList (Nat.toDigits 16 n)

def escapeChar (c : Char) : String :=
  match c with
  | '"' => "\\\""
  | '\\' => "\\\\"
  | '\t' => "\\t"
  | '\n' => "\\n"
  | '\r' => "\\r"
  | '\x00' => "\\0"
  | c => if isHidden c then "\\u\x7b" ++ hex c.toNat ++ "\x7d" else String.singleton c

def quoted (s : String) : String :=
  "\"" ++ String.join (s.toList.map escapeChar) ++ "\""

end BareMetal.Text

import BareMetal.Text.Blank
import BareMetal.Text.Composition
import BareMetal.Url.Name.Admitted
import BareMetal.Url.Name.Direction
import BareMetal.Url.Name.Joiner
import BareMetal.Url.Punycode

/-!
# Names of hosts

A name is a list of labels with points between them. Names can hold characters
beyond ASCII; `asciiName?` writes such a name with ASCII alone, if it is a valid
one.
-/

namespace BareMetal.Url

def dots (s : List Char) : List (List Char) := Text.pieces (· == '.') s

namespace Name

def isAscii (s : List Char) : Bool := s.all fun c => c.toNat < 0x80

/-- The largest number of characters of a label beyond ASCII. -/
def labelLimit : Nat := 1000

/-- The largest number of characters of a label that is written in punycode already. -/
def codeLimit : Nat := 2000

/-- Whether a label beyond ASCII is valid on its own. -/
def isLabel (label : List Char) : Bool :=
  label.all isAdmitted && !label.head?.any isMark && joinersFit [] label &&
    label.length ≤ labelLimit

/-- The label that `code` stands for behind `xn--`. There is one code for each, and none for labels
that need none. -/
def decodeLabel? (code : List Char) : Option (List Char) := do
  let label ← if codeLimit < code.length then none else Punycode.decode? code
  if !isAscii label ∧ Text.compose label = label ∧ isLabel label ∧ Punycode.encode label = code then
    some label
  else none

/-- The label as it is meant to be read. -/
def readLabel? (label : List Char) : Option (List Char) :=
  match label with
  | 'x' :: 'n' :: '-' :: '-' :: code => decodeLabel? code
  | _ => if isAscii label ∨ isLabel label then some label else none

def writeLabel (label : List Char) : List Char :=
  if isAscii label then label else ['x', 'n', '-', '-'] ++ Punycode.encode label

/-- The labels of a name as they are meant to be read. -/
def labels? (s : List Char) : Option (List (List Char)) := do
  let labels ← (dots (Text.compose (s.flatMap mapChar))).mapM readLabel?
  if !labels.any goesRight ∨ labels.all (fun label => keepsDirection (label.map direction)) then
    some labels
  else none

/-- ASCII characters that no name can hold. -/
def isForbidden (c : Char) : Bool :=
  c.toNat < 0x20 || c == '\x7f' ||
    [' ', '#', '%', '/', ':', '<', '>', '?', '@', '[', '\\', ']', '^', '|'].contains c

end Name

def asciiName? (s : List Char) : Option (List Char) := do
  let name := List.intercalate ['.'] ((← Name.labels? s).map Name.writeLabel)
  if name.any Name.isForbidden then none else some name

end BareMetal.Url

import BareMetal.Toml.Text

/-!
# Writing TOML

A document is written as sections: the keys of one table, under its header. Keys
that belong to the document itself come first and have no header.
-/

namespace BareMetal.Toml

/-- A value that is written on the line of its key. -/
inductive Plain where
  | string (s : String)
  | count (n : Nat)
  | boolean (b : Bool)
deriving DecidableEq, Repr

def Plain.text : Plain → List Char
  | string s => quote s.toList
  | count n => Nat.toDigits 10 n
  | boolean b => (if b then "true" else "false").toList

structure Section where
  /-- The path of the table; empty for the document itself. -/
  header : List String
  entries : List (String × Plain)
deriving DecidableEq, Repr

def entryLine (e : String × Plain) : List Char :=
  quoteKey e.1.toList ++ [' ', '=', ' '] ++ e.2.text ++ ['\n']

def headerLine (path : List String) : List Char :=
  ['['] ++ ['.'].intercalate (path.map fun key => quoteKey key.toList) ++ [']', '\n']

def Section.text (s : Section) : List Char :=
  (if s.header.isEmpty then [] else headerLine s.header) ++ s.entries.flatMap entryLine

/-- The text of sections, with an empty line between two of them that have a text. -/
def print (sections : List Section) : String :=
  String.ofList (['\n'].intercalate ((sections.map Section.text).filter (!·.isEmpty)))

end BareMetal.Toml

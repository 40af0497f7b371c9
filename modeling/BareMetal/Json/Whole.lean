import BareMetal.Json.Basic

/-!
# Whole numbers

A float that holds a whole number of moderate size counts as an integer.
`wholeFloatsAsInts` replaces every such float in a value by the integer.
-/

namespace BareMetal

/-- Below this magnitude a whole float counts as an integer. -/
def wholeLimit : Int := 9200000000000000000

def Binary64.wideInt? (x : Binary64) : Option WideInt :=
  match x.whole? with
  | some n =>
    if h : -wholeLimit < n ∧ n < wholeLimit then
      some ⟨n, by unfold wholeLimit at h; omega⟩
    else none
  | none => none

namespace Json

/-- The integer a number stands for, if it is one or counts as one. -/
def Number.whole? : Number → Option WideInt
  | .int n => some n
  | .float x => x.wideInt?

def Number.wholeAsInt (n : Number) : Number :=
  match n.whole? with
  | some k => .int k
  | none => n

mutual

def wholeFloatsAsInts : Json → Json
  | .null => .null
  | .bool b => .bool b
  | .number n => .number n.wholeAsInt
  | .string s => .string s
  | .list items => .list (wholeFloatsAsIntsItems items)
  | .map entries => .map (wholeFloatsAsIntsEntries entries)

def wholeFloatsAsIntsItems : List Json → List Json
  | [] => []
  | v :: rest => wholeFloatsAsInts v :: wholeFloatsAsIntsItems rest

def wholeFloatsAsIntsEntries : List (String × Json) → List (String × Json)
  | [] => []
  | (k, v) :: rest => (k, wholeFloatsAsInts v) :: wholeFloatsAsIntsEntries rest

end

end Json

end BareMetal

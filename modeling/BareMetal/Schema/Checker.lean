import BareMetal.Json.Basic
import BareMetal.Json.Whole
import BareMetal.Number.Notation
import BareMetal.Text.Quoted

/-!
# Schemas

A `Checker` describes the shape of a JSON value. `check` finds the first place
where a value differs from it: list elements by index, map entries in their
order, fields in the order they are declared. The place is the list of steps to
it from the root.
-/

namespace BareMetal.Schema

/-- The type a checker asks for. -/
inductive Expected where
  | string | int | float | bool | list | map
deriving DecidableEq, Repr

def Expected.name : Expected → String
  | string => "string"
  | int => "int"
  | float => "float"
  | bool => "bool"
  | list => "list"
  | map => "map"

inductive Checker where
  | any
  | string
  | int
  | float
  | bool
  | nullable (inner : Checker)
  | list (inner : Checker)
  | map (inner : Checker)
  /-- Named fields, each required or not; other entries are free. -/
  | fields (fs : List (String × Bool × Checker))

namespace Checker

def nullableString : Checker := .nullable .string

def stringList : Checker := .list .string

end Checker

def required (name : String) (c : Checker) : String × Bool × Checker := (name, true, c)

def optional (name : String) (c : Checker) : String × Bool × Checker := (name, false, c)

/-! ## Places -/

inductive Step where
  | index (i : Nat)
  | key (name : String)
deriving DecidableEq, Repr

/-- Appends the text of one step; a key at the beginning has no point before it. -/
def Step.render (before : String) : Step → String
  | .index i => before ++ "[" ++ toString i ++ "]"
  | .key name => if before.isEmpty then name else before ++ "." ++ name

def renderPath (path : List Step) : String := path.foldl Step.render ""

/-! ## Checking -/

/-- A short description of a value, or of a missing one. -/
def describe : Option Json → String
  | none => "nothing"
  | some .null => "nothing"
  | some (.bool b) => "bool(" ++ (if b then "true" else "false") ++ ")"
  | some (.number (.float x)) => "float(" ++ x.jsonText ++ ")"
  | some (.number (.int n)) => "int(" ++ toString n.val ++ ")"
  | some (.string s) => "string(" ++ Text.quoted s ++ ")"
  | some (.list _) => "list"
  | some (.map _) => "map"

/-- The first violation: where it is, what was asked for there and what was found. -/
structure Violation where
  path : List Step
  expected : Expected
  got : String
deriving DecidableEq, Repr

namespace Violation

def under (step : Step) (v : Violation) : Violation := { v with path := step :: v.path }

def place (v : Violation) : String := renderPath v.path

def message (v : Violation) : String :=
  let text := "expected " ++ v.expected.name ++ ", got " ++ v.got
  if v.place.isEmpty then text else v.place ++ ": " ++ text

end Violation

def violation (expected : Expected) (value : Option Json) : Except Violation Unit :=
  .error ⟨[], expected, describe value⟩

/-- Checks each element in turn, counting from `i`. -/
def checkItems (check : Json → Except Violation Unit) : Nat → List Json → Except Violation Unit
  | _, [] => .ok ()
  | i, item :: rest =>
    match check item with
    | .error v => .error (v.under (.index i))
    | .ok () => checkItems check (i + 1) rest

/-- Checks the value of each entry in turn. -/
def checkEntries (check : Json → Except Violation Unit) :
    List (String × Json) → Except Violation Unit
  | [] => .ok ()
  | (key, item) :: rest =>
    match check item with
    | .error v => .error (v.under (.key key))
    | .ok () => checkEntries check rest

mutual

/-- Checks a value, or the lack of one, at the root of `c`. -/
def checkAt : Checker → Option Json → Except Violation Unit
  | .any, _ => .ok ()
  | .string, value =>
    match value with
    | some (.string _) => .ok ()
    | _ => violation .string value
  | .int, value =>
    match value with
    | some (.number n) => if n.whole?.isSome then .ok () else violation .int value
    | _ => violation .int value
  | .float, value =>
    match value with
    | some (.number _) => .ok ()
    | _ => violation .float value
  | .bool, value =>
    match value with
    | some (.bool _) => .ok ()
    | _ => violation .bool value
  | .nullable inner, value =>
    match value with
    | none => .ok ()
    | some .null => .ok ()
    | some v => checkAt inner (some v)
  | .list inner, value =>
    match value with
    | some (.list items) => checkItems (fun item => checkAt inner (some item)) 0 items
    | _ => violation .list value
  | .map inner, value =>
    match value with
    | some (.map entries) => checkEntries (fun item => checkAt inner (some item)) entries
    | _ => violation .map value
  | .fields fs, value =>
    match value with
    | some (.map entries) => checkFields fs entries
    | _ => violation .map value

/-- Checks the declared fields in turn; an optional field may be missing. -/
def checkFields : List (String × Bool × Checker) → List (String × Json) → Except Violation Unit
  | [], _ => .ok ()
  | (name, needed, c) :: rest, entries =>
    match Json.entry? name entries with
    | none =>
      if needed then
        match checkAt c none with
        | .error v => .error (v.under (.key name))
        | .ok () => checkFields rest entries
      else checkFields rest entries
    | some value =>
      match checkAt c (some value) with
      | .error v => .error (v.under (.key name))
      | .ok () => checkFields rest entries

end

def check (c : Checker) (value : Json) : Except Violation Unit := checkAt c (some value)

end BareMetal.Schema

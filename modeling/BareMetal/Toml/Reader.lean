import BareMetal.Toml.Document
import BareMetal.Toml.Scalar
import BareMetal.Toml.Text

/-!
# Reading TOML

A document is read line by line into its tables. There is one answer for every
fault: no document.
-/

namespace BareMetal.Toml

def skipSpaces (s : List Char) : List Char := s.dropWhile fun c => c == ' ' || c == '\t'

/-- Skips a comment; controls are not allowed in it. -/
def skipComment? (s : List Char) : Option (List Char) :=
  match s with
  | '#' :: r =>
    let (text, rest) := r.span fun c => c != '\n' && !(c == '\r')
    if text.any isBareControl then none else some rest
  | _ => some s

/-- Skips blanks, comments and line breaks inside an array. -/
def skipLines? : (fuel : Nat) → List Char → Option (List Char)
  | 0, _ => none
  | fuel + 1, s => do
    let s ← skipComment? (skipSpaces s)
    match takeNewline? s with
    | some r => skipLines? fuel r
    | none => some s

/-- Takes the end of a line: blanks, perhaps a comment, and a line break or the end. -/
def endLine? (s : List Char) : Option (List Char) := do
  match ← skipComment? (skipSpaces s) with
  | [] => some []
  | r => takeNewline? r

/-! ## Keys -/

def takeSimpleKey? (s : List Char) : Option (String × List Char) :=
  match s with
  | '"' :: _ => takeLine? s
  | '\'' :: _ => takeLine? s
  | _ =>
    let (key, rest) := s.span isBareKeyChar
    if key.isEmpty then none else some (String.ofList key, rest)

def partLimit : Nat := 79

/-- Takes a key of at most `parts` parts with points between them. -/
def takeParts? : (parts : Nat) → List Char → Option (List String × String × List Char)
  | 0, _ => none
  | parts + 1, s => do
    let (part, s) ← takeSimpleKey? (skipSpaces s)
    match skipSpaces s with
    | '.' :: r => do
      let (path, key, rest) ← takeParts? parts r
      return (part :: path, key, rest)
    | rest => return ([], part, rest)

def takeKey? (s : List Char) : Option (List String × String × List Char) := takeParts? partLimit s

/-! ## Values -/

def depthLimit : Nat := 79

mutual

def takeValue? : (fuel depth : Nat) → List Char → Option (Value × List Char)
  | 0, _, _ => none
  | fuel + 1, depth, s =>
    match s with
    | [] => none
    | c :: r =>
      if c = '"' ∨ c = '\'' then (takeText? s).map fun (t, rest) => (.string t, rest)
      else if c = '[' then
        if depth = 0 then none
        else (takeItems? fuel (depth - 1) [] r).map fun (items, rest) => (.array items, rest)
      else if c = '\x7b' then
        if depth = 0 then none
        else
          match skipSpaces r with
          | '\x7d' :: rest => some (.table [], rest)
          | r => (takeEntries? fuel (depth - 1) [] r).map fun (items, rest) =>
            (.table (valueEntries items), rest)
      else
        let (token, rest) := takeScalar s
        (scalar? token).map fun v => (v, rest)

/-- Takes the elements of an array up to its bracket; `acc` holds those read, last first. -/
def takeItems? : (fuel depth : Nat) → List Value → List Char → Option (List Value × List Char)
  | 0, _, _, _ => none
  | fuel + 1, depth, acc, s => do
    let s ← skipLines? (s.length + 1) s
    match s with
    | ']' :: rest => return (acc.reverse, rest)
    | _ =>
      let (v, s) ← takeValue? fuel depth s
      match ← skipLines? (s.length + 1) s with
      | ',' :: r => takeItems? fuel depth (v :: acc) r
      | ']' :: rest => return ((v :: acc).reverse, rest)
      | _ => none

def takeEntries? : (fuel depth : Nat) → Items → List Char → Option (Items × List Char)
  | 0, _, _, _ => none
  | fuel + 1, depth, items, s => do
    let (path, key, s) ← takeKey? s
    match s with
    | '=' :: r =>
      let (v, s) ← takeValue? fuel depth (skipSpaces r)
      let items ← items.addKey path key v
      match skipSpaces s with
      | ',' :: r => takeEntries? fuel depth items r
      | '\x7d' :: rest => return (items, rest)
      | _ => none
    | _ => none

end

/-! ## Documents -/

/-- The tables read so far, and the path of the one that keys go to. -/
structure Progress where
  items : Items
  current : List String

def takeHeader? (p : Progress) (s : List Char) : Option (Progress × List Char) := do
  let (element, s) := match s with
    | '[' :: r => (true, r)
    | _ => (false, s)
  let (path, key, s) ← takeKey? s
  match element, s with
  | false, ']' :: rest =>
    return (⟨← p.items.openTable path key, path ++ [key]⟩, rest)
  | true, ']' :: ']' :: rest =>
    return (⟨← p.items.openElement path key, path ++ [key]⟩, rest)
  | _, _ => none

def takeEntry? (p : Progress) (s : List Char) : Option (Progress × List Char) := do
  let (path, key, s) ← takeKey? s
  match s with
  | '=' :: r =>
    let r := skipSpaces r
    let (v, rest) ← takeValue? (2 * r.length + 2) depthLimit r
    let items ← Items.within false (fun _ inner => Items.addKey path key v inner) p.current
      .header p.items
    return (⟨items, p.current⟩, rest)
  | _ => none

def readLines? : (fuel : Nat) → Progress → List Char → Option Progress
  | 0, _, _ => none
  | fuel + 1, p, s =>
    match skipSpaces s with
    | [] => some p
    | c :: r => do
      let (p, rest) ←
        if c = '[' then takeHeader? p r
        else if c = '#' ∨ c = '\n' ∨ c = '\r' then some (p, c :: r)
        else takeEntry? p (c :: r)
      readLines? fuel p (← endLine? rest)

/-- Reads a document; a mark of byte order before it does not count. -/
def parse? (text : String) : Option (List (String × Value)) :=
  let s := match text.toList with
    | '\ufeff' :: r => r
    | s => s
  (readLines? (s.length + 1) ⟨[], []⟩ s).map fun p => valueEntries p.items

end BareMetal.Toml

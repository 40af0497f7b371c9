import BareMetal.Text.Hex

/-!
# TOML strings

Reading the four forms of strings, and writing a string in the plainest form
that can hold it.
-/

namespace BareMetal.Toml

/-- Controls that no string may hold as they are; tab and line feed are not among them. -/
def isBareControl (c : Char) : Bool :=
  (c.toNat < 0x20 && c != '\t' && c != '\n') || c.toNat == 0x7f

/-! ## Reading -/

/-- Takes `n` hexadecimal digits that stand for a character. -/
def takeCodePoint? (n : Nat) (s : List Char) : Option (Char × List Char) :=
  let ds := s.take n
  let v := Text.numeral 16 ds
  if ds.length = n ∧ ds.all Text.isHexDigit ∧ (v < 0xd800 ∨ (0xdfff < v ∧ v < 0x110000)) then
    some (Char.ofNat v, s.drop n)
  else none

def takeEscape? (s : List Char) : Option (Char × List Char) :=
  match s with
  | 'b' :: r => some ('\x08', r)
  | 't' :: r => some ('\t', r)
  | 'n' :: r => some ('\n', r)
  | 'f' :: r => some ('\x0c', r)
  | 'r' :: r => some ('\r', r)
  | '"' :: r => some ('"', r)
  | '\\' :: r => some ('\\', r)
  | 'u' :: r => takeCodePoint? 4 r
  | 'U' :: r => takeCodePoint? 8 r
  | _ => none

def takeNewline? (s : List Char) : Option (List Char) :=
  match s with
  | '\n' :: r => some r
  | '\r' :: '\n' :: r => some r
  | _ => none

/-- The rest behind a backslash at the end of a line: blanks and line breaks up to the next
character, at least one of them a line break. -/
def takeContinuation? (s : List Char) : Option (List Char) :=
  let rest := s.dropWhile fun c => c == ' ' || c == '\t'
  if (takeNewline? rest).isNone then none
  else
    let rec skip : List Char → List Char
      | '\r' :: '\n' :: r => skip r
      | '\n' :: r => skip r
      | ' ' :: r => skip r
      | '\t' :: r => skip r
      | r => r
    some (skip rest)

/-- How a string is delimited: by which quote, whether escapes count, and whether it may have
lines. -/
structure Form where
  quote : Char
  escapes : Bool
  multiline : Bool

/-- Takes a string from behind its opening quotes; `acc` holds what was read, last first. -/
def takeString? (form : Form) : (fuel : Nat) → (acc : List Char) → List Char →
    Option (String × List Char)
  | 0, _, _ => none
  | _ + 1, _, [] => none
  | fuel + 1, acc, c :: r =>
    if c = form.quote then
      if form.multiline then
        let run := (c :: r).takeWhile (· == form.quote)
        let extra := min (run.length - 3) 2
        if run.length < 3 then takeString? form fuel (c :: acc) r
        else
          some (String.ofList (acc.reverse ++ List.replicate extra c), (c :: r).drop (3 + extra))
      else some (String.ofList acc.reverse, r)
    else if form.escapes ∧ c = '\\' then
      match if form.multiline then takeContinuation? r else none with
      | some r => takeString? form fuel acc r
      | none => do
        let (d, r) ← takeEscape? r
        takeString? form fuel (d :: acc) r
    else
      match if form.multiline then takeNewline? (c :: r) else none with
      | some r => takeString? form fuel ('\n' :: acc) r
      | none =>
        if isBareControl c ∨ c = '\n' then none else takeString? form fuel (c :: acc) r

/-- Takes a string on one line from its opening quote on, as in a key. -/
def takeLine? (s : List Char) : Option (String × List Char) :=
  match s with
  | '"' :: r => takeString? ⟨'"', true, false⟩ s.length [] r
  | '\'' :: r => takeString? ⟨'\'', false, false⟩ s.length [] r
  | _ => none

/-- Takes a string of any form from its opening quotes on. A line break right behind three quotes
does not count. -/
def takeText? (s : List Char) : Option (String × List Char) :=
  let body (r : List Char) : List Char := (takeNewline? r).getD r
  match s with
  | '"' :: '"' :: '"' :: r => takeString? ⟨'"', true, true⟩ s.length [] (body r)
  | '\'' :: '\'' :: '\'' :: r => takeString? ⟨'\'', false, true⟩ s.length [] (body r)
  | _ => takeLine? s

/-! ## Writing -/

def hasRun3 (q : Char) : List Char → Bool
  | a :: b :: c :: rest => (a == q && b == q && c == q) || hasRun3 q (b :: c :: rest)
  | _ => false

def upperHex4 (n : Nat) : List Char :=
  [Text.upperHex (n / 4096 % 16), Text.upperHex (n / 256 % 16), Text.upperHex (n / 16 % 16),
    Text.upperHex (n % 16)]

def escaped (c : Char) : List Char :=
  match c with
  | '\x08' => ['\\', 'b']
  | '\t' => ['\\', 't']
  | '\n' => ['\\', 'n']
  | '\x0c' => ['\\', 'f']
  | '\r' => ['\\', 'r']
  | '\\' => ['\\', '\\']
  | '"' => ['\\', '"']
  | c => if isBareControl c then ['\\', 'u'] ++ upperHex4 c.toNat else [c]

/-- Text between three double quotes: line breaks stay, and so do quotes, except for each third one
of a run, `run` of which came before. -/
def escapedLines : (run : Nat) → List Char → List Char
  | _, [] => []
  | run, c :: rest =>
    if c = '\n' then c :: escapedLines 0 rest
    else if c = '"' then
      if run = 2 then escaped c ++ escapedLines 0 rest else c :: escapedLines (run + 1) rest
    else escaped c ++ escapedLines 0 rest

def quoteBasic (s : List Char) : List Char := '"' :: s.flatMap escaped ++ ['"']

def quoteLiteral (s : List Char) : List Char := '\'' :: s ++ ['\'']

/-- Three quotes around a text, which starts on a line of its own if it has lines. -/
def quoteLines (q : Char) (s body : List Char) : List Char :=
  [q, q, q] ++ (if s.contains '\n' then ['\n'] else []) ++ body ++ [q, q, q]

/-- The first form, in order of plainness, that can hold the text. -/
def quote (s : List Char) : List Char :=
  let clean := !s.any isBareControl
  let lines := s.contains '\n'
  if clean ∧ !s.contains '\\' ∧ !s.contains '"' ∧ !lines then quoteBasic s
  else if clean ∧ !s.contains '\'' ∧ !lines then quoteLiteral s
  else if clean ∧ !s.contains '\\' ∧ !hasRun3 '"' s then quoteLines '"' s (escapedLines 0 s)
  else if clean ∧ !hasRun3 '\'' s then quoteLines '\'' s s
  else if lines then quoteLines '"' s (escapedLines 0 s)
  else quoteBasic s

def isBareKeyChar (c : Char) : Bool := c.isAlphanum || c == '_' || c == '-'

/-- A key, bare where it can be. It stays on its line, so line breaks are escaped. -/
def quoteKey (s : List Char) : List Char :=
  let clean := !s.any isBareControl && !s.contains '\n'
  if !s.isEmpty ∧ s.all isBareKeyChar then s
  else if clean ∧ !s.contains '\\' ∧ !s.contains '"' then quoteBasic s
  else if clean ∧ !s.contains '\'' then quoteLiteral s
  else quoteBasic s

end BareMetal.Toml

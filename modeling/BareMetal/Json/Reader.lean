import BareMetal.Json.Basic
import BareMetal.Number.Scaled
import BareMetal.Text.Hex

/-!
# Reading JSON text

A recursive reader that names what is wrong and where. Positions are counted in
bytes of UTF-8. Nesting is limited to 127 levels.
-/

namespace BareMetal.Json

inductive SyntaxFault where
  | endInValue | endInList | endInObject | endInString
  | expectedValue | expectedIdent | expectedColon | expectedListEnd | expectedObjectEnd
  | keyNotString | trailingComma | trailingCharacters
  | invalidNumber | numberOutOfRange
  | controlCharacter | invalidEscape | loneSurrogate | unexpectedEscapeEnd
  | tooDeep
deriving DecidableEq, Repr

def SyntaxFault.message : SyntaxFault → String
  | endInValue => "EOF while parsing a value"
  | endInList => "EOF while parsing a list"
  | endInObject => "EOF while parsing an object"
  | endInString => "EOF while parsing a string"
  | expectedValue => "expected value"
  | expectedIdent => "expected ident"
  | expectedColon => "expected \x60:\x60"
  | expectedListEnd => "expected \x60,\x60 or \x60]\x60"
  | expectedObjectEnd => "expected \x60,\x60 or \x60\x7d\x60"
  | keyNotString => "key must be a string"
  | trailingComma => "trailing comma"
  | trailingCharacters => "trailing characters"
  | invalidNumber => "invalid number"
  | numberOutOfRange => "number out of range"
  | controlCharacter => "control character (\\u0000-\\u001F) found while parsing a string"
  | invalidEscape => "invalid escape"
  | loneSurrogate => "lone leading surrogate in hex escape"
  | unexpectedEscapeEnd => "unexpected end of hex escape"
  | tooDeep => "recursion limit exceeded"

/-- What went wrong, and how many bytes of the text had not been read by then. -/
structure Stop where
  fault : SyntaxFault
  unread : Nat
deriving DecidableEq, Repr

/-! ## Positions -/

def byteSize (s : List Char) : Nat := s.foldl (fun n c => n + c.utf8Size) 0

/-- Stops at the first byte of `s`, which counts as read. -/
def stopAt (fault : SyntaxFault) (s : List Char) : Stop := ⟨fault, byteSize s - 1⟩

/-- Line and column after `n` bytes: lines count from 1, columns are bytes since the line began. -/
def position (n : Nat) : List Char → Nat × Nat → Nat × Nat
  | [], at_ => at_
  | c :: rest, (line, column) =>
    if n < c.utf8Size then (line, column + n)
    else if c = '\n' then position (n - c.utf8Size) rest (line + 1, 0)
    else position (n - c.utf8Size) rest (line, column + c.utf8Size)

/-! ## Words and numbers -/

def skipBlanks (s : List Char) : List Char :=
  s.dropWhile fun c => c == ' ' || c == '\n' || c == '\t' || c == '\r'

/-- Reads the rest of `null`, `true` or `false`. -/
def readWord (value : Json) : List Char → List Char → Except Stop (Json × List Char)
  | [], s => .ok (value, s)
  | _ :: _, [] => .error ⟨.endInValue, 0⟩
  | w :: ws, c :: s =>
    if c = w then readWord value ws s else .error (stopAt .expectedIdent (c :: s))

def digitValue (c : Char) : Nat := c.toNat - 48

/-- Takes decimal digits into `n` as long as the result is at most `limit`. -/
def absorb (limit : Nat) : Nat → List Char → Nat × List Char
  | n, [] => (n, [])
  | n, d :: ds =>
    let m := 10 * n + digitValue d
    if m ≤ limit then absorb limit m ds else (n, d :: ds)

/-- The number `± significand · 10^power`; `rest` follows it. -/
def floatNumber (negative : Bool) (significand : Nat) (power : Int) (rest : List Char) :
    Except Stop (Number × List Char) :=
  match Binary64.scaled? significand power with
  | some x => .ok (.float (x.withSign negative), rest)
  | none => .error ⟨.numberOutOfRange, byteSize rest⟩

/-- Reads what follows the `e`; `power` is the exponent so far. -/
def readExponent (negative : Bool) (significand : Nat) (power : Int) (s : List Char) :
    Except Stop (Number × List Char) :=
  let (down, s) := match s with
    | '+' :: r => (false, r)
    | '-' :: r => (true, r)
    | _ => (false, s)
  match s with
  | [] => .error ⟨.endInValue, 0⟩
  | c :: _ =>
    if c.isDigit then
      let (ds, rest) := s.span Char.isDigit
      match absorb 2147483647 0 ds with
      | (e, []) => floatNumber negative significand (if down then power - e else power + e) rest
      | (_, _ :: more) =>
        if significand ≠ 0 ∧ !down then .error ⟨.numberOutOfRange, byteSize (more ++ rest)⟩
        else .ok (.float (.zero negative), rest)
    else .error (stopAt .invalidNumber s)

/-- Reads what follows the digits before the point. Those in `dropped` did not fit the
significand and only count towards the exponent, and so do digits after the point. -/
def readFraction (negative : Bool) (significand : Nat) (dropped : List Char) (s : List Char) :
    Except Stop (Number × List Char) :=
  match s with
  | '.' :: r =>
    match r.span Char.isDigit with
    | ([], []) => .error ⟨.endInValue, 0⟩
    | ([], _ :: _) => .error (stopAt .invalidNumber r)
    | (ds, rest) =>
      let (significand, excess) := absorb 18446744073709551615 significand ds
      let power : Int := dropped.length - (ds.length - excess.length : Nat)
      match rest with
      | 'e' :: r => readExponent negative significand power r
      | 'E' :: r => readExponent negative significand power r
      | _ => floatNumber negative significand power rest
  | 'e' :: r => readExponent negative significand dropped.length r
  | 'E' :: r => readExponent negative significand dropped.length r
  | _ =>
    let value : Int := if negative then -significand else significand
    match dropped, WideInt.ofInt? value with
    | [], some n =>
      if negative ∧ significand = 0 then .ok (.float (.zero true), s) else .ok (.int n, s)
    | _, _ => floatNumber negative significand dropped.length s

def readNumber (negative : Bool) (s : List Char) : Except Stop (Number × List Char) :=
  match s with
  | [] => .error ⟨.endInValue, 0⟩
  | '0' :: r =>
    match r with
    | c :: _ =>
      if c.isDigit then .error (stopAt .invalidNumber r) else readFraction negative 0 [] r
    | [] => readFraction negative 0 [] r
  | c :: _ =>
    if c.isDigit then
      let (ds, rest) := s.span Char.isDigit
      let (significand, dropped) := absorb 18446744073709551615 0 ds
      readFraction negative significand dropped rest
    else .error (stopAt .invalidNumber s)

/-! ## Strings -/

/-- Reads four hexadecimal digits. Four bytes count as read even where they are no digits. -/
def readHex4 (s : List Char) : Except Stop (Nat × List Char) :=
  match s.take 4 |>.mapM Text.hexValue? with
  | some [a, b, c, d] => .ok (((a * 16 + b) * 16 + c) * 16 + d, s.drop 4)
  | _ =>
    if byteSize s < 4 then .error ⟨.endInString, 0⟩ else .error ⟨.invalidEscape, byteSize s - 4⟩

/-- Reads what follows `\u`: a second escape must complete a leading surrogate. -/
def readUnicode (s : List Char) : Except Stop (Char × List Char) := do
  let (n, s) ← readHex4 s
  if 0xdc00 ≤ n ∧ n ≤ 0xdfff then .error ⟨.loneSurrogate, byteSize s⟩
  else if n < 0xd800 ∨ 0xdbff < n then .ok (Char.ofNat n, s)
  else
    let expect (c : Char) : List Char → Except Stop (Unit × List Char)
      | [] => .error ⟨.endInString, 0⟩
      | d :: r => if d = c then .ok ((), r) else .error (stopAt .unexpectedEscapeEnd (d :: r))
    let (_, s) ← expect '\\' s
    let (_, s) ← expect 'u' s
    let (m, s) ← readHex4 s
    if m < 0xdc00 ∨ 0xdfff < m then .error ⟨.loneSurrogate, byteSize s⟩
    else .ok (Char.ofNat (0x10000 + (n - 0xd800) * 0x400 + (m - 0xdc00)), s)

def readEscape (s : List Char) : Except Stop (Char × List Char) :=
  match s with
  | [] => .error ⟨.endInString, 0⟩
  | '"' :: r => .ok ('"', r)
  | '\\' :: r => .ok ('\\', r)
  | '/' :: r => .ok ('/', r)
  | 'b' :: r => .ok ('\x08', r)
  | 'f' :: r => .ok ('\x0c', r)
  | 'n' :: r => .ok ('\n', r)
  | 'r' :: r => .ok ('\r', r)
  | 't' :: r => .ok ('\t', r)
  | 'u' :: r => readUnicode r
  | _ => .error (stopAt .invalidEscape s)

/-- Reads a string from behind its opening quote; `acc` holds what was read, last first. -/
def readString : Nat → List Char → List Char → Except Stop (String × List Char)
  | 0, _, _ => .error ⟨.endInString, 0⟩
  | _ + 1, _, [] => .error ⟨.endInString, 0⟩
  | fuel + 1, acc, c :: r =>
    if c = '"' then .ok (String.ofList acc.reverse, r)
    else if c = '\\' then do
      let (d, r) ← readEscape r
      readString fuel (d :: acc) r
    else if c.toNat < 0x20 then .error (stopAt .controlCharacter (c :: r))
    else readString fuel (c :: acc) r

/-! ## Values -/

mutual

/-- Reads a value, inside which `depth - 1` more levels of brackets may open. -/
def readValue : Nat → Nat → List Char → Except Stop (Json × List Char)
  | 0, _, _ => .error ⟨.endInValue, 0⟩
  | fuel + 1, depth, s =>
    match skipBlanks s with
    | [] => .error ⟨.endInValue, 0⟩
    | c :: r =>
      if c = 'n' then readWord .null ['u', 'l', 'l'] r
      else if c = 't' then readWord (.bool true) ['r', 'u', 'e'] r
      else if c = 'f' then readWord (.bool false) ['a', 'l', 's', 'e'] r
      else if c = '-' then (readNumber true r).map fun (n, r) => (.number n, r)
      else if c.isDigit then (readNumber false (c :: r)).map fun (n, r) => (.number n, r)
      else if c = '"' then (readString fuel [] r).map fun (t, r) => (.string t, r)
      else if c = '[' then
        if depth ≤ 1 then .error (stopAt .tooDeep (c :: r))
        else (readItems fuel (depth - 1) [] r).map fun (items, r) => (.list items, r)
      else if c = '\x7b' then
        if depth ≤ 1 then .error (stopAt .tooDeep (c :: r))
        else (readEntries fuel (depth - 1) [] r).map fun (es, r) => (ofEntries es, r)
      else .error (stopAt .expectedValue (c :: r))

/-- Reads the elements of a list up to its bracket; `acc` holds those read, last first. -/
def readItems : Nat → Nat → List Json → List Char → Except Stop (List Json × List Char)
  | 0, _, _, _ => .error ⟨.endInList, 0⟩
  | fuel + 1, depth, acc, s =>
    let next (s : List Char) : Except Stop (List Json × List Char) := do
      let (v, s) ← readValue fuel depth s
      readItems fuel depth (v :: acc) s
    match skipBlanks s with
    | [] => .error ⟨.endInList, 0⟩
    | c :: r =>
      if c = ']' then .ok (acc.reverse, r)
      else if acc.isEmpty then next (c :: r)
      else if c = ',' then
        match skipBlanks r with
        | [] => .error ⟨.endInValue, 0⟩
        | d :: r => if d = ']' then .error (stopAt .trailingComma (d :: r)) else next (d :: r)
      else .error (stopAt .expectedListEnd (c :: r))

/-- Reads the entries of an object up to its brace; `acc` holds those read, last first. -/
def readEntries : Nat → Nat → List (String × Json) → List Char →
    Except Stop (List (String × Json) × List Char)
  | 0, _, _, _ => .error ⟨.endInObject, 0⟩
  | fuel + 1, depth, acc, s =>
    let next (s : List Char) : Except Stop (List (String × Json) × List Char) := do
      let (key, s) ← readString fuel [] s
      match skipBlanks s with
      | [] => .error ⟨.endInObject, 0⟩
      | c :: r =>
        if c = ':' then do
          let (v, s) ← readValue fuel depth r
          readEntries fuel depth ((key, v) :: acc) s
        else .error (stopAt .expectedColon (c :: r))
    match skipBlanks s with
    | [] => .error ⟨.endInObject, 0⟩
    | c :: r =>
      if c = '\x7d' then .ok (acc.reverse, r)
      else if acc.isEmpty then
        if c = '"' then next r else .error (stopAt .keyNotString (c :: r))
      else if c = ',' then
        match skipBlanks r with
        | [] => .error ⟨.endInValue, 0⟩
        | d :: r =>
          if d = '"' then next r
          else if d = '\x7d' then .error (stopAt .trailingComma (d :: r))
          else .error (stopAt .keyNotString (d :: r))
      else .error (stopAt .expectedObjectEnd (c :: r))

end

structure SyntaxError where
  fault : SyntaxFault
  line : Nat
  column : Nat
deriving DecidableEq, Repr

namespace SyntaxError

def message (e : SyntaxError) : String :=
  e.fault.message ++ " at line " ++ toString e.line ++ " column " ++ toString e.column

end SyntaxError

/-- Brackets may nest 127 levels deep. -/
def depthLimit : Nat := 128

/-- Reads a whole text as one value. Each step of the reader takes a character or opens a level,
so twice the length of the text is fuel enough. -/
def parse (text : String) : Except SyntaxError Json :=
  let s := text.toList
  let place (stop : Stop) : SyntaxError :=
    let (line, column) := position (byteSize s - stop.unread) s (1, 0)
    ⟨stop.fault, line, column⟩
  match readValue (2 * s.length + 2) depthLimit s with
  | .error stop => .error (place stop)
  | .ok (value, rest) =>
    match skipBlanks rest with
    | [] => .ok value
    | c :: r => .error (place (stopAt .trailingCharacters (c :: r)))

end BareMetal.Json

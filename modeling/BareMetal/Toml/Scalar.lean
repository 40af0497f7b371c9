import BareMetal.Text.Blank
import BareMetal.Text.Hex
import BareMetal.Toml.Value

/-!
# Numbers, booleans and dates

A scalar is a run of letters, digits and a few signs, and is recognised as a
whole: `scalar?` accepts exactly the spellings of one of the kinds.
-/

namespace BareMetal.Toml

/-! ## Digits -/

/-- Digits in which single underscores may stand between two digits; the digits alone. -/
def grouped? (valid : Char → Bool) : List Char → Option (List Char)
  | [] => none
  | [c] => if valid c then some [c] else none
  | c :: '_' :: rest => if valid c then (grouped? valid rest).map (c :: ·) else none
  | c :: rest => if valid c then (grouped? valid rest).map (c :: ·) else none

def decimalDigits? (s : List Char) : Option (List Char) := grouped? Char.isDigit s

/-- Removes a sign: whether it was a minus, and the rest. -/
def splitSign (s : List Char) : Bool × List Char :=
  match s with
  | '-' :: r => (true, r)
  | '+' :: r => (false, r)
  | _ => (false, s)

/-- Decimal digits of an integer, which has no leading zeros. -/
def integerDigits? (s : List Char) : Option (List Char) :=
  match decimalDigits? s with
  | some ('0' :: _ :: _) => none
  | ds => ds

def inRange (n : Int) : Option Int :=
  if -9223372036854775808 ≤ n ∧ n < 9223372036854775808 then some n else none

def isRadixDigit (radix : Nat) (c : Char) : Bool :=
  match Text.hexValue? c with
  | some v => v < radix
  | none => false

def integer? (s : List Char) : Option Int :=
  let radixed (radix : Nat) (r : List Char) : Option Int := do
    inRange (Text.numeral radix (← grouped? (isRadixDigit radix) r))
  match s with
  | '0' :: 'x' :: r => radixed 16 r
  | '0' :: 'o' :: r => radixed 8 r
  | '0' :: 'b' :: r => radixed 2 r
  | _ => do
    let (negative, r) := splitSign s
    let n : Int := Text.numeral 10 (← integerDigits? r)
    inRange (if negative then -n else n)

/-! ## Floating-point numbers -/

def isExponentMark (c : Char) : Bool := c == 'e' || c == 'E'

/-- The power of ten behind an exponent mark; nothing stands for zero. -/
def exponent? (s : List Char) : Option Int :=
  match s with
  | [] => some 0
  | _ :: r => do
    let (negative, r) := splitSign r
    let n : Int := Text.numeral 10 (← decimalDigits? r)
    some (if negative then -n else n)

/-- A number with a fraction or an exponent. One beyond the largest finite number is accepted with a
minus sign only. -/
def decimal? (s : List Char) : Option Real := do
  let (negative, r) := splitSign s
  let (mantissa, exp) := r.span fun c => !isExponentMark c
  let (whole, fraction) := mantissa.span (· != '.')
  let wholeDigits ← integerDigits? whole
  let fractionDigits ← match fraction with
    | [] => if exp.isEmpty then none else some []
    | _ :: f => decimalDigits? f
  let power := (← exponent? exp) - fractionDigits.length
  match Real.ofDecimal negative (Text.numeral 10 (wholeDigits ++ fractionDigits)) power with
  | .infinite false => none
  | x => some x

def real? (s : List Char) : Option Real :=
  let (negative, r) := splitSign s
  if r = ['i', 'n', 'f'] then some (.infinite negative)
  else if r = ['n', 'a', 'n'] then some .nan
  else decimal? s

/-! ## Dates and times -/

def takeNumber? (n : Nat) (s : List Char) : Option (Nat × List Char) :=
  let ds := s.take n
  if ds.length = n ∧ ds.all Char.isDigit then some (Text.numeral 10 ds, s.drop n) else none

def takeSign? (c : Char) (s : List Char) : Option (List Char) :=
  match s with
  | d :: r => if d = c then some r else none
  | [] => none

def daysIn (year month : Nat) : Nat :=
  if month = 2 then
    if year % 4 = 0 ∧ (year % 100 ≠ 0 ∨ year % 400 = 0) then 29 else 28
  else if [4, 6, 9, 11].contains month then 30
  else 31

def takeDate? (s : List Char) : Option (List Char × List Char) := do
  let (year, r) ← takeNumber? 4 s
  let r ← takeSign? '-' r
  let (month, r) ← takeNumber? 2 r
  let r ← takeSign? '-' r
  let (day, r) ← takeNumber? 2 r
  if 1 ≤ month ∧ month ≤ 12 ∧ 1 ≤ day ∧ day ≤ daysIn year month then some (s.take 10, r) else none

/-- A fraction of a second in its usual form: at most nine digits, and no zeros at the end. -/
def fractionText (digits : List Char) : List Char :=
  match Text.trimEnd (· == '0') (digits.take 9) with
  | [] => []
  | ds => '.' :: ds

/-- Takes hours, minutes, seconds up to a leap second, and perhaps a fraction. -/
def takeTime? (s : List Char) : Option (List Char × List Char) := do
  let (hour, r) ← takeNumber? 2 s
  let r ← takeSign? ':' r
  let (minute, r) ← takeNumber? 2 r
  let r ← takeSign? ':' r
  let (second, r) ← takeNumber? 2 r
  if hour ≤ 23 ∧ minute ≤ 59 ∧ second ≤ 60 then
    match r with
    | '.' :: r =>
      let (ds, rest) := r.span Char.isDigit
      if ds.isEmpty then none else some (s.take 8 ++ fractionText ds, rest)
    | _ => some (s.take 8, r)
  else none

/-- An offset in its usual form; none is also one. -/
def offset? (s : List Char) : Option (List Char) :=
  match s with
  | [] => some []
  | ['Z'] => some ['Z']
  | ['z'] => some ['Z']
  | c :: r => do
    let (hour, r) ← takeNumber? 2 r
    let r ← takeSign? ':' r
    let (minute, r) ← takeNumber? 2 r
    if (c = '+' ∨ c = '-') ∧ hour ≤ 23 ∧ minute ≤ 59 ∧ r.isEmpty then
      some (if hour = 0 ∧ minute = 0 then '+' :: s.tail else s)
    else none

/-- A date, a time, or both with a mark or a blank between them and perhaps an offset, in the usual
form. -/
def datetime? (s : List Char) : Option (List Char) :=
  match takeDate? s with
  | some (date, []) => some date
  | some (date, c :: r) =>
    if c = 'T' ∨ c = 't' ∨ c = ' ' then do
      let (time, r) ← takeTime? r
      return date ++ 'T' :: time ++ (← offset? r)
    else none
  | none => match takeTime? s with
    | some (time, []) => some time
    | _ => none

/-! ## Scalars -/

def isScalarChar (c : Char) : Bool :=
  c.isAlphanum || ['_', '+', '-', '.', ':'].contains c

def scalar? (s : List Char) : Option Value :=
  if s = ['t', 'r', 'u', 'e'] then some (.boolean true)
  else if s = ['f', 'a', 'l', 's', 'e'] then some (.boolean false)
  else match datetime? s with
    | some text => some (.datetime (String.ofList text))
    | none => match integer? s with
      | some n => some (.integer n)
      | none => (real? s).map .real

/-- Takes a scalar off a text. A date may go on with a time behind a blank. -/
def takeScalar (s : List Char) : List Char × List Char :=
  let (token, rest) := s.span isScalarChar
  match rest with
  | ' ' :: c :: _ =>
    if (takeDate? token).any (·.2.isEmpty) ∧ c.isDigit then
      let (time, more) := (rest.drop 1).span isScalarChar
      (token ++ ' ' :: time, more)
    else (token, rest)
  | _ => (token, rest)

end BareMetal.Toml

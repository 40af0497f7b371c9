import BareMetal.Wire.Shape
import BareMetal.Number.Notation
import BareMetal.Text.Quoted

/-!
# Decoding wire records

A record is decoded from a map, entry by entry in the order of the map, and
after that the entries it did not have are filled in or missed. A list is taken
as the entries of the record in order. The first fault is reported.
-/

namespace BareMetal.Wire

inductive DecodeError where
  | invalidType (got : Json) (expected : String)
  | invalidValue (n : Int) (w : Word)
  | missingField (name : String)
  | tooShort (size : Nat) (title : String) (arity : Nat)
  | tooLong (size : Nat)

def nameOf : Json → String
  | .null => "null"
  | .bool b => "boolean \x60" ++ (if b then "true" else "false") ++ "\x60"
  | .number (.int n) => "integer \x60" ++ toString n.val ++ "\x60"
  | .number (.float x) => "floating point \x60" ++ x.jsonText ++ "\x60"
  | .string s => "string " ++ Text.quoted s
  | .list _ => "sequence"
  | .map _ => "map"

def DecodeError.message : DecodeError → String
  | invalidType got expected => "invalid type: " ++ nameOf got ++ ", expected " ++ expected
  | invalidValue n w => "invalid value: integer \x60" ++ toString n ++ "\x60, expected " ++ w.name
  | missingField name => "missing field \x60" ++ name ++ "\x60"
  | tooShort size title arity =>
    "invalid length " ++ toString size ++ ", expected struct " ++ title ++ " with " ++
      toString arity ++ " elements"
  | tooLong size => "invalid length " ++ toString size ++ ", expected fewer elements in array"

/-! ## Scalars -/

def decodeText : Json → Except DecodeError String
  | .string s => .ok s
  | v => .error (.invalidType v "a string")

def decodeFlag : Json → Except DecodeError Bool
  | .bool b => .ok b
  | v => .error (.invalidType v "a boolean")

def decodeInteger (w : Word) : Json → Except DecodeError {n : Int // w.Holds n}
  | .number (.int n) => if h : w.Holds n.val then .ok ⟨n.val, h⟩ else .error (.invalidValue n.val w)
  | v => .error (.invalidType v w.name)

/-- The binary64 nearest to an integer of at most 64 bits. -/
def nearest (n : WideInt) : Binary64 :=
  ((Binary64.ofNat? n.val.natAbs).getD (.zero false)).withSign (n.val < 0)

def decodeReal : Json → Except DecodeError Binary64
  | .number (.int n) => .ok (nearest n)
  | .number (.float x) => .ok x
  | v => .error (.invalidType v "f64")

/-! ## Records -/

/-- A record being filled: the entries decoded so far. -/
def Slots : List (String × Bool × Shape) → Type
  | [] => Unit
  | (_, _, s) :: rest => Option s.Value × Slots rest

def Slots.empty : (fields : List (String × Bool × Shape)) → Slots fields
  | [] => ()
  | _ :: rest => (none, Slots.empty rest)

/-- Fills in what was left out; the first needed entry without a value is missed. -/
def Slots.complete : (fields : List (String × Bool × Shape)) → Slots fields →
    Except DecodeError (Values fields)
  | [], _ => .ok ()
  | (name, isNeeded, s) :: rest, slots =>
    match slots.1 with
    | some v => (Slots.complete rest slots.2).map fun vs => (v, vs)
    | none =>
      if isNeeded then .error (.missingField name)
      else (Slots.complete rest slots.2).map fun vs => (s.blank, vs)

mutual

def decode : (s : Shape) → Json → Except DecodeError s.Value
  | .text, v => decodeText v
  | .flag, v => decodeFlag v
  | .integer w, v => decodeInteger w v
  | .real, v => decodeReal v
  | .nullable inner, v =>
    match v with
    | .null => .ok (none : Option inner.Value)
    | v => (decode inner v).map some
  | .sequence inner, v =>
    match v with
    | .list items => (items.mapM fun item => decode inner item : Except _ (List inner.Value))
    | v => .error (.invalidType v "a sequence")
  | .record title fields, v =>
    match v with
    | .map entries => do
      let slots ← entries.foldlM (fun slots (e : String × Json) => fill fields slots e.1 e.2)
        (Slots.empty fields)
      slots.complete fields
    | .list items => do
      let (values, left) ← decodeInOrder title fields.length fields 0 items
      if left = 0 then .ok values else .error (.tooLong items.length)
    | v => .error (.invalidType v ("struct " ++ title))

/-- Decodes an entry into its slot; an entry of another name is passed over. -/
def fill : (fields : List (String × Bool × Shape)) → Slots fields → String → Json →
    Except DecodeError (Slots fields)
  | [], slots, _, _ => .ok slots
  | (name, _, s) :: rest, slots, key, v =>
    if name = key then (decode s v).map fun x => (some x, slots.2)
    else (fill rest slots.2 key v).map fun more => (slots.1, more)

/-- Decodes elements as the entries from number `i` on, and counts the elements left over. -/
def decodeInOrder (title : String) (arity : Nat) : (fields : List (String × Bool × Shape)) → Nat →
    List Json → Except DecodeError (Values fields × Nat)
  | [], _, items => .ok ((), items.length)
  | (_, _, s) :: rest, i, item :: items => do
    let v ← decode s item
    let (vs, left) ← decodeInOrder title arity rest (i + 1) items
    return ((v, vs), left)
  | (_, isNeeded, s) :: rest, i, [] =>
    if isNeeded then .error (.tooShort i title arity)
    else do
      let (vs, left) ← decodeInOrder title arity rest (i + 1) []
      return ((s.blank, vs), left)

end

end BareMetal.Wire

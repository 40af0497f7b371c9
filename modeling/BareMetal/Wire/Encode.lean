import BareMetal.Wire.Shape

/-!
# Encoding wire records

Every entry of a record is written, in the order of its shape, absent optional
values as null.
-/

namespace BareMetal.Wire

mutual

def encode : (s : Shape) → s.Value → Json
  | .text, v => .string v
  | .flag, v => .bool v
  | .integer _, v => .number (.int ⟨v.val, v.property.wide⟩)
  | .real, v => .number (.float v)
  | .nullable inner, v =>
    match (v : Option inner.Value) with
    | none => .null
    | some w => encode inner w
  | .sequence inner, v => .list ((v : List inner.Value).map fun w => encode inner w)
  | .record _ fields, v => .map (encodeFields fields v)

def encodeFields : (fields : List (String × Bool × Shape)) → Values fields → List (String × Json)
  | [], _ => []
  | (name, _, s) :: rest, v => (name, encode s v.1) :: encodeFields rest v.2

end

end BareMetal.Wire

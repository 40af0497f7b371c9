import BareMetal.Json.Basic

/-!
# Shapes of wire records

A `Shape` describes the data of one kind of payload: what its values are, which
type of Lean holds them (`Shape.Value`), and which entries of a record may be
left out. Decoding and encoding are read off the shape.
-/

namespace BareMetal.Wire

inductive Word where
  | i64 | u16 | u32 | u64
deriving DecidableEq, Repr

namespace Word

def name : Word → String
  | i64 => "i64"
  | u16 => "u16"
  | u32 => "u32"
  | u64 => "u64"

def low : Word → Int
  | i64 => -9223372036854775808
  | _ => 0

def high : Word → Int
  | i64 => 9223372036854775808
  | u16 => 65536
  | u32 => 4294967296
  | u64 => 18446744073709551616

def Holds (w : Word) (n : Int) : Prop := w.low ≤ n ∧ n < w.high

instance (w : Word) (n : Int) : Decidable (w.Holds n) :=
  inferInstanceAs (Decidable (_ ∧ _))

theorem Holds.wide {w : Word} {n : Int} (h : w.Holds n) :
    -9223372036854775808 ≤ n ∧ n < 18446744073709551616 := by
  obtain ⟨h₁, h₂⟩ := h
  cases w <;> simp only [low, high] at h₁ h₂ <;> omega

end Word

inductive Shape where
  | text
  | flag
  | integer (w : Word)
  | real
  | nullable (inner : Shape)
  | sequence (inner : Shape)
  /-- Named entries in order, each needed or not; `title` names the record in messages. -/
  | record (title : String) (fields : List (String × Bool × Shape))

def needed (name : String) (s : Shape) : String × Bool × Shape := (name, true, s)

def defaulted (name : String) (s : Shape) : String × Bool × Shape := (name, false, s)

/-! ## Values of a shape -/

mutual

/-- The values of a shape; a record is a tuple of its entries. -/
def Shape.Value : Shape → Type
  | .text => String
  | .flag => Bool
  | .integer w => {n : Int // w.Holds n}
  | .real => Binary64
  | .nullable inner => Option inner.Value
  | .sequence inner => List inner.Value
  | .record _ fields => Values fields

def Values : List (String × Bool × Shape) → Type
  | [] => Unit
  | (_, _, s) :: rest => s.Value × Values rest

end

mutual

/-- What stands for an entry that was left out: nothing, false, zero or empty. -/
def Shape.blank : (s : Shape) → s.Value
  | .text => ""
  | .flag => false
  | .integer w => ⟨0, by cases w <;> decide⟩
  | .real => Binary64.zero false
  | .nullable _ => none
  | .sequence _ => []
  | .record _ fields => blanks fields

def blanks : (fields : List (String × Bool × Shape)) → Values fields
  | [] => ()
  | (_, _, s) :: rest => (s.blank, blanks rest)

end

end BareMetal.Wire

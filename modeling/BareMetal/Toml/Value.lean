import BareMetal.Number.Notation

/-!
# TOML values
-/

namespace BareMetal.Toml

inductive Real where
  | finite (x : Binary64)
  | infinite (negative : Bool)
  | nan
deriving DecidableEq

def Real.text : Real → String
  | finite x => x.plainText
  | infinite negative => if negative then "-inf" else "inf"
  | nan => "NaN"

/-- The number nearest to `± digits · 10^power`. -/
def Real.ofDecimal (negative : Bool) (digits : Nat) (power : Int) : Real :=
  match Binary64.ofDecimal? negative digits power with
  | some x => .finite x
  | none => .infinite negative

inductive Value where
  | string (s : String)
  | integer (n : Int)
  | real (x : Real)
  | boolean (b : Bool)
  /-- A date, a time or both, in the usual form. -/
  | datetime (text : String)
  | array (items : List Value)
  | table (entries : List (String × Value))

instance : Inhabited Value := ⟨.table []⟩

end BareMetal.Toml

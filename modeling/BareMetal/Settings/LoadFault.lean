import BareMetal.Settings.Layer
import BareMetal.Text.Quoted

/-!
# Why layers make no configuration
-/

namespace BareMetal.Settings

inductive Wanted where
  | string
  | boolean
  /-- A whole number of 64 bits without a sign. -/
  | count
  | path
  | map
  | profile
  | defaults
deriving DecidableEq, Repr

def Wanted.name : Wanted → String
  | string => "a string"
  | boolean => "a boolean"
  | count => "u64"
  | path => "path string"
  | map => "a map"
  | profile => "struct Profile"
  | defaults => "struct Defaults"

def Setting.described : Setting → String
  | .text s => "string " ++ Text.quoted s
  | .flag b => "bool " ++ toString b
  | .signed n => "signed int `" ++ toString n ++ "`"
  | .unsigned n => "unsigned int `" ++ toString n ++ "`"
  | .real x => "float `" ++ x.text ++ "`"
  | .list _ => "sequence"
  | .table _ => "map"

inductive LoadFault.Cause where
  /-- The file is no TOML document. -/
  | notToml
  | wrongType (found : Setting) (wanted : Wanted)
  | negative (n : Int)
  | missing (field : String)
  /-- A profile is given as a list, which is too short. -/
  | tooShort (length : Nat)

/-- Why the layers make no configuration, and the keys that lead to the place. -/
structure LoadFault where
  cause : LoadFault.Cause
  path : List String

namespace LoadFault

/-- The same fault, seen from the table or list that holds its place under `key`. -/
def under (key : String) (f : LoadFault) : LoadFault := { f with path := key :: f.path }

def Cause.kind : Cause → String
  | notToml => "Message"
  | wrongType .. => "InvalidType"
  | negative _ => "InvalidValue"
  | missing _ => "MissingField"
  | tooShort _ => "InvalidLength"

/-- The message, except for a file that cannot be read. -/
def Cause.message? : Cause → Option String
  | notToml => none
  | wrongType found wanted =>
    some ("invalid type: found " ++ found.described ++ ", expected " ++ wanted.name)
  | negative n =>
    some ("invalid value signed int `" ++ toString n ++ "`, expected " ++ Wanted.count.name)
  | missing field => some ("missing field `" ++ field ++ "`")
  | tooShort length =>
    some ("invalid length " ++ toString length ++ ", expected " ++ Wanted.profile.name ++
      " with 5 elements")

end LoadFault

end BareMetal.Settings

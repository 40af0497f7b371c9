import BareMetal.Text.Base64

/-!
# Arguments of machine actions

Each action has its own arguments, and they are sent as a form. Arguments that
are not set or empty are left out.
-/

namespace BareMetal.Action

abbrev Form := List (String × String)

/-- A field, unless its text is empty. -/
def textField (name value : String) : Form := if value.isEmpty then [] else [(name, value)]

/-- The field for user data, which is sent in base64. -/
def userDataField (data : Option (List UInt8)) : Form :=
  match data with
  | none => []
  | some bytes => textField "user_data" (String.ofList (Base64.encode bytes))

structure StartArgs where
  userData : Option (List UInt8)
  distroSeries : String
  kernel : String
  comment : String
deriving DecidableEq

def StartArgs.form (a : StartArgs) : Form :=
  userDataField a.userData ++ textField "distro_series" a.distroSeries ++
    textField "hwe_kernel" a.kernel ++ textField "comment" a.comment

structure PowerOnArgs where
  userData : Option (List UInt8)
  comment : String
deriving DecidableEq

def PowerOnArgs.form (a : PowerOnArgs) : Form :=
  userDataField a.userData ++ textField "comment" a.comment

inductive StopMode where
  | hard
  | soft
deriving DecidableEq

def StopMode.name : StopMode → String
  | hard => "hard"
  | soft => "soft"

structure PowerOffArgs where
  /-- Where it is not set the server stops hard. -/
  stopMode : Option StopMode
  comment : String
deriving DecidableEq

def PowerOffArgs.form (a : PowerOffArgs) : Form :=
  (a.stopMode.map fun m => ("stop_mode", m.name)).toList ++ textField "comment" a.comment

structure ReleaseArgs where
  comment : String
deriving DecidableEq

def ReleaseArgs.form (a : ReleaseArgs) : Form := textField "comment" a.comment

end BareMetal.Action

import BareMetal.Settings.Spelling

/-!
# Settings from the environment

Variables whose names begin with a common prefix hold settings. Letters count
alike in either case, and two underscores lead from a table to a setting in it:
behind the prefix, `DEFAULTS__TIMEOUT` is the setting `timeout` of the table
`defaults`.
-/

namespace BareMetal.Settings

abbrev Variable := String × String

def variablePrefix : List Char := "maasly_".toList

def joinLevels : List Char → List Char
  | '_' :: '_' :: rest => '.' :: joinLevels rest
  | c :: rest => c :: joinLevels rest
  | [] => []

/-- The keys that lead to the setting of a variable, if it holds one. -/
def keyPath? (name : String) : Option (List String) :=
  let lower := (Text.trimBoth Text.isBlank name.toList).map Char.toLower
  if variablePrefix.isPrefixOf lower then
    let key := Text.trimBoth Text.isBlank (joinLevels (lower.drop variablePrefix.length))
    let levels := Text.pieces (· == '.') key
    if levels.any List.isEmpty then none else some (levels.map String.ofList)
  else none

/-- A setting inside the tables that lead to it. -/
def nest : List String → Setting → Setting
  | [], v => v
  | key :: path, v => .table [(key, nest path v)]

/-- The layer with the setting of one variable. -/
def Layer.ofVariable (v : Variable) : Layer :=
  match keyPath? v.1 with
  | some (key :: path) => [(key, nest path (.ofText v.2))]
  | _ => []

/-- Later variables are laid over earlier ones. -/
def Layer.ofEnvironment (vars : List Variable) : Layer :=
  vars.foldl (fun layer v => layer.overlay (.ofVariable v)) []

end BareMetal.Settings

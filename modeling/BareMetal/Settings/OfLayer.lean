import BareMetal.Settings.LoadFault

/-!
# Configurations from layers

A layer is read as a configuration field by field, in the order of the keys, and
the first fault is reported. Settings that no field is named for do not matter. A
profile or the defaults may also be given as a list, field by field in the order
of their declaration.
-/

namespace BareMetal.Settings

abbrev Decoder (α : Type) := Setting → Except LoadFault α

/-- The fault of a setting that is not what is wanted. -/
def mismatch {α : Type} (found : Setting) (wanted : Wanted) : Except LoadFault α :=
  .error ⟨.wrongType found wanted, []⟩

/-! ## Single settings -/

namespace Setting

def asString : Decoder String
  | .text s => .ok s
  | v => mismatch v .string

def asPath : Decoder String
  | .text s => .ok s
  | v => mismatch v .path

def asBoolean : Decoder Bool
  | .flag b => .ok b
  | v => mismatch v .boolean

def asCount : Decoder Nat
  | .unsigned n => .ok n
  | .signed n => if 0 ≤ n then .ok n.toNat else .error ⟨.negative n, []⟩
  | v => mismatch v .count

end Setting

/-! ## Fields and elements -/

def field {α : Type} (entries : Layer) (key : String) (decode : Decoder α) :
    Except LoadFault (Option α) :=
  match entries.lookup key with
  | none => .ok none
  | some v => match decode v with
    | .ok x => .ok (some x)
    | .error f => .error (f.under key)

def element {α : Type} (items : List Setting) (i : Nat) (decode : Decoder α) :
    Except LoadFault (Option α) :=
  match items[i]? with
  | none => .ok none
  | some v => match decode v with
    | .ok x => .ok (some x)
    | .error f => .error (f.under (toString i))

def required {α : Type} (items : List Setting) (i : Nat) (decode : Decoder α) :
    Except LoadFault α := do
  match ← element items i decode with
  | some x => return x
  | none => throw ⟨.tooShort items.length, []⟩

/-! ## Records -/

/-- Defaults with the standard ones in the places of those that are absent. -/
def Defaults.ofParts (apiVersion : Option String) (insecure : Option Bool)
    (timeout : Option Nat) : Defaults :=
  ⟨apiVersion.getD Defaults.standard.apiVersion, insecure.getD Defaults.standard.insecure,
    timeout.getD Defaults.standard.timeout⟩

namespace Setting

def asProfile : Decoder Profile
  | .table entries => do
    let apiVersion ← field entries "api_version" asString
    let caCert ← field entries "ca_cert" asPath
    let insecure ← field entries "insecure" asBoolean
    let timeout ← field entries "timeout" asCount
    match ← field entries "url" asString with
    | some url => return { url, apiVersion, caCert, insecure, timeout }
    | none => throw ⟨.missing "url", []⟩
  | .list items => do
    let url ← required items 0 asString
    let apiVersion ← required items 1 asString
    let caCert ← required items 2 asPath
    let insecure ← required items 3 asBoolean
    let timeout ← required items 4 asCount
    return ⟨url, some apiVersion, some caCert, some insecure, some timeout⟩
  | v => mismatch v .profile

def asDefaults : Decoder Defaults
  | .table entries => do
    let apiVersion ← field entries "api_version" asString
    let insecure ← field entries "insecure" asBoolean
    let timeout ← field entries "timeout" asCount
    return Defaults.ofParts apiVersion insecure timeout
  | .list items => do
    let apiVersion ← element items 0 asString
    let insecure ← element items 1 asBoolean
    let timeout ← element items 2 asCount
    return Defaults.ofParts apiVersion insecure timeout
  | v => mismatch v .defaults

def profileEntries : Layer → Except LoadFault (List (String × Profile))
  | [] => .ok []
  | (name, v) :: rest =>
    match v.asProfile with
    | .error f => .error (f.under name)
    | .ok p => (profileEntries rest).map ((name, p) :: ·)

def asProfiles : Decoder (List (String × Profile))
  | .table entries => profileEntries entries
  | v => mismatch v .map

end Setting

def Config.ofLayer (layer : Layer) : Except LoadFault Config := do
  let defaultProfile ← field layer "default_profile" Setting.asString
  let defaults ← field layer "defaults" Setting.asDefaults
  let named ← field layer "profiles" Setting.asProfiles
  return ⟨defaultProfile, defaults.getD .standard, named.getD []⟩

end BareMetal.Settings

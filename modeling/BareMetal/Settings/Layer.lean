import BareMetal.Keyed
import BareMetal.Settings.Profile
import BareMetal.Toml.Value

/-!
# Layers

A configuration is put together from layers: what is built in, a file, and the
environment. Each layer is a table of settings that have no type yet. Laying one
over another merges tables key by key at every depth; any other setting replaces
what is below it.
-/

namespace BareMetal.Settings

inductive Setting where
  | text (s : String)
  | flag (b : Bool)
  /-- A whole number whose source allows a sign. -/
  | signed (n : Int)
  /-- A whole number whose source does not. -/
  | unsigned (n : Nat)
  | real (x : Toml.Real)
  | list (items : List Setting)
  /-- Sorted by key. -/
  | table (entries : List (String × Setting))

abbrev Layer := List (String × Setting)

/-! ## Laying over -/

mutual

def Setting.overlay : (lower upper : Setting) → Setting
  | .table below, .table above => .table (overlayEntries below above)
  | _, upper => upper

def overlayEntries : (lower upper : Layer) → Layer
  | lower, [] => lower
  | lower, (key, value) :: rest =>
    overlayEntries (Keyed.put key (match lower.lookup key with
      | some below => below.overlay value
      | none => value) lower) rest

end

/-- The settings of `upper`, and those of `lower` that they leave standing. -/
def Layer.overlay (lower upper : Layer) : Layer := overlayEntries lower upper

/-! ## Layers from values -/

mutual

/-- A date counts as a table of one entry. -/
def Setting.ofToml : Toml.Value → Setting
  | .string s => .text s
  | .integer n => .signed n
  | .real x => .real x
  | .boolean b => .flag b
  | .datetime text => .table [("$__toml_private_datetime", .text text)]
  | .array items => .list (itemsOfToml items)
  | .table entries => .table (Keyed.ofList (entriesOfToml entries))

def itemsOfToml : List Toml.Value → List Setting
  | [] => []
  | item :: rest => .ofToml item :: itemsOfToml rest

def entriesOfToml : List (String × Toml.Value) → List (String × Setting)
  | [] => []
  | (key, value) :: rest => (key, .ofToml value) :: entriesOfToml rest

end

def Layer.ofToml (document : List (String × Toml.Value)) : Layer :=
  Keyed.ofList (entriesOfToml document)

/-- What is built in. -/
def Layer.standard : Layer :=
  [("default_profile", .text "default"),
    ("defaults", .table [("api_version", .text Defaults.standard.apiVersion),
      ("insecure", .flag Defaults.standard.insecure),
      ("timeout", .unsigned Defaults.standard.timeout)]),
    ("profiles", .table [])]

end BareMetal.Settings

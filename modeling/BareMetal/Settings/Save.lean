import BareMetal.Settings.Profile
import BareMetal.Toml.Printer

/-!
# Saving a configuration

A configuration is written as TOML, each profile under a header of its own. What
a profile leaves to the defaults is not written.
-/

namespace BareMetal.Settings

open Toml (Plain Section)

/-- Counts from here on have no spelling in TOML. -/
def tomlCountLimit : Nat := 9223372036854775808

/-- The entry of a field, if it has a value. -/
def entry {α : Type} (key : String) (spell : α → Plain) (value : Option α) :
    List (String × Plain) :=
  (value.map fun x => (key, spell x)).toList

def Defaults.entries (d : Defaults) : List (String × Plain) :=
  [("api_version", .string d.apiVersion), ("insecure", .boolean d.insecure),
    ("timeout", .count d.timeout)]

def Profile.entries (p : Profile) : List (String × Plain) :=
  [("url", .string p.url)] ++ entry "api_version" .string p.apiVersion ++
    entry "ca_cert" .string p.caCert ++ entry "insecure" .boolean p.insecure ++
    entry "timeout" .count p.timeout

/-- The sections of the profiles; a header without keys says that there are none. -/
def profileSections : List (String × Profile) → List Section
  | [] => [⟨["profiles"], []⟩]
  | named => named.map fun (name, p) => ⟨["profiles", name], p.entries⟩

def Config.sections (c : Config) : List Section :=
  [⟨[], entry "default_profile" .string c.defaultProfile⟩, ⟨["defaults"], c.defaults.entries⟩] ++
    profileSections c.profiles

def Config.counts (c : Config) : List Nat :=
  c.defaults.timeout :: c.profiles.filterMap fun (_, p) => p.timeout

inductive SaveFault where
  /-- A file is in the place of the directory. -/
  | blocked
  | countTooLarge
deriving DecidableEq, Repr

def SaveFault.message : SaveFault → String
  | blocked => "IO error: File exists (os error 17)"
  | countTooLarge => "failed to serialize config: out-of-range value for u64 type"

def Config.toToml (c : Config) : Except SaveFault String :=
  if c.counts.all (· < tomlCountLimit) then .ok (Toml.print c.sections)
  else .error .countTooLarge

/-- What is written to the file of a configuration. Its directory is seen to first. -/
def Config.save (blocked : Bool) (c : Config) : Except SaveFault String :=
  if blocked then .error .blocked else c.toToml

end BareMetal.Settings

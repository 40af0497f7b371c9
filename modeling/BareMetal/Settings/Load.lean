import BareMetal.Settings.Environment
import BareMetal.Settings.OfLayer
import BareMetal.Toml.Reader

/-!
# Loading a configuration

What is built in lies at the bottom, the file over it, and the environment on
top.
-/

namespace BareMetal.Settings

/-- The layer of a file; one that is missing says nothing. -/
def Layer.ofFile : (text : Option String) → Except LoadFault Layer
  | none => .ok []
  | some text => match Toml.parse? text with
    | some document => .ok (.ofToml document)
    | none => .error ⟨.notToml, []⟩

def Config.load (file : Option String) (environment : List Variable) : Except LoadFault Config := do
  let layer ← Layer.ofFile file
  Config.ofLayer ((Layer.standard.overlay layer).overlay (.ofEnvironment environment))

end BareMetal.Settings

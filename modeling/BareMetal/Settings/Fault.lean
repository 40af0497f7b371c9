import BareMetal.Error
import BareMetal.Settings.LoadFault
import BareMetal.Settings.Save

/-!
# What is wrong with a configuration

All faults of loading, saving and using a configuration. The one that comes from
setting up a client has an error of the client as its cause, so it counts by the
kind of that error.
-/

namespace BareMetal.Settings

inductive Fault where
  | profile (f : ProfileFault)
  | lookup (f : LookupFault)
  | load (f : LoadFault)
  | save (f : SaveFault)
  | client (e : Error)

namespace Fault

/-- The message, except for a file that cannot be read. -/
def message? : Fault → Option String
  | profile f => some f.message
  | lookup f => some f.message
  | load f => f.cause.message?
  | save f => some f.message
  | client e => some ("client setup failed: " ++ e.message)

/-- A fault of saving has an error of the writer or of the system as its cause. -/
def chain : Fault → Chain
  | client e => .caused .foreign e.chain
  | save _ => .caused .foreign (.last .foreign)
  | _ => .last .foreign

end Fault

end BareMetal.Settings

import BareMetal.Action.Form
import BareMetal.Inventory.Reading
import BareMetal.Json.Reader
import BareMetal.Status

/-!
# Actions on machines

An action sends one request to the resource of a machine, and the response, a
description of the same machine, replaces the state of that machine. A failure
of any kind leaves the machine as it was.
-/

namespace BareMetal

inductive Action where
  | start (args : Action.StartArgs)
  /-- Another name for starting. -/
  | deploy (args : Action.StartArgs)
  | powerOn (args : Action.PowerOnArgs)
  | powerOff (args : Action.PowerOffArgs)
  | release (args : Action.ReleaseArgs)
  | refresh
deriving DecidableEq

namespace Action

open Inventory

/-- A request as the transport gets it: the path is as the server gave it. -/
inductive Call where
  | get (path : String)
  | post (path op : String) (form : Form)
deriving DecidableEq

/-- The request an action makes for the resource at `path`. -/
def call (path : String) : Action → Call
  | start args => .post path "deploy" args.form
  | deploy args => .post path "deploy" args.form
  | powerOn args => .post path "power_on" args.form
  | powerOff args => .post path "power_off" args.form
  | release args => .post path "release" args.form
  | refresh => .get path

abbrev Outcome := Except Error Response

/-- Takes over the state of `update`, if it describes the same machine. -/
def mergeFrom (m update : Machine) : Except Error Machine :=
  if update.systemId = m.systemId then .ok (m.withState update.state)
  else .error (.deserialization
    ("machine update for " ++ m.systemId ++ " returned system_id " ++ update.systemId))

def readBody (version : Version) (body : String) : Except Error Machine := do
  let payload ← (Json.parse body).mapError fun e =>
    .deserialization ("machine response is not JSON: " ++ e.message)
  (readMachine version payload).mapError (·.toError)

/-- The machine after the outcome of an action on it. -/
def settle (version : Version) (m : Machine) (outcome : Outcome) : Except Error Machine := do
  let response ← outcome
  let body ← response.successBody
  let update ← readBody version body
  mergeFrom m update

/-! ## Runs -/

structure Step (n : Nat) where
  action : Action
  target : Fin n

/-- One step of a run: its request, how it ended, and the machines after it. -/
structure Record (n : Nat) where
  call : Call
  result : Except Error Unit
  machines : Vector Machine n

/-- Carries out a step, where `answer` is what the transport does with a request. -/
def perform {n : Nat} (version : Version) (machines : Vector Machine n) (s : Step n)
    (answer : Call → Outcome) : Record n :=
  let m := machines[s.target]
  let call := s.action.call m.resourceUri
  match settle version m (answer call) with
  | .ok m' => ⟨call, .ok (), machines.set s.target m'⟩
  | .error e => ⟨call, .error e, machines⟩

def run {n : Nat} (version : Version) : Vector Machine n → List (Step n × (Call → Outcome)) →
    List (Record n)
  | _, [] => []
  | machines, (s, answer) :: rest =>
    let r := perform version machines s answer
    r :: run version r.machines rest

end Action

end BareMetal

import BareMetal.Inventory.Interface
import BareMetal.Inventory.Storage
import BareMetal.Inventory.Zone
import BareMetal.Number.Binary64

/-!
# Machines

The identity of a machine and what it is built of are fixed when it is read.
What a server may change later is its `MachineState`, which is replaced as a
whole.
-/

namespace BareMetal

inductive PowerState where
  | on
  | off
  | unknown
  | error
  /-- A state this library has no name for. -/
  | other (name : String)
deriving DecidableEq

namespace PowerState

def ofString (s : String) : PowerState :=
  if s = "on" then .on
  else if s = "off" then .off
  else if s = "unknown" then .unknown
  else if s = "error" then .error
  else .other s

def toString : PowerState → String
  | on => "on"
  | off => "off"
  | unknown => "unknown"
  | error => "error"
  | other s => s

theorem toString_ofString (s : String) : (ofString s).toString = s := by
  unfold ofString
  (repeat' split) <;> simp_all [toString]

end PowerState

structure MachineState where
  hostname : String
  fqdn : String
  /-- Each tag once. -/
  tags : List String
  ipAddresses : List String
  /-- In MiB. -/
  memory : Nat
  cpuCount : Nat
  powerState : PowerState
  operatingSystem : String
  distroSeries : String
  /-- Architecture and subarchitecture, with a slash between them. -/
  architecture : String
  status : Int
  statusName : String
  statusMessage : Option String
  owner : Option String
  zone : Zone
  domain : Domain
  /-- In MB. -/
  storage : Option Binary64
deriving DecidableEq

namespace MachineState

/-- Equal as sets, for lists without repetition. -/
def sameTags (a b : List String) : Bool := a.length == b.length && a.all (b.contains ·)

def sameStorage : Option Binary64 → Option Binary64 → Bool
  | none, none => true
  | some x, some y => x.numEq y
  | _, _ => false

/-- Equality of states: tags as a set, zone and domain by their keys, storage as a number. -/
def same (a b : MachineState) : Bool :=
  a.hostname == b.hostname && a.fqdn == b.fqdn && sameTags a.tags b.tags &&
  a.ipAddresses == b.ipAddresses && a.memory == b.memory && a.cpuCount == b.cpuCount &&
  a.powerState == b.powerState && a.operatingSystem == b.operatingSystem &&
  a.distroSeries == b.distroSeries && a.architecture == b.architecture &&
  a.status == b.status && a.statusName == b.statusName &&
  a.statusMessage == b.statusMessage && a.owner == b.owner &&
  a.zone.same b.zone && a.domain.same b.domain && sameStorage a.storage b.storage

end MachineState

structure Machine where
  systemId : String
  /-- The path under which later requests address the machine. -/
  resourceUri : String
  interfaces : InterfaceSet
  /-- The interface the machine boots from, one of its set. -/
  boot : Option interfaces.Ref
  blockDevices : List BlockDevice
  physicalBlockDevices : List BlockDevice
  state : MachineState

namespace Machine

def bootInterface? (m : Machine) : Option Interface := m.boot.map m.interfaces.get

def interface? (m : Machine) (id : Int) : Option Interface :=
  (m.interfaces.ref? id).map m.interfaces.get

/-- Whether the boot interface and the interface with this id are one object; nothing where one
of them is missing. -/
def bootIs? (m : Machine) (id : Int) : Option Bool := do
  let boot ← m.boot
  let r ← m.interfaces.ref? id
  return boot = r

def blockDevice? (m : Machine) (id : Int) : Option BlockDevice :=
  m.blockDevices.find? (·.id == id)

def withState (m : Machine) (state : MachineState) : Machine := { m with state := state }

end Machine

/-- For each element the place of the first element that is the same. -/
def firstSame {α : Type} (same : α → α → Bool) (xs : List α) : List Nat :=
  xs.map fun x => xs.findIdx (same x)

def distinctKeys {α κ : Type} [BEq κ] (key : α → κ) (xs : List α) : Nat :=
  (xs.map key).eraseDups.length

end BareMetal

import BareMetal.Error
import BareMetal.Inventory.OfWire
import BareMetal.Schema.Api20
import BareMetal.Version.Table
import BareMetal.Wire.Decode
import BareMetal.Json.Whole

/-!
# Reading payloads

A payload is read for an API version: its outer form is checked, then its schema,
and only then is it decoded. A list is read as a whole or not at all, and its
elements pass each stage together: all schemas are checked before any element is
decoded.
-/

namespace BareMetal.Inventory

open Schema Wire

/-- Why a payload of the right form could not be turned into an entity. -/
inductive BuildFault where
  | decode (e : DecodeError)
  | assembly (e : AssemblyFault)

def BuildFault.message : BuildFault → String
  | decode e => "decode failed: " ++ e.message
  | assembly e => e.message

/-- Schema and decoder of one kind of entity since some version. -/
structure Reader (α : Type) where
  label : String
  schema : Checker
  build : Json → Except BuildFault α

inductive ReadFault where
  | unsupported (u : Unsupported)
  | outerForm (kind : String) (v : Violation)
  | schema (kind label : String) (v : Violation)
  | build (kind label : String) (f : BuildFault)
  /-- The fault of one element of a list. -/
  | element (kind : String) (index : Nat) (fault : ReadFault)

namespace ReadFault

def message : ReadFault → String
  | unsupported u => u.message
  | outerForm kind v => kind ++ " base schema check failed: " ++ v.message
  | schema kind label v => kind ++ " " ++ label ++ " schema check failed: " ++ v.message
  | build kind label f => kind ++ " " ++ label ++ ": " ++ f.message
  | element kind index fault => kind ++ " " ++ toString index ++ ": " ++ fault.message

/-- Only the version makes a payload unsupported; all else is about its data. -/
def toError : ReadFault → Error
  | unsupported u => .unsupportedVersion u.message
  | fault => .deserialization fault.message

end ReadFault

namespace Reader

variable {α : Type}

def checkSchema (r : Reader α) (kind : String) (payload : Json) : Except ReadFault Unit :=
  (check r.schema payload).mapError (.schema kind r.label)

def materialize (r : Reader α) (kind : String) (payload : Json) : Except ReadFault α :=
  (r.build payload).mapError (.build kind r.label)

end Reader

/-- Applies `f` to each element and its place, up to the first fault. -/
def eachElement {α β : Type} (kind : String) (f : α → Except ReadFault β) :
    Nat → List α → Except ReadFault (List β)
  | _, [] => .ok []
  | i, x :: rest =>
    match f x with
    | .error fault => .error (.element kind i fault)
    | .ok y => (eachElement kind f (i + 1) rest).map (y :: ·)

section

variable {α : Type} (table : VersionTable (Reader α)) (version : Version) (payload : Json)

def resolveReader : Except ReadFault (Reader α) :=
  (table.resolve version).mapError .unsupported

def readOne : Except ReadFault α := do
  let reader ← resolveReader table version
  (check (.map .any) payload).mapError (.outerForm table.kind)
  reader.checkSchema table.kind payload
  reader.materialize table.kind payload

def readList : Except ReadFault (List α) := do
  let reader ← resolveReader table version
  (check (.list (.map .any)) payload).mapError (.outerForm table.kind)
  let items := match payload with
    | .list items => items
    | _ => []
  let _ ← eachElement table.kind (reader.checkSchema table.kind) 0 items
  eachElement table.kind (reader.materialize table.kind) 0 items

end

/-! ## The tables -/

def decodePayload (s : Shape) (payload : Json) : Except BuildFault s.Value :=
  (decode s payload.wholeFloatsAsInts).mapError .decode

def version20 : Version := ⟨2, 0, 0⟩

/-- The table of a kind whose records are entities as soon as they are decoded. -/
def tableOf {α : Type} (kind : String) (schema : Checker) (s : Shape) (ofWire : s.Value → α) :
    VersionTable (Reader α) :=
  (VersionTable.empty kind).add version20
    ⟨Api20.label, schema, fun payload => (decodePayload s payload).map ofWire⟩

def zoneTable : VersionTable (Reader Zone) := tableOf "zone" Api20.zone Wire.zone zoneOf

def domainTable : VersionTable (Reader Domain) :=
  tableOf "domain" Api20.domain Wire.domain domainOf

def vlanTable : VersionTable (Reader Vlan) := tableOf "vlan" Api20.vlan Wire.vlan vlanOf

def subnetTable : VersionTable (Reader Subnet) :=
  tableOf "subnet" Api20.subnet Wire.subnet subnetOf

def interfaceTable : VersionTable (Reader Interface) :=
  tableOf "interface" Api20.interface Wire.interface interfaceOf

def blockDeviceTable : VersionTable (Reader BlockDevice) :=
  tableOf "blockdevice" Api20.blockDevice Wire.blockDevice blockDeviceOf

def machineTable : VersionTable (Reader Machine) :=
  (VersionTable.empty "machine").add version20
    ⟨Api20.label, Api20.machine, fun payload => do
      (machineOf (← decodePayload Wire.machine payload)).mapError .assembly⟩

def readMachine (version : Version) (payload : Json) : Except ReadFault Machine :=
  readOne machineTable version payload

end BareMetal.Inventory

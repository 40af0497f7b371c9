import BareMetal.Inventory.Reading
import BareMetal.Proofs.Except

/-!
# The kinds of entities

The seven readers differ in the schema they check, the wire record they decode
and what is made of that. `Kind.table_eq` says that they differ in nothing else.
-/

namespace BareMetal.Inventory

open Schema Wire

inductive Kind where
  | machine | interface | zone | domain | vlan | subnet | blockDevice
deriving DecidableEq

namespace Kind

def name : Kind → String
  | machine => "machine"
  | interface => "interface"
  | zone => "zone"
  | domain => "domain"
  | vlan => "vlan"
  | subnet => "subnet"
  | blockDevice => "blockdevice"

/-- The schema of the kind in API version 2.0. -/
def schema : Kind → Checker
  | machine => Api20.machine
  | interface => Api20.interface
  | zone => Api20.zone
  | domain => Api20.domain
  | vlan => Api20.vlan
  | subnet => Api20.subnet
  | blockDevice => Api20.blockDevice

def shape : Kind → Shape
  | machine => Wire.machine
  | interface => Wire.interface
  | zone => Wire.zone
  | domain => Wire.domain
  | vlan => Wire.vlan
  | subnet => Wire.subnet
  | blockDevice => Wire.blockDevice

theorem schema_eq_fields (k : Kind) : ∃ fs, k.schema = .fields fs := by
  cases k <;> exact ⟨_, rfl⟩

theorem shape_eq_record (k : Kind) : ∃ title fields, k.shape = .record title fields := by
  cases k <;> exact ⟨_, _, rfl⟩

def Entity : Kind → Type
  | machine => Machine
  | interface => Interface
  | zone => Zone
  | domain => Domain
  | vlan => Vlan
  | subnet => Subnet
  | blockDevice => BlockDevice

/-- What a decoded record becomes. -/
def assemble : (k : Kind) → k.shape.Value → Except AssemblyFault k.Entity
  | machine => machineOf
  | interface => fun w => .ok (interfaceOf w)
  | zone => fun w => .ok (zoneOf w)
  | domain => fun w => .ok (domainOf w)
  | vlan => fun w => .ok (vlanOf w)
  | subnet => fun w => .ok (subnetOf w)
  | blockDevice => fun w => .ok (blockDeviceOf w)

def table : (k : Kind) → VersionTable (Reader k.Entity)
  | machine => machineTable
  | interface => interfaceTable
  | zone => zoneTable
  | domain => domainTable
  | vlan => vlanTable
  | subnet => subnetTable
  | blockDevice => blockDeviceTable

def build (k : Kind) (payload : Json) : Except BuildFault k.Entity :=
  decodePayload k.shape payload >>= fun w => (k.assemble w).mapError .assembly

def reader (k : Kind) : Reader k.Entity := ⟨Api20.label, k.schema, k.build⟩

theorem build_eq_map {k : Kind} {ofWire : k.shape.Value → k.Entity}
    (h : ∀ w, k.assemble w = .ok (ofWire w)) :
    (fun payload => (decodePayload k.shape payload).map ofWire) = k.build := by
  funext payload
  unfold build
  cases decodePayload k.shape payload with
  | error e => rfl
  | ok w => rw [Except.ok_bind, h]; rfl

/-- Each table has one entry, the reader of its kind since version 2.0. -/
theorem table_eq (k : Kind) : k.table = (VersionTable.empty k.name).add version20 k.reader := by
  have flat {ofWire : k.shape.Value → k.Entity} (h : ∀ w, k.assemble w = .ok (ofWire w)) :
      tableOf k.name k.schema k.shape ofWire =
        (VersionTable.empty k.name).add version20 k.reader := by
    rw [tableOf, build_eq_map h, reader]
  cases k with
  | machine => rfl
  | interface => exact flat fun _ => rfl
  | zone => exact flat fun _ => rfl
  | domain => exact flat fun _ => rfl
  | vlan => exact flat fun _ => rfl
  | subnet => exact flat fun _ => rfl
  | blockDevice => exact flat fun _ => rfl

@[simp]
theorem table_kind (k : Kind) : k.table.kind = k.name := by
  rw [table_eq]
  rfl

theorem resolve_table (k : Kind) (version : Version) :
    k.table.resolve version =
      if version20.covers version then .ok k.reader else .error ⟨k.name, version⟩ := by
  rw [table_eq]
  by_cases h : version20.covers version
  · simp [VersionTable.resolve, VersionTable.add, VersionTable.empty, h]
  · simp [VersionTable.resolve, VersionTable.add, VersionTable.empty, h]

end Kind

end BareMetal.Inventory

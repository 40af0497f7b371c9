import BareMetal.Inventory.Machine
import BareMetal.Wire.Records

/-!
# From wire records to the inventory

Every decoded record becomes an entity. Only putting a machine together can
fail: its interfaces must have distinct ids, and the boot interface must be one
of them.
-/

namespace BareMetal.Inventory

open Wire

/-- An integer of the wire that is never negative. -/
def count {w : Word} (n : {n : Int // w.Holds n}) : Nat := n.val.toNat

def zoneOf : Wire.zone.Value → Zone
  | (name, description, resourceUri, _) => { name, description, resourceUri }

def domainOf : Wire.domain.Value → Domain
  | (id, name, resourceUri, authoritative, records, ttl, _) =>
    { id := id.val, name, resourceUri, authoritative
      resourceRecordCount := count records
      ttl := ttl.map count }

def vlanOf : Wire.vlan.Value → Vlan
  | (id, resourceUri, name, fabric, vid, mtu, dhcpOn, primaryRack, secondaryRack, _) =>
    { id := id.val, resourceUri, name, fabric, vid := count vid, mtu := count mtu, dhcpOn
      primaryRack, secondaryRack }

def subnetOf : Wire.subnet.Value → Subnet
  | (id, resourceUri, name, space, vlan, gateway, cidr, dnsServers, _) =>
    { id := id.val, resourceUri, name, space, vlan := vlanOf vlan, gateway, cidr, dnsServers }

def linkOf : Wire.link.Value → Link
  | (id, mode, subnet, ipAddress, _) =>
    { id := id.val, mode := .ofString mode, subnet := subnet.map subnetOf, ipAddress }

/-- Tags keep their first occurrences. -/
def interfaceOf : Wire.interface.Value → Interface
  | (id, resourceUri, name, kind, enabled, tags, vlan, links, mac, mtu, parents, children, _) =>
    { id := id.val, resourceUri, name, kind, enabled
      tags := List.eraseDups (α := String) tags
      vlan := vlan.map vlanOf
      links := List.map linkOf links
      mac := ⟨mac⟩
      effectiveMtu := count mtu
      parents, children }

def filesystemOf : Wire.filesystem.Value → Filesystem
  | (fstype, mountPoint, label, uuid, mountOptions, _) =>
    { fstype, mountPoint, label, uuid, mountOptions }

def partitionOf : Wire.partition.Value → Partition
  | (id, resourceUri, path, uuid, usedFor, size, bootable, filesystem, _) =>
    { id := id.val, resourceUri, path, uuid, usedFor, size := count size, bootable
      filesystem := filesystem.map filesystemOf }

def blockDeviceOf : Wire.blockDevice.Value → BlockDevice
  | (id, resourceUri, name, model, idPath, path, usedFor, tags, blockSize, usedSize, size, uuid,
      partitions, filesystem, _) =>
    { id := id.val, resourceUri, name, model, idPath, path, usedFor
      tags := List.eraseDups (α := String) tags
      blockSize := count blockSize
      usedSize := count usedSize
      size := count size
      uuid
      partitions := List.map partitionOf partitions
      filesystem := filesystem.map filesystemOf }

inductive AssemblyFault where
  | duplicateInterface (id : Int)
  | bootInterfaceMissing (id : Int)
deriving DecidableEq, Repr

def AssemblyFault.message : AssemblyFault → String
  | duplicateInterface id => "duplicate interface id " ++ toString id ++ " in interface_set"
  | bootInterfaceMissing id =>
    "boot_interface " ++ toString id ++ " not found in interface_set"

/-- The boot interface is looked up by its id; whatever else the payload says about it there is
not used. -/
def machineOf : Wire.machine.Value → Except AssemblyFault Machine
  | (systemId, resourceUri, hostname, fqdn, tags, ipAddresses, memory, cpuCount, powerState,
      operatingSystem, distroSeries, architecture, status, statusName, statusMessage, owner, zone,
      domain, boot, interfaces, blockDevices, physicalBlockDevices, storage, _) =>
    let state : MachineState :=
      { hostname, fqdn
        tags := List.eraseDups (α := String) tags
        ipAddresses
        memory := count memory
        cpuCount := count cpuCount
        powerState := .ofString powerState
        operatingSystem, distroSeries, architecture
        status := status.val
        statusName, statusMessage, owner
        zone := zoneOf zone
        domain := domainOf domain
        storage }
    match InterfaceSet.ofList (List.map interfaceOf interfaces) with
    | .error id => .error (.duplicateInterface id)
    | .ok set =>
      let machine (boot : Option set.Ref) : Machine :=
        { systemId, resourceUri
          interfaces := set
          boot
          blockDevices := List.map blockDeviceOf blockDevices
          physicalBlockDevices := List.map blockDeviceOf physicalBlockDevices
          state }
      match (boot : Option Wire.interface.Value) with
      | none => .ok (machine none)
      | some b =>
        match set.ref? (interfaceOf b).id with
        | some r => .ok (machine (some r))
        | none => .error (.bootInterfaceMissing (interfaceOf b).id)

end BareMetal.Inventory

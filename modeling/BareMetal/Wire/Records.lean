import BareMetal.Wire.Shape

/-!
# The records of the machine API

Entries under their wire names and in their wire order. Optional entries are
those an older or terser server may leave out.
-/

namespace BareMetal.Wire

def optionalText (name : String) : String × Bool × Shape := defaulted name (.nullable .text)

def zone : Shape := .record "ZoneResponse" [
  needed "name" .text,
  needed "description" .text,
  needed "resource_uri" .text]

def domain : Shape := .record "DomainResponse" [
  needed "id" (.integer .i64),
  needed "name" .text,
  needed "resource_uri" .text,
  defaulted "authoritative" .flag,
  defaulted "resource_record_count" (.integer .u64),
  defaulted "ttl" (.nullable (.integer .u64))]

def vlan : Shape := .record "VlanResponse" [
  needed "id" (.integer .i64),
  needed "resource_uri" .text,
  needed "name" .text,
  needed "fabric" .text,
  needed "vid" (.integer .u16),
  needed "mtu" (.integer .u32),
  needed "dhcp_on" .flag,
  optionalText "primary_rack",
  optionalText "secondary_rack"]

def subnet : Shape := .record "SubnetResponse" [
  needed "id" (.integer .i64),
  needed "resource_uri" .text,
  needed "name" .text,
  needed "space" .text,
  needed "vlan" vlan,
  optionalText "gateway_ip",
  needed "cidr" .text,
  needed "dns_servers" (.sequence .text)]

def link : Shape := .record "LinkResponse" [
  needed "id" (.integer .i64),
  needed "mode" .text,
  defaulted "subnet" (.nullable subnet),
  optionalText "ip_address"]

def interface : Shape := .record "InterfaceResponse" [
  needed "id" (.integer .i64),
  needed "resource_uri" .text,
  needed "name" .text,
  needed "type" .text,
  needed "enabled" .flag,
  needed "tags" (.sequence .text),
  defaulted "vlan" (.nullable vlan),
  needed "links" (.sequence link),
  needed "mac_address" .text,
  needed "effective_mtu" (.integer .u32),
  defaulted "parents" (.sequence .text),
  defaulted "children" (.sequence .text)]

def filesystem : Shape := .record "FilesystemResponse" [
  needed "fstype" .text,
  optionalText "mount_point",
  optionalText "label",
  needed "uuid" .text,
  optionalText "mount_options"]

def partition : Shape := .record "PartitionResponse" [
  needed "id" (.integer .i64),
  needed "resource_uri" .text,
  needed "path" .text,
  optionalText "uuid",
  needed "used_for" .text,
  needed "size" (.integer .u64),
  defaulted "bootable" .flag,
  defaulted "filesystem" (.nullable filesystem)]

def blockDevice : Shape := .record "BlockDeviceResponse" [
  needed "id" (.integer .i64),
  needed "resource_uri" .text,
  needed "name" .text,
  optionalText "model",
  optionalText "id_path",
  needed "path" .text,
  needed "used_for" .text,
  needed "tags" (.sequence .text),
  needed "block_size" (.integer .u64),
  needed "used_size" (.integer .u64),
  needed "size" (.integer .u64),
  optionalText "uuid",
  needed "partitions" (.sequence partition),
  defaulted "filesystem" (.nullable filesystem)]

def machine : Shape := .record "MachineResponse" [
  needed "system_id" .text,
  needed "resource_uri" .text,
  needed "hostname" .text,
  needed "fqdn" .text,
  needed "tag_names" (.sequence .text),
  needed "ip_addresses" (.sequence .text),
  needed "memory" (.integer .u64),
  needed "cpu_count" (.integer .u64),
  needed "power_state" .text,
  needed "osystem" .text,
  needed "distro_series" .text,
  needed "architecture" .text,
  needed "status" (.integer .i64),
  needed "status_name" .text,
  optionalText "status_message",
  optionalText "owner",
  needed "zone" zone,
  needed "domain" domain,
  defaulted "boot_interface" (.nullable interface),
  needed "interface_set" (.sequence interface),
  needed "blockdevice_set" (.sequence blockDevice),
  defaulted "physicalblockdevice_set" (.sequence blockDevice),
  defaulted "storage" (.nullable .real)]

end BareMetal.Wire

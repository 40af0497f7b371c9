import BareMetal.Schema.Checker

/-!
# Schemas of API version 2.0

What a payload of each kind has to look like. Only what is used later is
described; other entries are free.
-/

namespace BareMetal.Schema.Api20

def label : String := "2.0"

def zone : Checker := .fields [
  required "name" .string,
  required "description" .string,
  required "resource_uri" .string]

def domain : Checker := .fields [
  required "id" .int,
  required "name" .string,
  required "resource_uri" .string,
  optional "authoritative" .bool,
  optional "resource_record_count" .int,
  optional "ttl" (.nullable .int)]

def vlan : Checker := .fields [
  required "id" .int,
  required "resource_uri" .string,
  required "name" .string,
  required "fabric" .string,
  required "vid" .int,
  required "mtu" .int,
  required "dhcp_on" .bool,
  optional "primary_rack" .nullableString,
  optional "secondary_rack" .nullableString]

def subnet : Checker := .fields [
  required "id" .int,
  required "resource_uri" .string,
  required "name" .string,
  required "space" .string,
  required "vlan" vlan,
  optional "gateway_ip" .nullableString,
  required "cidr" .string,
  required "dns_servers" .stringList]

def link : Checker := .fields [
  required "id" .int,
  required "mode" .string,
  optional "subnet" (.nullable subnet),
  optional "ip_address" .nullableString]

def interface : Checker := .fields [
  required "id" .int,
  required "resource_uri" .string,
  required "name" .string,
  required "type" .string,
  required "enabled" .bool,
  required "tags" .stringList,
  required "vlan" (.nullable vlan),
  required "links" (.list link),
  required "mac_address" .string,
  required "effective_mtu" .int,
  optional "parents" .stringList,
  optional "children" .stringList]

def filesystem : Checker := .fields [
  required "fstype" .string,
  optional "mount_point" .nullableString,
  optional "label" .nullableString,
  required "uuid" .string,
  optional "mount_options" .nullableString]

def partition : Checker := .fields [
  required "id" .int,
  required "resource_uri" .string,
  required "path" .string,
  optional "uuid" .nullableString,
  required "used_for" .string,
  required "size" .int,
  optional "bootable" .bool,
  optional "filesystem" (.nullable filesystem)]

def blockDevice : Checker := .fields [
  required "id" .int,
  required "resource_uri" .string,
  required "name" .string,
  optional "model" .nullableString,
  optional "id_path" .nullableString,
  required "path" .string,
  required "used_for" .string,
  required "tags" .stringList,
  required "block_size" .int,
  required "used_size" .int,
  required "size" .int,
  optional "uuid" .nullableString,
  required "partitions" (.list partition),
  optional "filesystem" (.nullable filesystem)]

def machine : Checker := .fields [
  required "system_id" .string,
  required "resource_uri" .string,
  required "hostname" .string,
  required "fqdn" .string,
  required "tag_names" .stringList,
  required "ip_addresses" .stringList,
  required "memory" .int,
  required "cpu_count" .int,
  required "power_state" .string,
  required "osystem" .string,
  required "distro_series" .string,
  required "architecture" .string,
  required "status" .int,
  required "status_name" .string,
  required "status_message" .nullableString,
  required "owner" .nullableString,
  required "zone" zone,
  required "domain" domain,
  required "boot_interface" (.nullable interface),
  required "interface_set" (.list interface),
  required "blockdevice_set" (.list blockDevice),
  optional "physicalblockdevice_set" (.list blockDevice),
  optional "storage" (.nullable .float)]

end BareMetal.Schema.Api20

import BareMetal.Hashing

/-!
# Networks

VLANs and subnets are shared, and every interface carries copies of them; two
copies are the same when their ids are.
-/

namespace BareMetal

structure Vlan where
  id : Int
  resourceUri : String
  name : String
  fabric : String
  /-- Tag of IEEE 802.1Q, 0 for untagged. -/
  vid : Nat
  mtu : Nat
  dhcpOn : Bool
  primaryRack : Option String
  secondaryRack : Option String
deriving DecidableEq

structure Subnet where
  id : Int
  resourceUri : String
  name : String
  space : String
  vlan : Vlan
  gateway : Option String
  cidr : String
  dnsServers : List String
deriving DecidableEq

/-- How an interface obtains its address on a subnet. -/
inductive LinkMode where
  | auto
  | dhcp
  | static
  | linkUp
  /-- A mode this library has no name for. -/
  | other (name : String)
deriving DecidableEq

namespace LinkMode

def ofString (s : String) : LinkMode :=
  if s = "auto" then .auto
  else if s = "dhcp" then .dhcp
  else if s = "static" then .static
  else if s = "link_up" then .linkUp
  else .other s

def toString : LinkMode → String
  | auto => "auto"
  | dhcp => "dhcp"
  | static => "static"
  | linkUp => "link_up"
  | other s => s

theorem toString_ofString (s : String) : (ofString s).toString = s := by
  unfold ofString
  (repeat' split) <;> simp_all [toString]

end LinkMode

structure Link where
  id : Int
  mode : LinkMode
  subnet : Option Subnet
  /-- Absent until an address is allocated. -/
  ipAddress : Option String
deriving DecidableEq

namespace Vlan

def same (a b : Vlan) : Bool := a.id == b.id

instance : Hashed Vlan := ⟨same, fun H state v => H.integer state v.id⟩

end Vlan

namespace Subnet

def same (a b : Subnet) : Bool := a.id == b.id

instance : Hashed Subnet := ⟨same, fun H state s => H.integer state s.id⟩

end Subnet

end BareMetal

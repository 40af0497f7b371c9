import BareMetal.Inventory.Mac
import BareMetal.Inventory.Network

/-!
# Network interfaces

The interfaces of a machine form a set with distinct ids in the order the server
gave them; a member is referred to by its place.
-/

namespace BareMetal

structure Interface where
  id : Int
  resourceUri : String
  name : String
  /-- `physical`, `bond`, `vlan`, `bridge` and the like. -/
  kind : String
  enabled : Bool
  tags : List String
  vlan : Option Vlan
  links : List Link
  mac : MacAddress
  effectiveMtu : Nat
  parents : List String
  children : List String
deriving DecidableEq

namespace Interface

def same (a b : Interface) : Bool := a.id == b.id

/-- The subnets the interface is linked to, in link order. -/
def subnets (i : Interface) : List Subnet := i.links.filterMap (·.subnet)

def link? (i : Interface) (id : Int) : Option Link := i.links.find? (·.id == id)

end Interface

structure InterfaceSet where
  toList : List Interface
  nodup : (toList.map (·.id)).Nodup
deriving DecidableEq

namespace InterfaceSet

/-- A member of the set, by its place. -/
abbrev Ref (s : InterfaceSet) : Type := Fin s.toList.length

def get (s : InterfaceSet) (r : s.Ref) : Interface := s.toList.get r

def ref? (s : InterfaceSet) (id : Int) : Option s.Ref :=
  s.toList.findFinIdx? (·.id == id)

/-- The first id that occurred before in the list, `seen` holding those before the list. -/
def firstRepeated (seen : List Int) : List Interface → Option Int
  | [] => none
  | i :: rest => if i.id ∈ seen then some i.id else firstRepeated (i.id :: seen) rest

theorem nodup_of_firstRepeated {seen : List Int} {is : List Interface}
    (h : firstRepeated seen is = none) :
    (is.map (·.id)).Nodup ∧ ∀ i ∈ is, i.id ∉ seen := by
  induction is generalizing seen with
  | nil => simp
  | cons i rest ih =>
    unfold firstRepeated at h
    split at h
    · cases h
    · rename_i hi
      obtain ⟨hn, hs⟩ := ih h
      refine ⟨?_, ?_⟩
      · simp only [List.map_cons, List.nodup_cons, List.mem_map, not_exists, not_and]
        exact ⟨fun j hj he => hs j hj (by simp [he]), hn⟩
      · intro j hj
        rcases List.mem_cons.1 hj with rfl | hj
        · exact hi
        · exact fun hm => hs j hj (List.mem_cons_of_mem _ hm)

/-- The set of these interfaces, or the first id that is there twice. -/
def ofList (is : List Interface) : Except Int InterfaceSet :=
  match h : firstRepeated [] is with
  | some id => .error id
  | none => .ok ⟨is, (nodup_of_firstRepeated h).1⟩

end InterfaceSet

end BareMetal

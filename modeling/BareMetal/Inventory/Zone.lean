import BareMetal.Hashing

/-!
# Zones and domains

Every machine carries copies of its zone and its domain. Two copies of a zone
are the same when their names are, two copies of a domain when their ids are.
-/

namespace BareMetal

structure Zone where
  name : String
  description : String
  resourceUri : String
deriving DecidableEq

def Zone.same (a b : Zone) : Bool := a.name == b.name

instance : Hashed Zone := ⟨Zone.same, fun H state z => H.text state z.name⟩

structure Domain where
  id : Int
  name : String
  resourceUri : String
  authoritative : Bool
  resourceRecordCount : Nat
  /-- Absent where the default of the server applies. -/
  ttl : Option Nat
deriving DecidableEq

def Domain.same (a b : Domain) : Bool := a.id == b.id

instance : Hashed Domain := ⟨Domain.same, fun H state d => H.integer state d.id⟩

end BareMetal

/-!
# Storage

Block devices own their partitions, and a partition its filesystem.
-/

namespace BareMetal

structure Filesystem where
  fstype : String
  mountPoint : Option String
  label : Option String
  uuid : String
  mountOptions : Option String
deriving DecidableEq

structure Partition where
  id : Int
  resourceUri : String
  path : String
  uuid : Option String
  usedFor : String
  /-- In bytes. -/
  size : Nat
  bootable : Bool
  filesystem : Option Filesystem
deriving DecidableEq

/-- Where the filesystem of the partition is mounted, if there is one and it is. -/
def Partition.mountPoint (p : Partition) : Option String := p.filesystem.bind (·.mountPoint)

structure BlockDevice where
  id : Int
  resourceUri : String
  name : String
  model : Option String
  idPath : Option String
  path : String
  usedFor : String
  tags : List String
  blockSize : Nat
  usedSize : Nat
  size : Nat
  uuid : Option String
  partitions : List Partition
  /-- Present when the whole device is formatted without a partition table. -/
  filesystem : Option Filesystem
deriving DecidableEq

def BlockDevice.partition? (d : BlockDevice) (id : Int) : Option Partition :=
  d.partitions.find? (·.id == id)

end BareMetal

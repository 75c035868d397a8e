import ThumbDrive.Partition.BootSector

/-! The partition table in the first block of a device: four entries, read all or nothing. -/
namespace ThumbDrive

/-- An entry of a partition table. -/
structure PartitionTable.Entry where
  /-- What the partition holds; zero marks an unused entry. -/
  type : Nat
  firstLba : Nat
  sectorCount : Nat
  deriving DecidableEq, Repr

namespace PartitionTable

/-- The type bytes a table may hold. -/
def knownTypes : List Nat :=
  [0x00, 0x01, 0x04, 0x06, 0x0E, 0x0B, 0x0C, 0x1B, 0x1C, 0x83, 0x07, 0xAF]

/-- Entry `i` as it stands in the block. -/
def entryAt (b : Bytes) (i : Nat) : Entry where
  type := Bytes.byteAt b (446 + 16 * i + 4)
  firstLba := Bytes.word32 b (446 + 16 * i + 8)
  sectorCount := Bytes.word32 b (446 + 16 * i + 12)

/-- The four entries of a signed block, unless one of them is of an unknown type. -/
def parse? (b : Bytes) : Option (List Entry) :=
  let entries := (List.range 4).map (entryAt b)
  if BootSector.isSigned b && entries.all (fun e => knownTypes.contains e.type) then some entries
  else none

namespace Entry

/-- Whether the entry describes a partition. -/
def isUsed (e : Entry) : Bool := e.type != 0 && 0 < e.sectorCount

end Entry
end PartitionTable
end ThumbDrive

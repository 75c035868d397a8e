import ThumbDrive.Block.Device
import ThumbDrive.Log
import ThumbDrive.Partition.Table
import ThumbDrive.Text.Decimal

/-! Choosing the partition to mount.

A device carries a filesystem in its first block, or a partition table there. The boot sector is
looked for first, because it bears the signature of a partition table too. A `Finding` says what
was seen; the partition and the log line are read off it. -/
namespace ThumbDrive

/-- A range of blocks, and the table entry it came from if there is a table. -/
structure Partition where
  firstLba : Nat
  blockCount : Nat
  tableIndex : Option Nat
  deriving DecidableEq, Repr

namespace Partition

/-- What the first block of a device shows. -/
inductive Finding where
  /-- No blocks, or blocks too small for a boot sector: nothing is read. -/
  | tooSmall (blockCount blockSize : Nat)
  /-- A filesystem over all blocks. -/
  | wholeDevice (blockCount : Nat)
  | neither
  | noUsedEntry
  /-- The first used entry starts behind the last block. -/
  | beyondEnd (index firstLba : Nat)
  /-- The first used entry, cut off at the end of the device. -/
  | entry (index firstLba blockCount : Nat)
  deriving DecidableEq, Repr

namespace Finding

/-- The partition found. -/
def partition? : Finding → Option Partition
  | .wholeDevice count => some ⟨0, count, none⟩
  | .entry index first count => some ⟨first, count, some index⟩
  | _ => none

/-- What is logged about the finding. -/
def log : Finding → Log.Line
  | .tooSmall count size =>
      ⟨.debug, "Device reports " ++ Decimal.write count ++ " blocks of " ++ Decimal.write size
        ++ " bytes, nothing to select"⟩
  | .wholeDevice _ => ⟨.info, "No partition table, filesystem spans the whole device"⟩
  | .neither => ⟨.debug, "LBA 0 holds neither a FAT boot sector nor an MBR"⟩
  | .noUsedEntry => ⟨.debug, "MBR has no used entries"⟩
  | .beyondEnd index first =>
      ⟨.debug, "MBR entry " ++ Decimal.write index ++ " starts at LBA " ++ Decimal.write first
        ++ " beyond the device end"⟩
  | .entry index first count =>
      ⟨.info, "Selected MBR partition " ++ Decimal.write index ++ ": first_lba="
        ++ Decimal.write first ++ ", blocks=" ++ Decimal.write count⟩

/-- The finding in a readable first block of a device with `count` blocks. -/
def ofBlock (b : Bytes) (count : Nat) : Finding :=
  if BootSector.looksLikeFat b then .wholeDevice count
  else
    match PartitionTable.parse? b with
    | none => .neither
    | some entries =>
        match entries.zipIdx.find? fun (e, _) => e.isUsed with
        | none => .noUsedEntry
        | some (e, index) =>
            if count ≤ e.firstLba then .beyondEnd index e.firstLba
            else .entry index e.firstLba (min e.sectorCount (count - e.firstLba))

end Finding

/-- Looks for the partition to mount on a device with `count` blocks of `size` bytes. At most the
first block is read. -/
def look {δ : Type} [BlockDevice δ] (size count : Nat) : IoOn δ Finding := do
  if count = 0 ∨ size < BootSector.size then return .tooSmall count size
  return .ofBlock (← BlockDevice.readBlocks 0 size) count

/-- Looks for the partition to mount on a device. -/
def find {δ : Type} [BlockDevice δ] : IoOn δ Finding := do
  let d ← get
  look (BlockDevice.blockSize d) (BlockDevice.blockCount d)

end Partition
end ThumbDrive

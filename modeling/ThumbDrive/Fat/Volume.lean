import ThumbDrive.Fat.BootRecord

/-! Mounted volumes, and the chains of clusters their allocation table records.

Mounting reads the boot sector field by field, and on a 32-bit volume the information sector.
After that a volume is only its boot record: every later read says where it reads. -/
namespace ThumbDrive

/-- A volume that can be mounted. -/
structure Volume where
  record : BootRecord
  sound : record.flaw? = none

/-- A range of bytes of a stream. -/
structure Region where
  start : Nat
  size : Nat

namespace Region
variable {δ : Type} [BlockDevice δ]

/-- An offset outside of a region. -/
def seekError : IoError := ⟨.invalidInput, "Seek to a negative offset"⟩

/-- A single read of at most `n` bytes at an offset into the region, which moves past them. -/
def read (r : Region) (n : Nat) : IoOn (Nat × BlockStream δ) Bytes := do
  let (offset, _) ← get
  let got ← IoOn.zoom Prod.snd (fun s t => (t.1, s))
    (BlockStream.readAt (r.start + offset) (min (r.size - offset) n))
  modify fun (offset, s) => (offset + got.length, s)
  return got

/-- Exactly `n` bytes at an offset into the region. -/
def readExactAt (r : Region) (offset n : Nat) : IoOn (BlockStream δ) Bytes := fun s =>
  if r.size < offset then .error seekError s
  else
    match readExact r.read n (offset, s) with
    | .ok got (_, s) => .ok got s
    | .error e (_, s) => .error e s

end Region

namespace Volume
variable {δ : Type} [BlockDevice δ]

/-- Lengths of the fields of a boot sector up to byte 36. -/
def commonFields : List Nat := [3, 8, 2, 1, 2, 1, 2, 2, 1, 2, 2, 2, 4, 4]

/-- Lengths of the fields from byte 36 on. -/
def furtherFields (isWide : Bool) : List Nat :=
  if isWide then [4, 2, 2, 4, 2, 2, 12, 1, 1, 1, 4, 11, 8, 420, 2] else [1, 1, 1, 4, 11, 8, 448, 2]

/-- The boot record at the position of the stream. -/
def readBootRecord : IoOn (BlockStream δ) BootRecord := do
  let head ← readPieces BlockStream.read commonFields
  let tail ← readPieces BlockStream.read (furtherFields (Bytes.word16 head 22 == 0))
  return .ofBytes (head ++ tail)

/-- A number of four bytes that must have a given value. -/
def expectMark (mark : Nat) (error : IoError) : IoOn (BlockStream δ) Unit := do
  if Bytes.ofLittle (← readExact BlockStream.read 4) ≠ mark then throw error

/-- Checks the three marks of the information sector. -/
def checkInfoSector (r : BootRecord) : IoOn (BlockStream δ) Unit := do
  modify fun s => { s with position := r.infoSector * r.bytesPerSector }
  expectMark 0x41615252 (.other "invalid lead_sig in FsInfo sector")
  let _ ← readExact BlockStream.read 480
  expectMark 0x61417272 (.other "invalid struc_sig in FsInfo sector")
  let _ ← readPieces BlockStream.read [4, 4, 12]
  expectMark 0xAA550000 (.other "invalid trail_sig in FsInfo sector")

/-- Mounts the volume at the start of the stream. -/
def mount : IoOn (BlockStream δ) Volume := do
  let record ← readBootRecord
  match h : record.flaw? with
  | some flaw => throw (.other flaw.message)
  | none =>
      if record.fatType = .fat32 then checkInfoSector record
      return ⟨record, h⟩

variable (v : Volume)

/-- Width of the table entries. -/
def fatType : FatType := v.record.fatType

/-- Bytes in a cluster. -/
def clusterSize : Nat := v.record.clusterSize

/-- The allocation table in use. -/
def fat : Region where
  start := v.record.firstFatSector * v.record.bytesPerSector
  size := v.record.sectorsPerFat * v.record.bytesPerSector

/-- The fixed root directory of a volume whose entries are not wide. -/
def rootRegion : Region where
  start := v.record.firstRootSector * v.record.bytesPerSector
  size := v.record.rootSectors * v.record.bytesPerSector

end Volume

namespace FatType

/-- Offset and length of the table entry of a cluster. -/
def entrySpan (t : FatType) (cluster : Nat) : Nat × Nat :=
  match t with
  | .fat12 => (cluster + cluster / 2, 2)
  | .fat16 => (2 * cluster, 2)
  | .fat32 => (4 * cluster, 4)

/-- The value in the bytes of the table entry of a cluster. Entries of twelve bits share a byte
with their neighbour. -/
def entryValue (t : FatType) (cluster raw : Nat) : Nat :=
  match t with
  | .fat12 => if cluster % 2 = 0 then raw % 4096 else raw / 16
  | .fat16 => raw
  | .fat32 => raw % 268435456

/-- The smallest value that names no cluster, the mark of a bad one. The marks of an end of chain
lie above it. -/
def firstMark : FatType → Nat
  | .fat12 => 0xFF7
  | .fat16 => 0xFFF7
  | .fat32 => 0xFFFFFF7

/-- The cluster a table entry leads to. A free cluster leads nowhere. -/
def next? (t : FatType) (cluster raw : Nat) : Option Nat :=
  let n := t.entryValue cluster raw
  if n = 0 ∨ t.firstMark ≤ n then none else some n

end FatType

namespace Volume
variable {δ : Type} [BlockDevice δ] (v : Volume)

/-- The cluster after `cluster` in its chain, by the allocation table. -/
def nextCluster? (cluster : Nat) : IoOn (BlockStream δ) (Option Nat) := do
  let (offset, length) := v.fatType.entrySpan cluster
  let entry ← v.fat.readExactAt offset length
  return v.fatType.next? cluster (Bytes.ofLittle entry)

end Volume
end ThumbDrive

import ThumbDrive.Block.Stream
import ThumbDrive.Partition.BootSector

/-! The parameter block of a FAT volume: its numbers, what makes it unusable, and the geometry it
implies. -/
namespace ThumbDrive

/-- Width of the entries of the allocation table. -/
inductive FatType where
  | fat12
  | fat16
  | fat32
  deriving DecidableEq, Repr

/-- The type is told by the number of clusters alone. -/
def FatType.ofClusterCount (n : Nat) : FatType :=
  if n < 4085 then .fat12 else if n < 65525 then .fat16 else .fat32

/-- The numbers in a parameter block. -/
structure BootRecord where
  isSigned : Bool
  bytesPerSector : Nat
  sectorsPerCluster : Nat
  reservedSectors : Nat
  fatCount : Nat
  rootEntries : Nat
  totalSectors16 : Nat
  sectorsPerFat16 : Nat
  totalSectors32 : Nat
  sectorsPerFat32 : Nat
  extendedFlags : Nat
  version : Nat
  rootCluster : Nat
  infoSector : Nat
  backupSector : Nat
  deriving DecidableEq, Repr

namespace BootRecord

/-- The record in a boot sector. The numbers from byte 36 on belong to 32-bit volumes only. -/
def ofBytes (b : Bytes) : BootRecord :=
  let wide := Bytes.word16 b 22 == 0
  { isSigned := BootSector.isSigned b
    bytesPerSector := Bytes.word16 b 11
    sectorsPerCluster := Bytes.byteAt b 13
    reservedSectors := Bytes.word16 b 14
    fatCount := Bytes.byteAt b 16
    rootEntries := Bytes.word16 b 17
    totalSectors16 := Bytes.word16 b 19
    sectorsPerFat16 := Bytes.word16 b 22
    totalSectors32 := Bytes.word32 b 32
    sectorsPerFat32 := if wide then Bytes.word32 b 36 else 0
    extendedFlags := if wide then Bytes.word16 b 40 else 0
    version := if wide then Bytes.word16 b 42 else 0
    rootCluster := if wide then Bytes.word32 b 44 else 0
    infoSector := if wide then Bytes.word16 b 48 else 0
    backupSector := if wide then Bytes.word16 b 50 else 0 }

@[simp] theorem bytesPerSector_ofBytes (b : Bytes) :
    (ofBytes b).bytesPerSector = Bytes.word16 b 11 := rfl

@[simp] theorem sectorsPerCluster_ofBytes (b : Bytes) :
    (ofBytes b).sectorsPerCluster = Bytes.byteAt b 13 := rfl

variable (r : BootRecord)

/-- Whether the record describes a volume with 32-bit table entries. -/
def isWide : Bool := r.sectorsPerFat16 == 0

/-- Sectors of one copy of the allocation table. -/
def sectorsPerFat : Nat := if r.isWide then r.sectorsPerFat32 else r.sectorsPerFat16

/-- Sectors of the volume. -/
def totalSectors : Nat := if r.totalSectors16 = 0 then r.totalSectors32 else r.totalSectors16

/-- Sectors of the fixed root directory. -/
def rootSectors : Nat := (r.rootEntries * 32 + (r.bytesPerSector - 1)) / r.bytesPerSector

/-- First sector of the fixed root directory. -/
def firstRootSector : Nat := r.reservedSectors + r.fatCount * r.sectorsPerFat

/-- First sector of the clusters. -/
def firstDataSector : Nat := r.firstRootSector + r.rootSectors

/-- Number of clusters. -/
def clusterCount : Nat := (r.totalSectors - r.firstDataSector) / r.sectorsPerCluster

/-- Bytes in a cluster. -/
def clusterSize : Nat := r.bytesPerSector * r.sectorsPerCluster

/-- Width of the table entries by the number of clusters. -/
def fatType : FatType := .ofClusterCount r.clusterCount

/-- Byte position of a cluster; the first one has number 2. The numbers 0 and 1 name no cluster, and
a chain that comes to one of them falls on the first cluster. -/
def clusterStart (cluster : Nat) : Nat :=
  r.firstDataSector * r.bytesPerSector + (cluster - 2) * r.clusterSize

/-- First sector of the copy of the table that is in use: the first one, unless a wide volume has
turned copying off and names another. -/
def firstFatSector : Nat :=
  if r.extendedFlags / 128 % 2 = 1 then
    r.reservedSectors + r.extendedFlags % 16 * r.sectorsPerFat
  else r.reservedSectors

/-- What makes a record unusable. -/
inductive Flaw where
  | unsigned
  | sectorSizeNotPowerOfTwo
  | sectorSizeTooSmall
  | sectorSizeTooLarge
  | clusterNotPowerOfTwo
  | noReservedSectors
  | noFats
  | rootEntriesOnWide
  | noRootEntries
  | totalSectors16OnWide
  | totalSectorsAmbiguous
  | noSectorsPerFat
  | unknownVersion
  | tooFewSectors
  | backupNotReserved
  | infoNotReserved
  | typeMismatch
  | tooManyClusters
  deriving DecidableEq, Repr

/-- What is said about a flaw. -/
def Flaw.message : Flaw → String
  | .unsigned => "Invalid boot sector signature"
  | .sectorSizeNotPowerOfTwo => "invalid bytes_per_sector value in BPB (not power of two)"
  | .sectorSizeTooSmall => "invalid bytes_per_sector value in BPB (value < 512)"
  | .sectorSizeTooLarge => "invalid bytes_per_sector value in BPB (value > 4096)"
  | .clusterNotPowerOfTwo => "invalid sectors_per_cluster value in BPB (not power of two)"
  | .noReservedSectors => "invalid reserved_sectors value in BPB"
  | .noFats => "invalid fats value in BPB"
  | .rootEntriesOnWide => "Invalid root_entries value in BPB (should be zero for FAT32)"
  | .noRootEntries => "Empty root directory region defined in FAT12/FAT16 BPB"
  | .totalSectors16OnWide => "Invalid total_sectors_16 value in BPB (should be zero for FAT32)"
  | .totalSectorsAmbiguous =>
      "Invalid BPB (total_sectors_16 or total_sectors_32 should be non-zero)"
  | .noSectorsPerFat => "Invalid sectors_per_fat_32 value in BPB (should be non-zero for FAT32)"
  | .unknownVersion => "Unknown FS version"
  | .tooFewSectors => "Invalid BPB (total_sectors field value is too small)"
  | .backupNotReserved => "Invalid BPB (backup boot-sector not in a reserved region)"
  | .infoNotReserved => "Invalid BPB (FSInfo sector not in a reserved region)"
  | .typeMismatch =>
      "Invalid BPB (result of FAT32 determination from total number of clusters and "
        ++ "sectors_per_fat_16 field differs)"
  | .tooManyClusters => "Invalid BPB (too many clusters)"

/-- The most clusters a volume can have: a table entry has 28 bits for their number. -/
def maxClusters : Nat := 0x0FFFFFFF

/-- The flaws that apply, in the order in which they are reported. -/
def flaws : List (Bool × Flaw) :=
  let sizes := (List.range 16).map (Nat.pow 2)
  [(!r.isSigned, .unsigned),
   (!sizes.contains r.bytesPerSector, .sectorSizeNotPowerOfTwo),
   (r.bytesPerSector < 512, .sectorSizeTooSmall),
   (4096 < r.bytesPerSector, .sectorSizeTooLarge),
   (!sizes.contains r.sectorsPerCluster, .clusterNotPowerOfTwo),
   (r.reservedSectors == 0, .noReservedSectors),
   (r.fatCount == 0, .noFats),
   (r.isWide && r.rootEntries != 0, .rootEntriesOnWide),
   (!r.isWide && r.rootEntries == 0, .noRootEntries),
   (r.isWide && r.totalSectors16 != 0, .totalSectors16OnWide),
   ((r.totalSectors16 == 0) == (r.totalSectors32 == 0), .totalSectorsAmbiguous),
   (r.isWide && r.sectorsPerFat32 == 0, .noSectorsPerFat),
   (r.isWide && r.version != 0, .unknownVersion),
   (r.totalSectors ≤ r.firstDataSector, .tooFewSectors),
   (r.isWide && r.reservedSectors ≤ r.backupSector, .backupNotReserved),
   (r.isWide && r.reservedSectors ≤ r.infoSector, .infoNotReserved),
   (r.isWide != (r.fatType == .fat32), .typeMismatch),
   (maxClusters < r.clusterCount, .tooManyClusters)]

/-- The flaw that is reported. -/
def flaw? : Option Flaw := (r.flaws.find? (·.1)).map (·.2)

end BootRecord
end ThumbDrive

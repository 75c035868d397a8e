import ThumbDrive.Bytes

/-! Telling a FAT boot sector from other first blocks. -/
namespace ThumbDrive.BootSector

/-- Bytes in a boot sector. -/
def size : Nat := 512

/-- Whether the block ends, at byte 510, with the boot signature. -/
def isSigned (b : Bytes) : Bool := Bytes.slice b 510 2 == [0x55, 0xAA]

/-- Whether `n` is a power of two below 256. -/
def isPowerOfTwo (n : Nat) : Bool := [1, 2, 4, 8, 16, 32, 64, 128].contains n

/-- Bytes in a cluster by the parameter block, if sector and cluster sizes are possible ones. -/
def clusterSize? (b : Bytes) : Option Nat :=
  let sector := Bytes.word16 b 11
  let sectors := Bytes.byteAt b 13
  if 14 ≤ b.length ∧ [512, 1024, 2048, 4096].contains sector ∧ isPowerOfTwo sectors then
    some (sector * sectors)
  else none

/-- Whether the block is a boot sector with a FAT parameter block: signed, started by a jump, and
labelled as FAT at one of the two places for that. -/
def looksLikeFat (b : Bytes) : Bool :=
  size ≤ b.length && isSigned b
    && (Bytes.byteAt b 0 == 0xEB || Bytes.byteAt b 0 == 0xE9)
    && (Bytes.slice b 54 3 == Bytes.ofAscii "FAT" || Bytes.slice b 82 5 == Bytes.ofAscii "FAT32")
    && (clusterSize? b).isSome

end ThumbDrive.BootSector

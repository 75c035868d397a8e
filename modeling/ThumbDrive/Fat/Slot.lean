import ThumbDrive.Fat.Volume
import ThumbDrive.Fat.ShortName

/-! The 32-byte slots of a directory.

A file or directory has a short slot, in front of which long slots spell a long name in parts of
thirteen UTF-16 units, last part first. `PendingName` collects the parts; anything out of order
drops what was collected. -/
namespace ThumbDrive

/-- A part of a long name. -/
structure LongSlot where
  order : Nat
  checksum : Nat
  units : List Nat

/-- A file or a directory under its short name. -/
structure ShortSlot where
  name : ShortName
  attributes : Nat
  caseFlags : Nat
  clusterHigh : Nat
  clusterLow : Nat
  size : Nat

/-- A slot in use. -/
inductive Slot where
  | long (s : LongSlot)
  | short (s : ShortSlot)

namespace Slot

/-- Bytes in a slot. -/
def size : Nat := 32

/-- Whether the attributes mark a part of a long name. -/
def isLongMark (attributes : Nat) : Bool := attributes % 16 == 15

/-- Lengths of the fields after the attributes. -/
def fields (isLong : Bool) : List Nat :=
  if isLong then [1, 1, 12, 2, 4] else [1, 1, 2, 2, 2, 2, 2, 2, 2, 4]

/-- UTF-16 units stored in little-endian pairs of bytes. -/
def units : Bytes → List Nat
  | a :: b :: rest => (a.toNat + 256 * b.toNat) :: units rest
  | _ => []

/-- The slot in 32 bytes. Of the attributes the two highest bits mean nothing. -/
def ofBytes (b : Bytes) : Slot :=
  let attributes := Bytes.byteAt b 11 % 64
  if isLongMark attributes then
    .long
      { order := Bytes.byteAt b 0
        checksum := Bytes.byteAt b 13
        units := units (Bytes.slice b 1 10 ++ Bytes.slice b 14 12 ++ Bytes.slice b 28 4) }
  else
    .short
      { name := b.take 11
        attributes
        caseFlags := Bytes.byteAt b 12
        clusterHigh := Bytes.word16 b 20
        clusterLow := Bytes.word16 b 26
        size := Bytes.word32 b 28 }

/-- The first byte of a slot, which marks the end of a directory and deleted slots. -/
def mark : Slot → Nat
  | .long s => s.order
  | .short s => Bytes.byteAt s.name 0

end Slot

namespace ShortSlot

/-- Whether the slot names the volume and no file. -/
def isVolumeLabel (s : ShortSlot) : Bool := s.attributes / 8 % 2 == 1

/-- Whether the slot is a directory's. -/
def isDirectory (s : ShortSlot) : Bool := s.attributes / 16 % 2 == 1

/-- First cluster; the high half of its number counts on wide volumes only. -/
def firstCluster? (s : ShortSlot) (t : FatType) : Option Nat :=
  let n := (if t = .fat32 then s.clusterHigh * 65536 else 0) + s.clusterLow
  if n = 0 then none else some n

end ShortSlot

/-- The parts of a long name collected so far. -/
structure PendingName where
  /-- Number of the part collected last; zero if there is none. -/
  index : Nat := 0
  checksum : Nat := 0
  units : List Nat := []

namespace PendingName

/-- Units in one part. -/
def partLength : Nat := 13

/-- `n` units of a name, filled up with zeros. -/
def resize (units : List Nat) (n : Nat) : List Nat :=
  units.take n ++ List.replicate (n - units.length) 0

/-- The units with one part written over them. -/
def overwrite (units part : List Nat) (start : Nat) : List Nat :=
  units.take start ++ part ++ units.drop (start + part.length)

/-- Takes in a part. The first one met carries a flag and the highest number, and every further
one must continue it downwards with the same checksum. -/
def absorb (p : PendingName) (s : LongSlot) : PendingName :=
  let index := s.order % 32
  let start := partLength * (index - 1)
  if index = 0 then {}
  else if s.order / 64 % 2 = 1 then
    { index, checksum := s.checksum,
      units := overwrite (resize p.units (partLength * index)) s.units start }
  else if p.index = 0 ∨ index + 1 ≠ p.index ∨ s.checksum ≠ p.checksum then {}
  else { p with index, units := overwrite p.units s.units start }

/-- The long name for the short slot that follows: none unless all parts down to the first were
collected and their checksum is that of the short name. Padding at the end is dropped. -/
def finish (p : PendingName) (name : ShortName) : List Nat :=
  if p.index = 1 ∧ p.checksum = name.checksum.toNat then
    (p.units.reverse.dropWhile fun u => u == 0 || u == 0xFFFF).reverse
  else []

end PendingName
end ThumbDrive

import ThumbDrive.Block.Device
import ThumbDrive.Block.Image

/-! Disks held in memory.

`Disk` serves an image and fails only past its end. `Probe` is a disk that fails on schedule and
keeps a journal of what was asked of it. -/
namespace ThumbDrive

/-- An image served in blocks. -/
structure Disk where
  image : Image
  blockSize : Nat := 512

namespace Disk

/-- A read that leaves the image. -/
def pastEnd : IoError := ⟨.unexpectedEof, "read past the end of the image"⟩

/-- The `length` bytes from block `lba` on, if the image has them. -/
def read (d : Disk) (lba length : Nat) : Except IoError Bytes :=
  let start := lba * d.blockSize
  if start + length ≤ d.image.size then .ok (d.image.slice start length) else .error pastEnd

instance : BlockDevice Disk where
  blockSize := Disk.blockSize
  blockCount := fun d => d.image.size / d.blockSize
  readBlocks := fun lba length => do IoOn.ofExcept ((← get).read lba length)
  close := pure ()

end Disk

/-- A failure in store for reads that touch block `lba`: the next `times` of them, or all. -/
structure Fault where
  lba : Nat
  times : Option Nat
  error : IoError

namespace Fault

/-- Whether the fault strikes a read of `count` blocks from `lba` on. -/
def strikes (f : Fault) (lba count : Nat) : Bool :=
  f.times != some 0 && lba ≤ f.lba && f.lba < lba + count

/-- The fault after it has struck once. -/
def spent (f : Fault) : Fault := { f with times := f.times.map (· - 1) }

/-- The error of the first fault that strikes, and the faults left afterwards. -/
def strike? (lba count : Nat) : List Fault → Option (IoError × List Fault)
  | [] => none
  | f :: fs =>
      if f.strikes lba count then some (f.error, f.spent :: fs)
      else (strike? lba count fs).map fun (e, fs) => (e, f :: fs)

end Fault

/-- What was asked of a disk: a read of `length` bytes from block `lba` on, or to be closed. -/
inductive Probe.Call where
  | read (lba length : Nat)
  | close
  deriving DecidableEq, Repr

/-- A disk that fails on schedule and remembers its calls. -/
structure Probe where
  disk : Disk
  faults : List Fault := []
  closeError : Option IoError := none
  /-- What a fault that strikes makes of the buffer the read was for. -/
  garble : Bytes → Bytes := id
  /-- Every call, the latest first. -/
  journal : List Probe.Call := []

namespace Probe

/-- The block and the length of a read. -/
def Call.read? : Call → Option (Nat × Nat)
  | .read lba length => some (lba, length)
  | .close => none

/-- How often the disk was closed. -/
def closes (p : Probe) : Nat := p.journal.count .close

/-- The calls that came after those of an earlier state, in order. -/
def callsSince (earlier p : Probe) : List Call :=
  (p.journal.take (p.journal.length - earlier.journal.length)).reverse

/-- Notes a call. -/
def note (c : Call) (p : Probe) : Probe := { p with journal := c :: p.journal }

/-- A read is noted, then fails if a fault strikes it, else goes to the disk. -/
def readBlocks (lba length : Nat) : IoOn Probe Bytes := do
  modify (note (.read lba length))
  let p ← get
  match Fault.strike? lba (length / p.disk.blockSize) p.faults with
  | some (e, faults) =>
      set { p with faults }
      throw e
  | none => IoOn.ofExcept (p.disk.read lba length)

/-- Every close is noted, also one that fails. -/
def close : IoOn Probe Unit := do
  modify (note .close)
  match (← get).closeError with
  | some e => throw e
  | none => pure ()

instance : BlockDevice Probe where
  blockSize := fun p => p.disk.blockSize
  blockCount := fun p => BlockDevice.blockCount p.disk
  readBlocks := readBlocks
  leftover := garble
  close := close

end Probe
end ThumbDrive

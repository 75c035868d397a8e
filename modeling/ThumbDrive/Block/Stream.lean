import ThumbDrive.Block.Device
import ThumbDrive.Reader

/-! A window of blocks as a stream of bytes.

A `BlockStream` shows `blockCount` blocks of a device, from `firstLba` on, as bytes with a read
position. Whole blocks that start at the position go straight to the caller; anything smaller is
cut from one cached block. The cache has a label, which is taken off before the cache is refilled:
a failed refill leaves anything in the cache, but nothing that could be mistaken for a block.
Nothing is ever written. -/
namespace ThumbDrive

/-- A window of a device, read by position. -/
structure BlockStream (δ : Type) where
  device : δ
  /-- First block of the window. -/
  firstLba : Nat
  /-- Blocks in the window. -/
  blockCount : Nat
  /-- Byte position in the window; it may lie beyond the end. -/
  position : Nat := 0
  /-- Number in the window of the cached block. -/
  cachedLba : Option Nat := none
  /-- The buffer of the cached block, which counts only while it has a number. -/
  cache : Bytes := []
  isOpen : Bool := true

/-- Where a seek starts counting. -/
inductive SeekFrom where
  | start (offset : Nat)
  | fromEnd (delta : Int)
  | current (delta : Int)

namespace BlockStream
variable {δ : Type} [BlockDevice δ]

/-- The most a single read takes past the cache. -/
def directLimit : Nat := 65536

/-- Positions are numbers below this bound. -/
def positionBound : Int := 18446744073709551616

/-- The stream was closed. -/
def closedError : IoError := ⟨.notConnected, "block device is closed"⟩

/-- A seek to a position that does not exist. -/
def seekError : IoError := ⟨.invalidInput, "seek before the start of the partition"⟩

/-- The stream was asked to write. -/
def readOnlyError : IoError := ⟨.permissionDenied, "USB storage is mounted read-only"⟩

/-- Block size of the device below. -/
def blockSize (s : BlockStream δ) : Nat := BlockDevice.blockSize s.device

/-- Length of the window in bytes. -/
def length (s : BlockStream δ) : Nat := s.blockCount * s.blockSize

/-- Reads from the device below, counting blocks from the start of the window. -/
def readDevice (lba length : Nat) : IoOn (BlockStream δ) Bytes := fun s =>
  IoOn.zoom device (fun d s => { s with device := d })
    (BlockDevice.readBlocks (s.firstLba + lba) length) s

/-- Loads the block `lba` of the window into the cache, which has no number meanwhile. -/
def refill (lba : Nat) : IoOn (BlockStream δ) Bytes := fun s =>
  match readDevice lba s.blockSize { s with cachedLba := none } with
  | .ok block s => .ok block { s with cachedLba := some lba, cache := block }
  | .error e s => .error e { s with cache := BlockDevice.leftover s.device s.cache }

/-- The block `lba` of the window, from the cache or into it. -/
def cachedBlock (lba : Nat) : IoOn (BlockStream δ) Bytes := do
  let s ← get
  if s.cachedLba = some lba then return s.cache else refill lba

/-- At most `n` bytes from the position on, and the position moved past them. Nothing is left to
read when the answer is empty, or nothing was asked for. -/
def read (n : Nat) : IoOn (BlockStream δ) Bytes := do
  let s ← get
  if !s.isOpen then throw closedError
  if n = 0 ∨ s.length ≤ s.position then return []
  let available := min (s.length - s.position) n
  let lba := s.position / s.blockSize
  let offset := s.position % s.blockSize
  if offset = 0 ∧ s.blockSize ≤ available then
    let direct := min available directLimit / s.blockSize * s.blockSize
    let got ← readDevice lba direct
    modify fun s => { s with position := s.position + direct }
    return got
  else
    let block ← cachedBlock lba
    let count := min available (s.blockSize - offset)
    modify fun s => { s with position := s.position + count }
    return Bytes.slice block offset count

/-- Where a seek leads. -/
def target (s : BlockStream δ) : SeekFrom → Int
  | .start offset => offset
  | .fromEnd delta => s.length + delta
  | .current delta => s.position + delta

/-- Moves the position, also beyond the end and also on a closed stream. -/
def seek (place : SeekFrom) : IoOn (BlockStream δ) Nat := do
  let s ← get
  let target := s.target place
  if 0 ≤ target ∧ target < positionBound then
    set { s with position := target.toNat }
    return target.toNat
  else throw seekError

/-- A single read at `position`. -/
def readAt (position n : Nat) : IoOn (BlockStream δ) Bytes := do
  modify fun s => { s with position }
  read n

/-- Refused: the medium is mounted read-only. -/
def write (_ : Bytes) : IoOn (BlockStream δ) Nat := throw readOnlyError

/-- Nothing was written, so nothing is left to be written out. -/
def flush : IoOn (BlockStream δ) Unit := pure ()

/-- Closes the device, the first time it is called. -/
def close : IoOn (BlockStream δ) Unit := do
  let s ← get
  if s.isOpen then
    set { s with isOpen := false }
    IoOn.zoom device (fun d s => { s with device := d }) BlockDevice.close

/-- Gives the stream up: the device is closed if it was not, and an error of that is ignored. -/
def release (s : BlockStream δ) : δ :=
  match close s with
  | .ok _ s => s.device
  | .error _ s => s.device

end BlockStream
end ThumbDrive

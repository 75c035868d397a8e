import ThumbDrive.Bytes
import ThumbDrive.IoError

/-! Block devices: what the rest of the library asks of a disk.

Devices are states, and a read is an operation on the state, because a device may fail once and
answer later, keep a journal, or talk to a pipe. -/
namespace ThumbDrive

/-- A device that reads fixed-size logical blocks. -/
class BlockDevice (δ : Type) where
  /-- Size of a logical block in bytes. -/
  blockSize : δ → Nat
  /-- Number of logical blocks. -/
  blockCount : δ → Nat
  /-- The `length` bytes from block `lba` on; `length` is a multiple of the block size. -/
  readBlocks : (lba length : Nat) → IoOn δ Bytes
  /-- What is in a buffer after a read into it has failed. It may be anything; a device that does
  not say leaves the buffer as it was. -/
  leftover : δ → Bytes → Bytes := fun _ buffer => buffer
  /-- Releases the device. -/
  close : IoOn δ Unit

end ThumbDrive

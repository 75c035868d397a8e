import ThumbDrive.Bytes

/-! Disk images: a size, and the byte at every offset. -/
namespace ThumbDrive

/-- Fixed contents of a disk. Bytes at `size` and beyond are never read. -/
structure Image where
  size : Nat
  byte : Nat → UInt8

namespace Image

/-- An image of zeros. -/
def zeros (size : Nat) : Image := ⟨size, fun _ => 0⟩

/-- The image that holds exactly these bytes. -/
def ofBytes (b : Bytes) : Image :=
  let a := b.toArray
  ⟨a.size, fun i => a.getD i 0⟩

/-- The image with `patch` written over it from `start` on. -/
def overlay (m : Image) (start : Nat) (patch : Image) : Image where
  size := m.size
  byte := fun i => if start ≤ i ∧ i < start + patch.size then patch.byte (i - start) else m.byte i

/-- The `n` bytes from `start` on. -/
def slice (m : Image) (start n : Nat) : Bytes := (List.range n).map fun i => m.byte (start + i)

/-- All bytes of the image. -/
def bytes (m : Image) : Bytes := m.slice 0 m.size

end Image
end ThumbDrive

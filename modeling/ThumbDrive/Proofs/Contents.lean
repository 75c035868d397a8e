import ThumbDrive.Block.Disk
import ThumbDrive.Block.Stream

/-! # Devices with fixed contents

A device may fail a read at any time, with any error, leaving anything in the buffer, and still
have fixed contents: what a read delivers when it succeeds is determined.  `FixedContents` says so
by naming a disk that has the same blocks.  It promises something only for reads of whole blocks of
that disk (`Disk.Holds`), so whoever uses the promise has to show that it asks for nothing else.

The device's states are restricted by a predicate `Sound`, which every read keeps.  It is free: for
a device that keeps a journal it may say what the journal holds, and is then proved of every run.

`FaultLog` adds that the failed reads can be read off the device's state.  That costs nothing: any
device may be run with a log beside it (`Logged`).  `DeviceStep` is what a single operation of a
layer above does to the device: nothing, or one read. -/
namespace ThumbDrive

/-! ## Slices of an image -/

namespace Image

@[simp] theorem length_slice (m : Image) (start n : Nat) : (m.slice start n).length = n := by
  simp [slice]

/-- A slice of a slice. -/
theorem slice_slice (m : Image) {start n offset count : Nat} (h : offset + count ≤ n) :
    Bytes.slice (m.slice start n) offset count = m.slice (start + offset) count := by
  apply List.ext_getElem
  · simp only [Bytes.slice, List.length_take, List.length_drop, length_slice]
    omega
  · intro i _ _
    simp [Bytes.slice, slice, Nat.add_assoc]

/-- Adjacent slices are one. -/
theorem slice_append (m : Image) (start n count : Nat) :
    m.slice start n ++ m.slice (start + n) count = m.slice start (n + count) := by
  simp [slice, List.range_add, Function.comp_def, Nat.add_assoc]

end Image

/-! ## What a device promises -/

namespace Disk

/-- The `length` bytes from block `lba` on are whole blocks of the disk. -/
structure Holds (k : Disk) (lba length : Nat) : Prop where
  whole : k.blockSize ∣ length
  within : lba * k.blockSize + length ≤ BlockDevice.blockCount k * k.blockSize

/-- The disk itself delivers the blocks it holds. -/
theorem read_of_holds {k : Disk} {lba length : Nat} (h : k.Holds lba length) :
    k.read lba length = .ok (k.image.slice (lba * k.blockSize) length) := by
  have hsize : BlockDevice.blockCount k * k.blockSize ≤ k.image.size :=
    Nat.div_mul_le_self k.image.size k.blockSize
  have hfits : lba * k.blockSize + length ≤ k.image.size := Nat.le_trans h.within hsize
  simp [read, hfits]

/-- A read that succeeds is read in full. -/
theorem length_of_read {k : Disk} {lba length : Nat} {b : Bytes} (h : k.read lba length = .ok b) :
    b.length = length := by
  unfold read at h
  dsimp only at h
  split at h <;> cases h
  exact Image.length_slice _ _ _

end Disk

variable {δ : Type} [BlockDevice δ]

/-- **A device with the contents of the disk `k`**, in the states for which `Sound` holds.  Reads
may fail as they like. -/
structure FixedContents (k : Disk) (Sound : δ → Prop) : Prop where
  blockSize : ∀ {d}, Sound d → BlockDevice.blockSize d = k.blockSize
  blockCount : ∀ {d}, Sound d → BlockDevice.blockCount d = BlockDevice.blockCount k
  delivers : ∀ {d d' lba length b}, Sound d → k.Holds lba length →
    BlockDevice.readBlocks lba length d = .ok b d' →
    b = k.image.slice (lba * k.blockSize) length ∧ Sound d'
  fails : ∀ {d d' lba length e}, Sound d → k.Holds lba length →
    BlockDevice.readBlocks lba length d = .error e d' → Sound d'

/-- A device with fixed contents whose state tells the errors of the reads that failed so far, the
latest first. -/
structure FaultLog (k : Disk) (Sound : δ → Prop) (failures : δ → List IoError) : Prop
    extends FixedContents k Sound where
  quiet : ∀ {d d' lba length b}, Sound d → k.Holds lba length →
    BlockDevice.readBlocks lba length d = .ok b d' → failures d' = failures d
  noted : ∀ {d d' lba length e}, Sound d → k.Holds lba length →
    BlockDevice.readBlocks lba length d = .error e d' → failures d' = e :: failures d

/-- What one operation does to a device: nothing, or one read of whole blocks, with the error it
fails with if it does. -/
inductive DeviceStep (k : Disk) (d : δ) : Option IoError → δ → Prop where
  | untouched : DeviceStep k d none d
  | delivered {d' lba length b} (h : k.Holds lba length)
      (hr : BlockDevice.readBlocks lba length d = .ok b d') : DeviceStep k d none d'
  | failed {d' lba length e} (h : k.Holds lba length)
      (hr : BlockDevice.readBlocks lba length d = .error e d') : DeviceStep k d (some e) d'

namespace FaultLog
variable {k : Disk} {Sound : δ → Prop} {failures : δ → List IoError}

/-- An operation adds to the log the failure it met, if it met one. -/
theorem failures_step (hd : FaultLog k Sound failures) {d d' : δ} {r : Option IoError}
    (hs : Sound d) (h : DeviceStep k d r d') : failures d' = r.toList ++ failures d := by
  cases h with
  | untouched => rfl
  | delivered hh hr => exact hd.quiet hs hh hr
  | failed hh hr => exact hd.noted hs hh hr

end FaultLog

/-! ## Disks and probes -/

/-- A disk has its own contents, and never fails. -/
theorem Disk.faultLog (k : Disk) : FaultLog k (fun d : Disk => d = k) (fun _ => []) := by
  have read_eq : ∀ {lba length}, k.Holds lba length →
      BlockDevice.readBlocks lba length k =
        EStateM.Result.ok (k.image.slice (lba * k.blockSize) length) k := by
    intro lba length h
    show IoOn.ofExcept (k.read lba length) k = _
    rw [Disk.read_of_holds h]
    rfl
  refine ⟨⟨?_, ?_, ?_, ?_⟩, ?_, ?_⟩
  · rintro d rfl
    rfl
  · rintro d rfl
    rfl
  · rintro d d' lba length b rfl hh hr
    rw [read_eq hh] at hr
    cases hr
    exact ⟨rfl, rfl⟩
  · rintro d d' lba length e rfl hh hr
    rw [read_eq hh] at hr
    cases hr
  · intros
    rfl
  · rintro d d' lba length e rfl hh hr
    rw [read_eq hh] at hr
    cases hr

namespace Probe

/-- A read of blocks the disk holds delivers them, or fails by a fault. -/
theorem readBlocks_cases {p : Probe} {lba length : Nat} (h : p.disk.Holds lba length) :
    (∃ p', readBlocks lba length p =
      .ok (p.disk.image.slice (lba * p.disk.blockSize) length) p' ∧ p'.disk = p.disk) ∨
    (∃ e p', readBlocks lba length p = .error e p' ∧ p'.disk = p.disk) := by
  have hread := Disk.read_of_holds h
  cases hs : Fault.strike? lba (length / p.disk.blockSize) p.faults with
  | none =>
    refine .inl ⟨note (.read lba length) p, ?_, rfl⟩
    simp only [readBlocks, IoOn.bind_modify, IoOn.bind_get, note, hs, hread]
    rfl
  | some x =>
    refine .inr ⟨x.1, { note (.read lba length) p with faults := x.2 }, ?_, rfl⟩
    simp only [readBlocks, IoOn.bind_modify, IoOn.bind_get, note, hs]
    rfl

/-- A probe has the contents of its disk. -/
theorem fixedContents (k : Disk) : FixedContents k (fun p : Probe => p.disk = k) := by
  refine ⟨?_, ?_, ?_, ?_⟩
  · rintro p rfl
    rfl
  · rintro p rfl
    rfl
  all_goals
    rintro p p' lba length x rfl hh hr
    rcases readBlocks_cases hh with ⟨q, hq, hd⟩ | ⟨e, q, hq, hd⟩
    all_goals
      cases hq.symm.trans hr
  · exact ⟨rfl, hd⟩
  · exact hd

end Probe

/-! ## Devices whose failures are written down -/

/-- A device with the errors of its failed reads, the latest first. -/
structure Logged (δ : Type) where
  device : δ
  log : List IoError := []

namespace Logged

/-- Reads, and writes a failure down. -/
def readBlocks (lba length : Nat) : IoOn (Logged δ) Bytes := fun x =>
  match BlockDevice.readBlocks lba length x.device with
  | .ok b d => .ok b { x with device := d }
  | .error e d => .error e { device := d, log := e :: x.log }

instance : BlockDevice (Logged δ) where
  blockSize x := BlockDevice.blockSize x.device
  blockCount x := BlockDevice.blockCount x.device
  readBlocks := readBlocks
  leftover x := BlockDevice.leftover x.device
  close := IoOn.zoom device (fun d x => { x with device := d }) BlockDevice.close

theorem readBlocks_ok {x x' : Logged δ} {lba length : Nat} {b : Bytes}
    (h : readBlocks lba length x = .ok b x') :
    BlockDevice.readBlocks lba length x.device = .ok b x'.device ∧ x'.log = x.log := by
  unfold readBlocks at h
  split at h
  · next hr =>
    cases h
    exact ⟨hr, rfl⟩
  · cases h

theorem readBlocks_error {x x' : Logged δ} {lba length : Nat} {e : IoError}
    (h : readBlocks lba length x = .error e x') :
    BlockDevice.readBlocks lba length x.device = .error e x'.device ∧ x'.log = e :: x.log := by
  unfold readBlocks at h
  split at h
  · cases h
  · next hr =>
    cases h
    exact ⟨hr, rfl⟩

/-- Whatever has fixed contents has them with a log, too. -/
theorem faultLog {k : Disk} {Sound : δ → Prop} (hd : FixedContents k Sound) :
    FaultLog k (fun x : Logged δ => Sound x.device) log where
  blockSize hs := hd.blockSize hs
  blockCount hs := hd.blockCount hs
  delivers hs hh hr := hd.delivers hs hh (readBlocks_ok hr).1
  fails hs hh hr := hd.fails hs hh (readBlocks_error hr).1
  quiet _ _ hr := (readBlocks_ok hr).2
  noted _ _ hr := (readBlocks_error hr).2

end Logged
end ThumbDrive

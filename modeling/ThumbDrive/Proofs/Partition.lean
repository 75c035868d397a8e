import ThumbDrive.Proofs.Stream
import ThumbDrive.Session.Basic

/-! # Finding the partition

The numbers of a partition table come from the device and are not to be trusted.  A partition that
is found lies on the device all the same: its entry starts before the end and is cut off there.  So
the first block of the partition can be read, and the partition is a window of the disk.

On a device that fails, the search follows the search on the bare disk. -/
namespace ThumbDrive

namespace Partition

/-- What is found in a readable first block of a device with blocks has blocks, and they are on the
device. -/
theorem ofBlock_inside {b : Bytes} {count : Nat} (hc : 0 < count) {q : Partition}
    (h : (Finding.ofBlock b count).partition? = some q) :
    0 < q.blockCount ∧ q.firstLba + q.blockCount ≤ count := by
  unfold Finding.ofBlock at h
  split at h
  · cases h
    exact ⟨hc, Nat.le_of_eq (Nat.zero_add count)⟩
  · split at h
    · cases h
    · split at h
      · cases h
      · next e index hfirst =>
        have hused := List.find?_some hfirst
        simp only [PartitionTable.Entry.isUsed, Bool.and_eq_true, decide_eq_true_eq] at hused
        split at h
        · cases h
        · cases h
          dsimp only
          omega

end Partition

/-! ## On a device that fails -/

/-- Sound states of a device, beside the disk with its contents. -/
def Disk.devices {δ : Type} (k : Disk) (Sound : δ → Prop) (failures : δ → List IoError) :
    Pairing δ Disk where
  Rel d k' := Sound d ∧ k' = k
  failures := failures

variable {δ : Type} [BlockDevice δ] {k : Disk} {Sound : δ → Prop} {failures : δ → List IoError}

/-- Blocks the disk holds are read in step. -/
theorem Disk.follows_readBlocks (hd : FaultLog k Sound failures) {lba length : Nat}
    (hh : k.Holds lba length) :
    (k.devices Sound failures).Follows (BlockDevice.readBlocks lba length)
      (BlockDevice.readBlocks lba length) := by
  rintro d k' ⟨hs, rfl⟩
  have hdisk : (BlockDevice.readBlocks lba length : IoOn Disk Bytes) k' =
      .ok (k'.image.slice (lba * k'.blockSize) length) k' := by
    show IoOn.ofExcept (k'.read lba length) k' = _
    rw [Disk.read_of_holds hh]
    rfl
  rw [hdisk]
  cases hr : BlockDevice.readBlocks lba length d with
  | ok b d' =>
    obtain ⟨rfl, hs'⟩ := hd.delivers hs hh hr
    have hq : (k'.devices Sound failures).Since [] d d' := hd.quiet hs hh hr
    exact .ok ⟨hs', rfl⟩ hq
  | error e d' =>
    have hn : (k'.devices Sound failures).Since [e] d d' := hd.noted hs hh hr
    refine .failed ⟨k', hd.fails hs hh hr, rfl⟩ hn (List.cons_ne_nil _ _) ?_
    intro _
    exact List.mem_singleton.mpr rfl

/-- A single block of the disk. -/
theorem Disk.holds_block {lba : Nat} (h : lba < BlockDevice.blockCount k) :
    k.Holds lba k.blockSize := by
  refine ⟨Nat.dvd_refl _, ?_⟩
  have := Nat.mul_le_mul_right k.blockSize (Nat.succ_le_of_lt h)
  rwa [Nat.succ_mul] at this

namespace Partition

theorem follows_look (hd : FaultLog k Sound failures) :
    (k.devices Sound failures).Follows (look k.blockSize (BlockDevice.blockCount k))
      (look k.blockSize (BlockDevice.blockCount k)) := by
  unfold look
  split
  · exact Pairing.Follows.pure _
  · have hh : k.Holds 0 k.blockSize := Disk.holds_block (by omega)
    exact (Disk.follows_readBlocks hd hh).bind fun b => Pairing.Follows.pure _

theorem follows_find (hd : FaultLog k Sound failures) :
    (k.devices Sound failures).Follows find find := by
  rintro d k' ⟨hs, rfl⟩
  show (k'.devices Sound failures).InStep _ d
    (look (BlockDevice.blockSize d) (BlockDevice.blockCount d) d)
    (look k'.blockSize (BlockDevice.blockCount k') k')
  rw [hd.blockSize hs, hd.blockCount hs]
  exact follows_look hd d k' ⟨hs, rfl⟩

/-- A partition found on a device has blocks, and they are on the device.  The device's blocks are
large enough for a boot sector. -/
theorem look_inside {d d' : δ} {f : Finding} {q : Partition} {size count : Nat}
    (h : look size count d = .ok f d') (hq : f.partition? = some q) :
    BootSector.size ≤ size ∧ 0 < q.blockCount ∧ q.firstLba + q.blockCount ≤ count := by
  unfold look at h
  split at h
  · cases h
    cases hq
  · rw [IoOn.bind_apply] at h
    split at h
    · cases h
      exact ⟨by omega, ofBlock_inside (by omega) hq⟩
    · cases h

/-- Looking for a partition leaves the device sound. -/
theorem find_sound (hd : FixedContents k Sound) {d d' : δ} {f : Finding} (hs : Sound d)
    (h : find d = .ok f d') : Sound d' := by
  have hlook : look (BlockDevice.blockSize d) (BlockDevice.blockCount d) d = .ok f d' := h
  rw [hd.blockSize hs, hd.blockCount hs] at hlook
  unfold look at hlook
  split at hlook
  · cases hlook
    exact hs
  · rw [IoOn.bind_apply] at hlook
    split at hlook
    · next hr =>
      cases hlook
      exact (hd.delivers hs (Disk.holds_block (by omega)) hr).2
    · cases hlook

end Partition

namespace Session

/-- Finding the partition and its first block follows. -/
theorem follows_findPartition (hd : FaultLog k Sound failures) :
    (k.devices Sound failures).Follows findPartition findPartition := by
  rintro d k' ⟨hs, rfl⟩
  unfold findPartition
  rcases (Partition.follows_find hd d k' ⟨hs, rfl⟩).inv
    with ⟨f, d', k₁, es, hx, hy, ⟨hs', hk₁⟩, hsince⟩ | ⟨e, d', k₁, es, hx, hy, hr, hsince, hk⟩ |
      ⟨e, d', es, hx, hr, hsince, hne, hend⟩
  · subst hk₁
    rw [IoOn.bind_ok hx, IoOn.bind_ok hy]
    cases hq : f.partition? with
    | none => exact .ok ⟨hs', rfl⟩ hsince
    | some q =>
      obtain ⟨-, hblocks, hin⟩ := Partition.look_inside hy hq
      have hfirst : q.firstLba < BlockDevice.blockCount k₁ := by omega
      dsimp only
      rw [IoOn.bind_get, IoOn.bind_get, hd.blockSize hs']
      have hread := (Disk.follows_readBlocks hd (Disk.holds_block hfirst)).bind
        fun b => Pairing.Follows.pure (some (q, b))
      exact (hread d' k₁ ⟨hs', rfl⟩).after hsince
  · rw [IoOn.bind_error hx, IoOn.bind_error hy]
    exact .error hr hsince hk
  · rw [IoOn.bind_error hx]
    exact .failed hr hsince hne hend

/-- The partition found on a device with fixed contents is on the disk with these contents, and so
is its first block. -/
theorem findPartition_fixed (hd : FixedContents k Sound) {d d' : δ} (hs : Sound d) {q : Partition}
    {b : Bytes} (h : findPartition d = .ok (some (q, b)) d') :
    Sound d' ∧ BootSector.size ≤ k.blockSize ∧
      q.firstLba + q.blockCount ≤ BlockDevice.blockCount k ∧
      b = k.image.slice (q.firstLba * k.blockSize) k.blockSize := by
  unfold findPartition at h
  cases hf : Partition.find d with
  | error e d₁ =>
    rw [IoOn.bind_error hf] at h
    cases h
  | ok f d₁ =>
    have hs₁ := Partition.find_sound hd hs hf
    rw [IoOn.bind_ok hf] at h
    cases hq : f.partition? with
    | none =>
      rw [hq] at h
      cases h
    | some q' =>
      rw [hq] at h
      obtain ⟨hsize, hblocks, hin⟩ := Partition.look_inside hf hq
      rw [hd.blockSize hs] at hsize
      rw [hd.blockCount hs] at hin
      have hfirst : q'.firstLba < BlockDevice.blockCount k := by omega
      dsimp only at h
      rw [IoOn.bind_get, hd.blockSize hs₁, IoOn.bind_apply] at h
      split at h
      · next hr =>
        cases h
        obtain ⟨hb, hs'⟩ := hd.delivers hs₁ (Disk.holds_block hfirst) hr
        exact ⟨hs', hsize, hin, hb⟩
      · cases h

/-- The partition found on a disk. -/
theorem findPartition_disk {k' : Disk} {q : Partition} {b : Bytes}
    (h : findPartition k = .ok (some (q, b)) k') :
    0 < k.blockSize ∧ q.firstLba + q.blockCount ≤ BlockDevice.blockCount k := by
  obtain ⟨-, hsize, hin, -⟩ := findPartition_fixed (Disk.faultLog k).toFixedContents rfl h
  exact ⟨Nat.lt_of_lt_of_le (by decide) hsize, hin⟩

end Session
end ThumbDrive

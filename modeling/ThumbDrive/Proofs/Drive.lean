import ThumbDrive.Proofs.Command
import ThumbDrive.Proofs.Interview

/-! # A drive and its disk

A drive on a pipe with a conforming target is the target's disk, as far as anybody can tell: it
becomes usable, its geometry is that of the disk, and every read of whole blocks gives what the disk
gives, or fails past the end as the disk does.  A read is many commands, with numbers of blocks in
two bytes and numbers of bytes in four, and none of them overflows.

`Ready` is the invariant: the drive is idle and knows the geometry.  Every read keeps it, so that it
holds of the drive of a session all the time, and the session is one on the disk. -/
namespace ThumbDrive

/-- A disk whose blocks can be numbered and measured in 32 bits. -/
structure Disk.Addressable (k : Disk) : Prop where
  positive : 0 < k.blockSize
  small : k.blockSize < 4294967296
  nonempty : 0 < BlockDevice.blockCount k
  countable : BlockDevice.blockCount k ≤ 4294967296

/-- A line to a target for a disk, which says that it is not ready so many times. -/
def Line.serving (k : Disk) (notReady : Nat) : Line where
  target := some
    { image := k.image
      blockSize := k.blockSize
      lastLba := BlockDevice.blockCount k - 1
      notReady }

/-- For every such disk there is a conforming target. -/
theorem Line.connects_serving {k : Disk} (hk : k.Addressable) (notReady : Nat) :
    Connects (Target.Offers k) (serving k notReady) where
  target := ⟨_, rfl, ⟨rfl, rfl, hk.small⟩, Nat.succ_pred_eq_of_pos hk.nonempty, hk.countable, rfl⟩
  incoming := rfl
  outgoing := rfl

namespace Drive
variable {π : Type} [BulkPipe π] {k : Disk} {Sound : π → Prop} {queue sent : π → List Bytes}

/-- An idle drive that knows the geometry of the disk. -/
structure Ready (k : Disk) (Sound : π → Prop) (queue : π → List Bytes) (d : Drive π) : Prop
    extends Idle Sound queue d where
  blockSize : d.blockSize = k.blockSize
  blockCount : d.blockCount = BlockDevice.blockCount k

/-- A conforming target tells its geometry. -/
theorem capacityAnswer_conforms (hk : k.Addressable) {data : Bytes} {status : CommandStatus}
    (h : CapacityAnswer k.Conforms data status) :
    status = .passed ∧ data.length = 8 ∧ Bytes.ofBig (data.drop 4) = k.blockSize ∧
      Bytes.ofBig (data.take 4) + 1 = BlockDevice.blockCount k := by
  obtain ⟨w, hasks, hlength, hanswer⟩ := h
  obtain ⟨hpassed, rfl⟩ := hanswer.capacity hasks hlength
  have hcount := hk.countable
  have hnonempty := hk.nonempty
  have hlast : BlockDevice.blockCount k - 1 < 4294967296 := by omega
  refine ⟨hpassed, by simp, ?_, ?_⟩
  · rw [List.drop_left' (Bytes.length_big 4 _), Bytes.ofBig_big_of_lt hk.small]
  · rw [List.take_left' (Bytes.length_big 4 _), Bytes.ofBig_big_of_lt hlast]
    omega

/-- A drive on a conforming pipe becomes usable. -/
theorem ready_initDrive (hf : Fifo False k.Conforms Sound queue sent) (hk : k.Addressable)
    {d : Drive π} (hd : Idle Sound queue d) :
    IoOn.Ends initDrive d (fun _ d' => Ready k Sound queue d') (fun _ _ => False) := by
  refine (ends_initDrive hf hd).mono ?_ ?_
  · rintro - d' ⟨hd', data, hanswer, -, -, hsize, hcount⟩
    obtain ⟨-, -, hsize', hcount'⟩ := capacityAnswer_conforms hk hanswer
    exact ⟨hd', hsize.trans hsize', hcount.trans hcount'⟩
  · rintro e d' (hfault | ⟨data, status, hanswer, hbad⟩)
    · exact hfault
    · obtain ⟨hpassed, hlen, hsize, -⟩ := capacityAnswer_conforms hk hanswer
      refine hbad ⟨hpassed, hlen, ?_⟩
      rw [hsize]
      exact Nat.ne_of_gt hk.positive

/-- One command brings its blocks. -/
theorem ready_readOnce (hf : Fifo False k.Conforms Sound queue sent) {d : Drive π}
    (hd : Ready k Sound queue d) {lba count : Nat} (hlba : lba < 4294967296)
    (hcount : count < 65536) (hlen : count * k.blockSize < 4294967296)
    (hin : lba + count ≤ BlockDevice.blockCount k) :
    IoOn.Ends (readOnce lba count) d
      (fun b d' => Ready k Sound queue d' ∧
        b = k.image.slice (lba * k.blockSize) (count * k.blockSize)) (fun _ _ => False) := by
  apply ends_readOnce
  rw [hd.blockSize]
  refine (ends_command_idle hf hd.toIdle (readCommand_ne_nil lba count)
    (length_readCommand_le lba count) hlen).mono ?_ fun _ _ h => h
  rintro ⟨data, passed⟩ d' ⟨hd', ⟨p, rfl⟩, status, hpassed, hanswer⟩
  obtain ⟨hstatus, hdata⟩ := hanswer.blocks (blocks?_readCommand hlba hcount rfl) hin
    (transferLength_wrapper hlen)
  dsimp only at hpassed hdata ⊢
  subst hstatus hdata
  constructor
  · intro _
    exact ⟨⟨hd', hd.blockSize, hd.blockCount⟩, rfl⟩
  · intro hbad
    exact absurd ⟨hpassed, Image.length_slice _ _ _⟩ hbad

/-- **A read of blocks that are there brings them.** -/
theorem ready_readBlocks (hf : Fifo False k.Conforms Sound queue sent) (hk : k.Addressable)
    {d : Drive π} (hd : Ready k Sound queue d) {lba length : Nat} (hh : k.Holds lba length) :
    ∃ d', readBlocks lba length d = .ok (k.image.slice (lba * k.blockSize) length) d' ∧
      Ready k Sound queue d' := by
  obtain ⟨count, rfl⟩ := hh.whole
  have hdiv : k.blockSize * count / k.blockSize = count := Nat.mul_div_cancel_left count hk.positive
  have hin : lba + count ≤ BlockDevice.blockCount k := by
    have hwithin := hh.within
    rw [Nat.mul_comm k.blockSize count, ← Nat.add_mul] at hwithin
    exact Nat.le_of_mul_le_mul_right hwithin hk.positive
  have hcountable := hk.countable
  obtain ⟨hmost, hfew, hbytes⟩ := commandBlocks_bounds hk.positive hk.small
  have hread : IoOn.Ends (readAlong (cut (commandBlocks k.blockSize) lba count)) d
      (fun b d' => Ready k Sound queue d' ∧ (False → False) ∧
        (b = k.image.slice (lba * k.blockSize) (count * k.blockSize) ∨ False))
      (fun _ _ => False) := by
    refine ends_readAlong (fun _ => False) hmost ?_ ?_ hd hin
    · intro d lba e _ hlba hfar
      omega
    · intro d lba count hd _ hcount hin hlba
      refine (ready_readOnce hf hd hlba (by omega) (hbytes count hcount) hin).mono ?_ fun _ _ h => h
      rintro b d' ⟨hd', hb⟩
      exact ⟨hd', id, .inl hb⟩
  obtain ⟨b, d', hrun, hd', -, hb | hfalse⟩ := hread.exists_ok
  · refine ⟨d', ?_, hd'⟩
    rw [readBlocks_eq, hd.blockSize, hd.blockCount, hdiv, if_neg (by simp), if_neg (by omega), hrun,
      hb, Nat.mul_comm k.blockSize count]
  · exact hfalse.elim

/-- A drive has the contents of the disk behind it, and never fails. -/
theorem faultLog (hf : Fifo False k.Conforms Sound queue sent) (hk : k.Addressable) :
    FaultLog k (Ready k Sound queue) (fun _ : Drive π => []) where
  blockSize hd := hd.blockSize
  blockCount hd := hd.blockCount
  delivers := by
    intro d d' lba length b hd hh hr
    obtain ⟨d₁, hread, hd₁⟩ := ready_readBlocks hf hk hd hh
    cases hread.symm.trans hr
    exact ⟨rfl, hd₁⟩
  fails := by
    intro d d' lba length e hd hh hr
    obtain ⟨d₁, hread, -⟩ := ready_readBlocks hf hk hd hh
    cases hread.symm.trans hr
  quiet _ _ _ := rfl
  noted := by
    intro d d' lba length e hd hh hr
    obtain ⟨d₁, hread, -⟩ := ready_readBlocks hf hk hd hh
    cases hread.symm.trans hr

/-! ## Reads, one after the other -/

/-- The drive and its disk give the same answer to a read of whole blocks: the same bytes, or both
that there is an end before. -/
def Agrees (x y : Except IoError Bytes) : Prop :=
  (∃ b, x = .ok b ∧ y = .ok b) ∨
  (∃ e e', x = .error e ∧ y = .error e' ∧ e.kind = .unexpectedEof ∧ e'.kind = .unexpectedEof)

/-- What is not there is refused at once. -/
theorem readBlocks_past_end {d : Drive π} (hd : Ready k Sound queue d)
    {lba length : Nat} (hwhole : k.blockSize ∣ length) (hh : ¬ k.Holds lba length) :
    readBlocks lba length d = .error ⟨.unexpectedEof, "read past the end of the device"⟩ d := by
  have hpast : BlockDevice.blockCount k < lba + length / k.blockSize := by
    refine Nat.lt_of_not_le fun hle => hh ⟨hwhole, ?_⟩
    have hmul := Nat.mul_le_mul_right k.blockSize hle
    rwa [Nat.add_mul, Nat.div_mul_cancel hwhole] at hmul
  rw [readBlocks_eq, hd.blockSize, hd.blockCount, if_neg (by simp [Nat.mod_eq_zero_of_dvd hwhole]),
    if_pos hpast]

/-- A read leaves a drive ready, whatever is asked for. -/
theorem ready_after (hf : Fifo False k.Conforms Sound queue sent) (hk : k.Addressable)
    (d : Drive π) (lba length : Nat) (hd : Ready k Sound queue d) :
    Ready k Sound queue (IoOn.outcome (readBlocks lba length) d).2 := by
  by_cases hwhole : k.blockSize ∣ length
  · by_cases hh : k.Holds lba length
    · obtain ⟨d', hread, hd'⟩ := ready_readBlocks hf hk hd hh
      rw [IoOn.outcome_ok hread]
      exact hd'
    · rw [IoOn.outcome_error (readBlocks_past_end hd hwhole hh)]
      exact hd
  · have hmod : length % d.blockSize ≠ 0 := by
      rw [hd.blockSize]
      exact fun hzero => hwhole (Nat.dvd_of_mod_eq_zero hzero)
    have hread := readBlocks_eq d lba length
    rw [if_pos hmod] at hread
    rw [IoOn.outcome_error hread]
    exact hd

/-- A ready drive agrees with its disk. -/
theorem agrees_read (hf : Fifo False k.Conforms Sound queue sent) (hk : k.Addressable)
    {d : Drive π} (hd : Ready k Sound queue d) {lba length : Nat} (hwhole : k.blockSize ∣ length) :
    Agrees (IoOn.outcome (readBlocks lba length) d).1 (k.read lba length) := by
  by_cases hh : k.Holds lba length
  · obtain ⟨d', hread, -⟩ := ready_readBlocks hf hk hd hh
    rw [IoOn.outcome_ok hread, Disk.read_of_holds hh]
    exact .inl ⟨_, rfl, rfl⟩
  · have hpast : ¬ lba * k.blockSize + length ≤ k.image.size := by
      intro hfits
      refine hh ⟨hwhole, ?_⟩
      -- whole blocks that fit on the image are blocks of the disk
      obtain ⟨count, rfl⟩ := hwhole
      rw [Nat.mul_comm k.blockSize count, ← Nat.add_mul] at hfits ⊢
      exact Nat.mul_le_mul_right _ ((Nat.le_div_iff_mul_le hk.positive).mpr hfits)
    have hdisk : k.read lba length = .error Disk.pastEnd := by
      simp only [Disk.read, if_neg hpast]
    rw [IoOn.outcome_error (readBlocks_past_end hd hwhole hh), hdisk]
    exact .inr ⟨_, _, rfl, rfl, rfl, rfl⟩

/-- **A drive is told from its disk by nobody.**  Over any pipe with a conforming target, a drive
becomes usable, with the block size and the number of blocks of the disk.  After any reads, a read
of whole blocks brings the bytes that it brings on the disk, or fails past the end on both.  A
session on the drive is refused or opened as on the disk, and answers every call as on the disk. -/
theorem agrees_with_disk (hf : Fifo False k.Conforms Sound queue sent) (hk : k.Addressable) {p : π}
    (hs : Sound p) (hq : queue p = []) :
    ∃ d, ofPipe p = (.ok (), d) ∧ d.blockSize = k.blockSize ∧
      d.blockCount = k.image.size / k.blockSize ∧
      (∀ earlier lba length, k.blockSize ∣ length →
        Agrees (IoOn.outcome (readBlocks lba length) (d.afterReads earlier)).1
          (k.read lba length)) ∧
      ∀ name granted tasks,
        Session.interview name granted (.ok d) tasks =
          Session.interview name granted (.ok k) tasks := by
  have hidle : Idle Sound queue ({ pipe := p } : Drive π) := ⟨rfl, hs, hq⟩
  obtain ⟨u, d, hinit, hd⟩ := (ready_initDrive hf hk hidle).exists_ok
  refine ⟨d, IoOn.outcome_ok hinit, hd.blockSize, hd.blockCount, ?_, ?_⟩
  · intro earlier lba length hwhole
    exact agrees_read hf hk (afterReads_keeps (ready_after hf hk) hd earlier) hwhole
  · intro name granted tasks
    exact Session.interview_eq (faultLog hf hk) name granted hd tasks

/-- Blocks of three bytes, as many as can be numbered, and two more bytes. -/
def oddDisk : Disk where
  image := ⟨12884901890, fun i => UInt8.ofNat (i % 251)⟩
  blockSize := 3

theorem addressable_oddDisk : oddDisk.Addressable := ⟨by decide, by decide, by decide, by decide⟩

theorem addressable_smallDisk : Session.smallDisk.Addressable :=
  ⟨by decide, by decide, by decide, by decide⟩

/-- The last block that can be numbered is read, and a session on a stick is held. -/
theorem agrees_with_disk_last_block :
    (∃ d, ofPipe (Line.serving oddDisk 1) = (.ok (), d) ∧ d.blockSize = 3 ∧
      d.blockCount = 4294967296 ∧
      Agrees (IoOn.outcome (readBlocks 4294967295 3) d).1 (oddDisk.read 4294967295 3) ∧
      (oddDisk.read 4294967295 3).toOption = some [115, 116, 117]) ∧
    (∃ d, ofPipe (Line.serving Session.smallDisk 0) = (.ok (), d) ∧
      Session.interview "stick" true (.ok d) [.list "/", .read "/a"] =
        Session.interview "stick" true (.ok Session.smallDisk) [.list "/", .read "/a"] ∧
      ((Session.interview "stick" true (.ok Session.smallDisk) [.list "/", .read "/a"]).toOption.map
        fun answers => answers.map Except.toOption) =
        some [some (.entries [⟨"A", false⟩]),
          some (.contents (some (Bytes.ofAscii "hi")))]) := by
  constructor
  · obtain ⟨d, hinit, hsize, hcount, hread, -⟩ :=
      agrees_with_disk (Line.fifo_conforms oddDisk) addressable_oddDisk
        (Line.connects_serving addressable_oddDisk 1) rfl
    exact ⟨d, hinit, hsize, hcount, hread [] 4294967295 3 (by decide), by decide⟩
  · obtain ⟨d, hinit, -, -, -, hsession⟩ :=
      agrees_with_disk (Line.fifo_conforms Session.smallDisk) addressable_smallDisk
        (Line.connects_serving addressable_smallDisk 0) rfl
    exact ⟨d, hinit, hsession "stick" true _, by decide +kernel⟩

end Drive
end ThumbDrive

import ThumbDrive.Proofs.Files

/-! # Chunks appended to one buffer

A caller may have a file read into the end of its own buffer, chunk by chunk.  Each call grows the
buffer, reads into the part that has grown and cuts the buffer back: to what was read, or to what it
held before if nothing came or the read failed.  All of this comes to appending the chunk
(`FileStream.appendChunk_eq`).

What one chunk does to the stream is said once (`FileStream.Handed`).  From it follows what any
number of calls come to (`Intake.after`): the stream counts the lengths that were told, it never
counts more than the file is said to have, and once it has ended no call changes anything any more.

The device below may fail whenever it likes and leave anything in the buffer it was given.  Only one
thing is asked of it, which a buffer of fixed size enforces: a read brings no more than there is
room for (`FitsRoom`). -/
namespace ThumbDrive

open Session (answer leaves)

/-! ## Reads and the room for them -/

/-- **A device whose reads bring no more than there is room for.**  It may bring other bytes each
time, and fail at any time. -/
def FitsRoom (δ : Type) [BlockDevice δ] : Prop :=
  ∀ (d : δ) (lba n : Nat),
    IoOn.Ends (BlockDevice.readBlocks lba n) d (fun b _ => b.length ≤ n) fun _ _ => True

/-- A disk that fails on schedule is such a device, whatever it leaves in a buffer. -/
theorem Probe.fitsRoom : FitsRoom Probe := by
  intro p lba n
  show IoOn.Ends (readBlocks lba n) p _ _
  unfold IoOn.Ends
  simp only [readBlocks, IoOn.bind_modify, IoOn.bind_get]
  cases Fault.strike? lba (n / (note (.read lba n) p).disk.blockSize)
      (note (.read lba n) p).faults with
  | some x => exact True.intro
  | none =>
    cases hread : (note (.read lba n) p).disk.read lba n with
    | ok b => exact Nat.le_of_eq (Disk.length_of_read hread)
    | error e => exact True.intro

/-- Of a buffer that has grown and was read into, what was there before and what was read. -/
theorem Bytes.take_append_fill {buffer grown got : Bytes} (h : got.length ≤ grown.length) :
    (buffer ++ fill grown got).take (buffer.length + got.length) = buffer ++ got := by
  rw [List.take_length_add_append, fill, List.take_of_length_le h, List.take_left]

variable {δ : Type} [BlockDevice δ]

namespace BlockStream

theorem length_readDevice_le (hd : FitsRoom δ) (lba n : Nat) (s : BlockStream δ) :
    IoOn.Ends (readDevice lba n) s (fun b _ => b.length ≤ n) fun _ _ => True := by
  have hread := hd s.device (s.firstLba + lba) n
  unfold IoOn.Ends readDevice IoOn.zoom
  cases hr : BlockDevice.readBlocks (s.firstLba + lba) n s.device with
  | ok b d => exact hread.ok hr
  | error e d => exact True.intro

/-- A read past the cache takes whole blocks, and a read from the cache a part of one. -/
theorem length_read_le (hd : FitsRoom δ) (n : Nat) (s : BlockStream δ) :
    IoOn.Ends (read n) s (fun b _ => b.length ≤ n) fun _ _ => True := by
  by_cases ho : s.isOpen = true
  · unfold IoOn.Ends
    rw [read_eq n s ho]
    by_cases hnone : n = 0 ∨ s.length ≤ s.position
    · rw [if_pos hnone]
      exact Nat.zero_le n
    rw [if_neg hnone]
    dsimp only
    by_cases hwhole : s.position % s.blockSize = 0 ∧
        s.blockSize ≤ min (s.length - s.position) n
    · rw [if_pos hwhole]
      have hdirect : min (min (s.length - s.position) n) directLimit / s.blockSize * s.blockSize ≤
          n := by
        refine Nat.le_trans (Nat.div_mul_le_self _ _) ?_
        omega
      generalize min (min (s.length - s.position) n) directLimit / s.blockSize * s.blockSize =
        direct at hdirect ⊢
      have hread := length_readDevice_le hd (s.position / s.blockSize) direct s
      cases hr : readDevice (s.position / s.blockSize) direct s with
      | ok b s' => exact Nat.le_trans (hread.ok hr) hdirect
      | error e s' => exact True.intro
    · rw [if_neg hwhole]
      cases cachedBlock (s.position / s.blockSize) s with
      | ok block s' =>
        refine Nat.le_trans (List.length_take_le _ _) ?_
        omega
      | error e s' => exact True.intro
  · unfold IoOn.Ends
    rw [read_closed n (Bool.not_eq_true _ ▸ ho)]
    exact True.intro

end BlockStream

namespace FileCursor

theorem span_le (v : Volume) (f : FileCursor) (n : Nat) : f.span v n ≤ n := by
  unfold span
  cases f.size with
  | none => exact Nat.min_le_left _ _
  | some size =>
    dsimp only
    omega

theorem length_read_le (hd : FitsRoom δ) (v : Volume) (n : Nat) (f : FileCursor)
    (s : BlockStream δ) :
    IoOn.Ends (read v n) (f, s) (fun b _ => b.length ≤ n) fun _ _ => True := by
  unfold IoOn.Ends read
  dsimp only
  cases f.cluster? v s with
  | error e s' => exact True.intro
  | ok found s' =>
    cases found with
    | none => exact Nat.zero_le n
    | some cluster =>
      have hspan := f.span_le v n
      dsimp only
      cases hcount : f.span v n with
      | zero => exact Nat.zero_le n
      | succ count =>
        rw [hcount] at hspan
        dsimp only
        generalize v.record.clusterStart cluster + f.offset % v.clusterSize = start
        have hread := BlockStream.length_read_le hd (count + 1) { s' with position := start }
        cases hr : BlockStream.readAt start (count + 1) s' with
        | error e s'' => exact True.intro
        | ok got s'' =>
          have hle : got.length ≤ count + 1 := hread.ok hr
          cases got with
          | nil => exact Nat.zero_le n
          | cons b got => exact Nat.le_trans hle hspan

end FileCursor

/-! ## One call -/

namespace FileStream

/-- **What asking for a chunk can do** to a file and the stream it is read from. -/
inductive Handed (f : FileStream) (s : BlockStream δ) :
    EStateM.Result StorageError (FileStream × BlockStream δ) Bytes → Prop where
  /-- It had ended before. -/
  | idle (h : f.cursor = none) : Handed f s (.ok [] (f, s))
  /-- It ends, because the file has no more or the count is full. -/
  | ended (s' : BlockStream δ) : Handed f s (.ok [] ({ f with cursor := none }, s'))
  /-- It hands out a chunk, which is counted. -/
  | chunk (cursor : FileCursor) (s' : BlockStream δ) (got : Bytes) (hpos : 0 < got.length)
      (hle : got.length ≤ f.room) :
      Handed f s
        (.ok got ({ f with cursor := some cursor, bytesRead := f.bytesRead + got.length }, s'))
  /-- It ends, because a read has failed. -/
  | failed (e : StorageError) (s' : BlockStream δ) :
      Handed f s (.error e ({ f with cursor := none }, s'))

theorem room_le_left (f : FileStream) : f.room ≤ f.totalSize - f.bytesRead := by
  unfold room want
  split <;> omega

theorem room_le_chunk (f : FileStream) : f.room ≤ max f.chunkSize 1 := by
  unfold room want
  split <;> omega

theorem handed_readChunk (hd : FitsRoom δ) (f : FileStream) (s : BlockStream δ) :
    Handed f s (readChunk (f, s)) := by
  simp only [readChunk]
  cases hc : f.cursor with
  | none => exact .idle hc
  | some cursor =>
    have hroom : f.room = f.want := by simp [room, hc]
    cases hw : f.want with
    | zero => exact .ended s
    | succ want =>
      dsimp only
      have hread := FileCursor.length_read_le hd f.volume (want + 1) cursor s
      cases hr : FileCursor.read f.volume (want + 1) (cursor, s) with
      | error e z => exact .failed _ z.2
      | ok got z =>
        cases got with
        | nil => exact .ended z.2
        | cons b got =>
          refine .chunk z.1 z.2 (b :: got) (Nat.succ_pos _) ?_
          rw [hroom, hw]
          exact hread.ok hr

omit [BlockDevice δ] in
theorem Handed.length_le {f : FileStream} {s : BlockStream δ} {got : Bytes}
    {z : FileStream × BlockStream δ} (h : Handed f s (.ok got z)) : got.length ≤ f.room := by
  cases h with
  | idle h => exact Nat.zero_le _
  | ended s' => exact Nat.zero_le _
  | chunk cursor s' got hpos hle => exact hle

/-- What a stream answers, with the chunk put behind what a buffer holds. -/
def into (buffer : Bytes) : EStateM.Result StorageError (FileStream × BlockStream δ) Bytes →
    EStateM.Result StorageError (Intake δ) Nat
  | .ok chunk z => .ok chunk.length ⟨z.1, z.2, buffer ++ chunk⟩
  | .error e z => .error e ⟨z.1, z.2, buffer⟩

/-- **Growing, reading and cutting back is appending the chunk**, or nothing if the read fails. -/
theorem appendChunk_eq (hd : FitsRoom δ) (t : Intake δ) :
    appendChunk t = into t.buffer (readChunk (t.file, t.stream)) := by
  have hhanded := handed_readChunk hd t.file t.stream
  unfold appendChunk
  dsimp only
  generalize readChunk (t.file, t.stream) = r at hhanded ⊢
  cases r with
  | ok got z =>
    have hroom : got.length ≤ (List.replicate t.file.room (0 : UInt8)).length := by
      rw [List.length_replicate]
      exact hhanded.length_le
    simp only [Bytes.take_append_fill hroom]
    rfl
  | error e z =>
    -- whatever the device has left lies behind the old end of the buffer
    simp only [List.take_left]
    rfl

namespace Intake
variable {t : Intake δ}

theorem appends_of_ok (hd : FitsRoom δ) {n : Nat} (h : answer (appendChunk t) = .ok n) :
    n ≤ t.file.room ∧ ∃ chunk, answer (readChunk (t.file, t.stream)) = .ok chunk ∧
      chunk.length = n ∧ (leaves (appendChunk t)).buffer = t.buffer ++ chunk := by
  have hhanded := handed_readChunk hd t.file t.stream
  rw [appendChunk_eq hd] at h ⊢
  generalize readChunk (t.file, t.stream) = r at hhanded h ⊢
  cases r with
  | ok chunk z =>
    cases h
    exact ⟨hhanded.length_le, chunk, rfl, rfl, rfl⟩
  | error e z => cases h

theorem keeps_of_error (hd : FitsRoom δ) {e : StorageError}
    (h : answer (appendChunk t) = .error e) :
    answer (readChunk (t.file, t.stream)) = .error e ∧
      (leaves (appendChunk t)).buffer = t.buffer := by
  rw [appendChunk_eq hd] at h ⊢
  generalize readChunk (t.file, t.stream) = r at h ⊢
  cases r with
  | ok chunk z => cases h
  | error e z =>
    cases h
    exact ⟨rfl, rfl⟩

/-- Whoever is told of no bytes, or of a failure, has come to the end. -/
theorem ended_of_nothing (hd : FitsRoom δ)
    (h : answer (appendChunk t) = .ok 0 ∨ ∃ e, answer (appendChunk t) = .error e) :
    (leaves (appendChunk t)).file.cursor = none := by
  have hhanded := handed_readChunk hd t.file t.stream
  rw [appendChunk_eq hd] at h ⊢
  generalize readChunk (t.file, t.stream) = r at hhanded h ⊢
  cases hhanded with
  | idle hnone => exact hnone
  | ended s' => rfl
  | chunk cursor s' got hpos hle =>
    rcases h with h | ⟨e, h⟩
    · have hlength : got.length = 0 := Except.ok.inj h
      omega
    · cases h
  | failed e s' => rfl

/-- On a stream that has ended a call does nothing at all, whatever the device. -/
theorem appendChunk_ended (h : t.file.cursor = none) : appendChunk t = .ok 0 t := by
  have hnone : readChunk (t.file, t.stream) = .ok [] (t.file, t.stream) := by
    simp only [readChunk, h]
  have hroom : t.file.room = 0 := by simp [room, h]
  simp [appendChunk, hnone, hroom, Bytes.fill]

/-! ## Any number of calls -/

/-- Where `k` calls in a row lead. -/
def after (t : Intake δ) : Nat → Intake δ
  | 0 => t
  | k + 1 => leaves (appendChunk (t.after k))

/-- The sum of the lengths that the first `k` calls tell.  A call that fails tells none. -/
def told (t : Intake δ) : Nat → Nat
  | 0 => 0
  | k + 1 => t.told k + (answer (appendChunk (t.after k))).toOption.getD 0

theorem after_add (t : Intake δ) (k j : Nat) : t.after (k + j) = (t.after k).after j := by
  induction j with
  | zero => rfl
  | succ j ih => rw [← Nat.add_assoc, after, after, ih]

/-- What has ended stays as it is, with the stream and the device below. -/
theorem after_ended (h : t.file.cursor = none) (j : Nat) : t.after j = t := by
  induction j with
  | zero => rfl
  | succ j ih => rw [after, ih, appendChunk_ended h, leaves]

/-- A file like `start`, after calls that told `count` bytes. -/
structure Counted (start : FileStream) (count : Nat) (f : FileStream) : Prop where
  totalSize : f.totalSize = start.totalSize
  chunkSize : f.chunkSize = start.chunkSize
  bytesRead : f.bytesRead = start.bytesRead + count
  within : f.bytesRead ≤ f.totalSize

/-- One call counts what it tells. -/
theorem counted_call (hd : FitsRoom δ) {start : FileStream} {count : Nat}
    (h : Counted start count t.file) :
    Counted start (count + (answer (appendChunk t)).toOption.getD 0)
      (leaves (appendChunk t)).file := by
  have hhanded := handed_readChunk hd t.file t.stream
  rw [appendChunk_eq hd]
  generalize readChunk (t.file, t.stream) = r at hhanded ⊢
  cases hhanded with
  | idle hnone => exact h
  | ended s' => exact ⟨h.totalSize, h.chunkSize, h.bytesRead, h.within⟩
  | chunk cursor s' got hpos hle =>
    refine ⟨h.totalSize, h.chunkSize, ?_, ?_⟩
    · show t.file.bytesRead + got.length = start.bytesRead + (count + got.length)
      rw [h.bytesRead, Nat.add_assoc]
    · show t.file.bytesRead + got.length ≤ t.file.totalSize
      -- the room was measured by what is left to be counted
      have hleft := Nat.le_trans hle t.file.room_le_left
      have hwithin := h.within
      omega
  | failed e s' => exact ⟨h.totalSize, h.chunkSize, h.bytesRead, h.within⟩

/-- So do any number of calls. -/
theorem counted_after (hd : FitsRoom δ) (h : t.file.bytesRead ≤ t.file.totalSize) (k : Nat) :
    Counted t.file (t.told k) (t.after k).file := by
  induction k with
  | zero => exact ⟨rfl, rfl, rfl, h⟩
  | succ k ih => exact counted_call hd ih

end Intake

/-- **A file is appended to a buffer chunk by chunk.**  For any entry of any volume taken for a file
of any length, in chunks of any size, over any device, and whatever the buffer holds: a call that
tells `n` has appended the `n` bytes of the next chunk, no more than a chunk may have, and one that
fails has left the buffer as it was.  The stream has counted all that was told, and never more than
the file is said to have.  After a call that tells nothing or fails, every later call tells nothing
and leaves everything as it is, the device included: one that writes down its reads has none to
write down. -/
theorem chunks_appended_in_place (hd : FitsRoom δ) (v : Volume) (e : DirEntry)
    (totalSize chunkSize : Nat) (s : BlockStream δ) (buffer : Bytes) (k : Nat) :
    let file : FileStream := { volume := v, cursor := some (v.fileOf e), chunkSize, totalSize }
    let start : Intake δ := ⟨file, s, buffer⟩
    let before := start.after k
    let call := answer (appendChunk before)
    let next := start.after (k + 1)
    (∀ n, call = .ok n → n ≤ max chunkSize 1 ∧
      ∃ chunk, answer (readChunk (before.file, before.stream)) = .ok chunk ∧ chunk.length = n ∧
        next.buffer = before.buffer ++ chunk) ∧
    (∀ err, call = .error err →
      answer (readChunk (before.file, before.stream)) = .error err ∧
        next.buffer = before.buffer) ∧
    before.file.bytesRead = start.told k ∧ before.file.bytesRead ≤ totalSize ∧
    (call = .ok 0 ∨ (∃ err, call = .error err) → ∀ j,
      answer (appendChunk (start.after (k + 1 + j))) = .ok 0 ∧ start.after (k + 1 + j) = next) := by
  intro file start before call next
  have hcounted : Intake.Counted file (start.told k) before.file :=
    Intake.counted_after (t := start) hd (Nat.zero_le totalSize) k
  refine ⟨?_, ?_, ?_, ?_, ?_⟩
  · intro n hn
    obtain ⟨hroom, hchunk⟩ := Intake.appends_of_ok hd hn
    have hsize : before.file.chunkSize = chunkSize := hcounted.chunkSize
    have hlimit := Nat.le_trans hroom before.file.room_le_chunk
    rw [hsize] at hlimit
    exact ⟨hlimit, hchunk⟩
  · intro err herr
    exact Intake.keeps_of_error hd herr
  · rw [hcounted.bytesRead]
    exact Nat.zero_add _
  · exact Nat.le_trans hcounted.within (Nat.le_of_eq hcounted.totalSize)
  · intro hnothing j
    have hended : next.file.cursor = none := Intake.ended_of_nothing hd hnothing
    have hsame : start.after (k + 1 + j) = next := by
      rw [Intake.after_add]
      exact Intake.after_ended hended j
    rw [hsame, Intake.appendChunk_ended hended]
    exact ⟨rfl, rfl⟩

/-- The disk with the scattered file, whose second cluster cannot be read the first time.  Three
bytes are then left in the buffer. -/
def brittleStream : BlockStream Probe where
  device :=
    { disk := Session.scatteredDisk
      faults := [⟨3, some 1, ⟨.timedOut, "no answer"⟩⟩]
      garble := fun _ => [9, 9, 9] }
  firstLba := 0
  blockCount := 7

/-- Of the scattered file comes a chunk, then a short one that ends with its cluster, then a
failure.  What that has left is not in the buffer, and nothing is read any more, though the next
read would not fail. -/
theorem chunks_appended_in_place_brittle :
    ∃ (opened : Session Disk) (v : Volume) (e : DirEntry),
      Session.openWith "stick" true (.ok Session.scatteredDisk) = .ok opened ∧
      opened.fileAt? "/a" = some (v, e) ∧
      let file : FileStream :=
        { volume := v, cursor := some (v.fileOf e), chunkSize := 300, totalSize := 1100 }
      let start : Intake Probe := ⟨file, brittleStream, [7]⟩
      answer (appendChunk (start.after 1)) = .ok 212 ∧
      (∃ err, answer (appendChunk (start.after 2)) = .error err) ∧
      (start.after 3).buffer = (start.after 2).buffer ∧ (start.after 3).file.bytesRead = 512 ∧
      ∀ j, answer (appendChunk (start.after (3 + j))) = .ok 0 ∧
        start.after (3 + j) = start.after 3 := by
  have hrun : ((Session.openWith "stick" true (.ok Session.scatteredDisk)).toOption.bind fun s =>
      (s.fileAt? "/a").map fun found => [0, 1, 2].map fun k =>
        (answer (appendChunk (Intake.after ⟨{
          volume := found.1, cursor := some (found.1.fileOf found.2), chunkSize := 300,
          totalSize := 1100 }, brittleStream, [7]⟩ k))).toOption) =
      some [some 300, some 212, none] := by decide +kernel
  cases ho : Session.openWith "stick" true (.ok Session.scatteredDisk) with
  | error r =>
    rw [ho] at hrun
    cases hrun
  | ok opened =>
    rw [ho] at hrun
    replace hrun : (opened.fileAt? "/a").map _ = some _ := hrun
    cases hfile : opened.fileAt? "/a" with
    | none =>
      rw [hfile] at hrun
      cases hrun
    | some found =>
      obtain ⟨v, e⟩ := found
      have hcalls := chunks_appended_in_place Probe.fitsRoom v e 1100 300 brittleStream [7]
      refine ⟨opened, v, e, rfl, hfile, ?_⟩
      rw [hfile] at hrun
      dsimp only [Option.map_some] at hrun hcalls ⊢
      generalize (⟨{
        volume := v, cursor := some (v.fileOf e), chunkSize := 300, totalSize := 1100 },
        brittleStream, [7]⟩ : Intake Probe) = start at hrun hcalls ⊢
      simp only [List.map_cons, List.map_nil, Option.some.injEq, List.cons.injEq, and_true] at hrun
      obtain ⟨hfirst, hsecond, hthird⟩ := hrun
      have htold : start.told 3 = 512 := by
        simp only [Intake.told, hfirst, hsecond, hthird, Option.getD_some, Option.getD_none]
      have hshort : answer (appendChunk (start.after 1)) = .ok 212 := by
        cases hanswer : answer (appendChunk (start.after 1)) with
        | ok n =>
          rw [hanswer] at hsecond
          exact congrArg Except.ok (Option.some.inj hsecond)
        | error err =>
          rw [hanswer] at hsecond
          cases hsecond
      cases hfailed : answer (appendChunk (start.after 2)) with
      | ok n =>
        rw [hfailed] at hthird
        cases hthird
      | error err =>
        obtain ⟨-, hkept, -, -, hover⟩ := hcalls 2
        obtain ⟨-, -, hcount, -, -⟩ := hcalls 3
        exact ⟨hshort, ⟨err, rfl⟩, (hkept err hfailed).2, hcount.trans htold,
          hover (.inr ⟨err, hfailed⟩)⟩

end FileStream
end ThumbDrive

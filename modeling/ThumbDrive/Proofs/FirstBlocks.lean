import ThumbDrive.Proofs.Lifetime
import ThumbDrive.Proofs.Progress

/-! # What the first blocks tell

Two blocks decide what is mounted and how it is read.  The first block of a device may hold a table
of four partitions, of which the first used one is wanted (`PartitionTable.Wanted`).  The table is
read all or nothing: next to an entry of an unknown type there is no used one.

The first block of a partition is read twice: as a block, for the number of bytes to ask for at a
time, and as a stream of fields, for the volume.  A stream that shows the window brings the same
bytes, in whatever pieces it is read and whichever reads are tried again, so the two agree.  A
record that can be mounted has a cluster size by the stricter rules for blocks as well. -/
namespace ThumbDrive

/-! ## The table of a device -/

namespace PartitionTable

/-- Entry `i` describes a partition. -/
def Used (b : Bytes) (i : Nat) : Prop :=
  (entryAt b i).type ≠ 0 ∧ (entryAt b i).sectorCount ≠ 0

/-- Entry `i` is the first of the four that describes a partition. -/
structure FirstUsed (b : Bytes) (i : Nat) : Prop where
  inTable : i < 4
  used : Used b i
  first : ∀ j < i, ¬ Used b j

/-- No entry is of an unknown type. -/
def Known (b : Bytes) : Prop := ∀ i < 4, (entryAt b i).type ∈ knownTypes

/-- **The partition that is wanted** on a device with `count` blocks: the first used entry, cut off
at the end of the device, whatever the other entries hold. -/
structure Wanted (b : Bytes) (count : Nat) (p : Option Partition) : Prop where
  entry : ∀ i, FirstUsed b i → p =
    if (entryAt b i).firstLba < count then
      some ⟨(entryAt b i).firstLba,
        min (entryAt b i).sectorCount (count - (entryAt b i).firstLba), some i⟩
    else none
  none : (∀ i < 4, ¬ Used b i) → p = none

instance (b : Bytes) (i : Nat) : Decidable (Used b i) := inferInstanceAs (Decidable (_ ∧ _))

instance (b : Bytes) : Decidable (Known b) := inferInstanceAs (Decidable (∀ i < 4, _))

variable {b : Bytes}

theorem isUsed_iff {i : Nat} : (entryAt b i).isUsed = true ↔ Used b i := by
  simp only [Entry.isUsed, Used, Bool.and_eq_true, bne_iff_ne, decide_eq_true_eq,
    Nat.pos_iff_ne_zero]

theorem FirstUsed.unique {i j : Nat} (hi : FirstUsed b i) (hj : FirstUsed b j) : i = j := by
  rcases Nat.lt_trichotomy i j with hlt | heq | hlt
  · exact absurd hi.used (hj.first i hlt)
  · exact heq
  · exact absurd hj.used (hi.first j hlt)

theorem parse?_of_known (hsigned : BootSector.isSigned b = true) (h : Known b) :
    parse? b = some ((List.range 4).map (entryAt b)) := by
  unfold parse?
  rw [if_pos]
  simpa [hsigned, Known] using h

theorem parse?_of_not_known (h : ¬ Known b) : parse? b = none := by
  unfold parse?
  rw [if_neg]
  intro hall
  apply h
  simpa [Known] using (Bool.and_eq_true_iff.mp hall).2

/-- The search finds the first used entry. -/
theorem firstUsed_of_find? {e : Entry} {i : Nat}
    (h : (((List.range 4).map (entryAt b)).zipIdx.find? fun x => x.1.isUsed) = some (e, i)) :
    FirstUsed b i ∧ e = entryAt b i := by
  obtain ⟨hused, j, hj, hget, hfirst⟩ := List.find?_eq_some_iff_getElem.mp h
  simp only [List.getElem_zipIdx, List.getElem_map, List.getElem_range, Nat.zero_add,
    Prod.mk.injEq] at hget
  obtain ⟨rfl, rfl⟩ := hget
  refine ⟨⟨by simpa using hj, isUsed_iff.mp hused, ?_⟩, rfl⟩
  intro m hm
  have hunused := hfirst m hm
  simp only [List.getElem_zipIdx, List.getElem_map, List.getElem_range,
    Bool.not_eq_true'] at hunused
  rw [← isUsed_iff, hunused]
  exact Bool.false_ne_true

theorem not_used_of_find?
    (h : (((List.range 4).map (entryAt b)).zipIdx.find? fun x => x.1.isUsed) = none) :
    ∀ i < 4, ¬ Used b i := by
  intro i hi
  have hin : (entryAt b i, i) ∈ ((List.range 4).map (entryAt b)).zipIdx := by
    simp [List.mem_zipIdx_iff_getElem?, hi]
  rw [← isUsed_iff]
  exact List.find?_eq_none.mp h _ hin

end PartitionTable

namespace Partition

open PartitionTable (Used FirstUsed Known Wanted entryAt)

variable {b : Bytes} {count : Nat}

/-- A table without unknown types gives the partition that is wanted. -/
theorem ofBlock_wanted (hsigned : BootSector.isSigned b = true)
    (hfat : BootSector.looksLikeFat b = false) (h : Known b) :
    Wanted b count (Finding.ofBlock b count).partition? := by
  unfold Finding.ofBlock
  rw [hfat, if_neg Bool.false_ne_true, PartitionTable.parse?_of_known hsigned h]
  dsimp only
  split
  · next hnone =>
    have hunused := PartitionTable.not_used_of_find? hnone
    exact ⟨fun i hi => absurd hi.used (hunused i hi.inTable), fun _ => rfl⟩
  · next e i hsome =>
    obtain ⟨hfirst, rfl⟩ := PartitionTable.firstUsed_of_find? hsome
    refine ⟨?_, fun hunused => absurd hfirst.used (hunused i hfirst.inTable)⟩
    intro j hj
    obtain rfl := hfirst.unique hj
    by_cases hbeyond : count ≤ (entryAt b i).firstLba
    · rw [if_pos hbeyond, if_neg (by omega)]
      rfl
    · rw [if_neg hbeyond, if_pos (by omega)]
      rfl

theorem ofBlock_neither (hfat : BootSector.looksLikeFat b = false) (h : ¬ Known b) :
    Finding.ofBlock b count = .neither := by
  unfold Finding.ofBlock
  rw [hfat, if_neg Bool.false_ne_true, PartitionTable.parse?_of_not_known h]

/-- No partition is what is wanted only if the first used entry is not on the device. -/
theorem wanted_none_iff :
    Wanted b count none ↔ ∀ i, FirstUsed b i → count ≤ (entryAt b i).firstLba := by
  constructor
  · intro h i hi
    have hentry := h.entry i hi
    split at hentry
    · cases hentry
    · omega
  · intro h
    refine ⟨fun i hi => ?_, fun _ => rfl⟩
    have hbeyond := h i hi
    rw [if_neg (by omega)]

/-- **An entry of an unknown type hides the used ones.**  On every device with blocks that are large
enough, whose first block can be read, is signed and is no boot sector of a filesystem: what is
found is the first used entry of the table, cut off at the end of the device, if all four types are
known.  Otherwise nothing is found, as if there were no table; so a used entry that starts on the
device is missed exactly if there is an unknown type in any of the four. -/
theorem used_entry_found_iff {δ : Type} [BlockDevice δ] {d d' : δ} {b : Bytes}
    (hsize : 512 ≤ BlockDevice.blockSize d) (hcount : 0 < BlockDevice.blockCount d)
    (hread : BlockDevice.readBlocks 0 (BlockDevice.blockSize d) d = .ok b d')
    (hsigned : BootSector.isSigned b = true) (hfat : BootSector.looksLikeFat b = false) :
    ∃ f, Partition.find d = .ok f d' ∧
      (Wanted b (BlockDevice.blockCount d) f.partition? ↔
        Known b ∨ ∀ i, FirstUsed b i → BlockDevice.blockCount d ≤ (entryAt b i).firstLba) ∧
      (¬ Known b → f = .neither) := by
  refine ⟨Finding.ofBlock b (BlockDevice.blockCount d), ?_, ?_, ofBlock_neither hfat⟩
  · show look (BlockDevice.blockSize d) (BlockDevice.blockCount d) d = _
    have hlarge : ¬ (BlockDevice.blockCount d = 0 ∨ BlockDevice.blockSize d < BootSector.size) := by
      unfold BootSector.size
      omega
    unfold look
    rw [if_neg hlarge, IoOn.bind_ok hread]
    rfl
  · by_cases hknown : Known b
    · exact ⟨fun _ => .inl hknown, fun _ => ofBlock_wanted hsigned hfat hknown⟩
    · rw [ofBlock_neither hfat hknown]
      exact wanted_none_iff.trans ⟨.inr, fun h => h.resolve_left hknown⟩

/-- Eight blocks with a table: its first entry has four blocks from the third on, the second entry
has no blocks and the given type. -/
def tabledDisk (type : UInt8) : Disk where
  image :=
    Image.zeros 4096
      |>.overlay 450 (.ofBytes [0x0C, 0, 0, 0, 2, 0, 0, 0, 4, 0, 0, 0])
      |>.overlay 466 (.ofBytes [type])
      |>.overlay 510 (.ofBytes [0x55, 0xAA])

/-- Nothing else differs between a table whose first partition is found and one whose first
partition is not. -/
theorem used_entry_hidden_by_unused :
    (∃ f, Partition.find (tabledDisk 0x07) = .ok f (tabledDisk 0x07) ∧
      f.partition? = some ⟨2, 4, some 0⟩) ∧
    FirstUsed ((tabledDisk 0x05).image.slice 0 512) 0 ∧
    ∃ f, Partition.find (tabledDisk 0x05) = .ok f (tabledDisk 0x05) ∧
      ¬ Wanted ((tabledDisk 0x05).image.slice 0 512) 8 f.partition? ∧ f.partition? = none := by
  have hfirst : ∀ type, type = 0x07 ∨ type = 0x05 →
      FirstUsed ((tabledDisk type).image.slice 0 512) 0 := by
    rintro type (rfl | rfl)
    · exact ⟨by decide, by decide +kernel, by decide⟩
    · exact ⟨by decide, by decide +kernel, by decide⟩
  refine ⟨?_, hfirst 0x05 (.inr rfl), ?_⟩
  · obtain ⟨f, hfind, hwanted, -⟩ := used_entry_found_iff (d := tabledDisk 0x07)
      (b := (tabledDisk 0x07).image.slice 0 512) (by decide +kernel) (by decide +kernel) rfl
      (by decide +kernel) (by decide +kernel)
    refine ⟨f, hfind, ?_⟩
    rw [(hwanted.mpr (.inl (by decide +kernel))).entry 0 (hfirst 0x07 (.inl rfl))]
    decide +kernel
  · obtain ⟨f, hfind, hwanted, hneither⟩ := used_entry_found_iff (d := tabledDisk 0x05)
      (b := (tabledDisk 0x05).image.slice 0 512) (by decide +kernel) (by decide +kernel) rfl
      (by decide +kernel) (by decide +kernel)
    have hunknown : ¬ Known ((tabledDisk 0x05).image.slice 0 512) := by decide +kernel
    refine ⟨f, hfind, fun h => ?_, by rw [hneither hunknown]; rfl⟩
    have hbeyond := (hwanted.mp h).resolve_left hunknown 0 (hfirst 0x05 (.inr rfl))
    revert hbeyond
    decide +kernel

end Partition

/-! ## The record of a partition -/

namespace BlockStream
variable {δ : Type} [BlockDevice δ] {Sound : δ → Prop} {w : Window} {s s' : BlockStream δ}

/-- An open stream of the window that stands at a position. -/
structure At (Sound : δ → Prop) (w : Window) (position : Nat) (s : BlockStream δ) : Prop where
  shows : Shows Sound w s
  isOpen : s.isOpen = true
  position : s.position = position

namespace At
variable {position : Nat} {b : Bytes}

/-- **A buffer that is filled** has the next bytes of the window, however many reads it took and
whichever of them were tried again. -/
theorem readWithin (hd : FixedContents w.disk Sound) (rounds : Nat) {n : Nat}
    (hs : At Sound w position s) (h : readWithin read rounds n s = .ok b s') :
    b = w.slice position n ∧ At Sound w (position + n) s' := by
  induction rounds generalizing n position s b with
  | zero =>
    cases n with
    | zero =>
      cases h
      exact ⟨rfl, hs⟩
    | succ n => cases h
  | succ rounds ih =>
    cases n with
    | zero =>
      cases h
      exact ⟨rfl, hs⟩
    | succ n =>
      rcases read_cases hd hs.shows hs.isOpen (n + 1)
        with ⟨s₁, hread, hshows, hp, ho, -⟩ | ⟨e, s₁, hread, hshows, hp, ho, -⟩
      · rw [hs.position] at hread hp
        have hasked := w.span_le_asked position (n + 1)
        generalize w.span position (n + 1) = k at hread hp hasked
        cases k with
        | zero =>
          rw [Pairing.readWithin_nil hread] at h
          cases h
        | succ k =>
          obtain ⟨first, got, hgot, hcount⟩ :=
            exists_cons_of_length (w.length_slice position (k + 1))
          rw [hgot] at hread
          rw [Pairing.readWithin_cons hread] at h
          split at h
          · next rest s₂ hrest =>
            cases h
            obtain ⟨hbytes, hat⟩ := ih ⟨hshows, ho, hp⟩ hrest
            rw [hcount] at hbytes hat
            rw [← hgot, hbytes, w.slice_append]
            rw [show position + (k + 1) + (n - k) = position + (n + 1) by omega] at hat
            exact ⟨by congr 1; omega, hat⟩
          · cases h
      · rw [Pairing.readWithin_error hread] at h
        split at h
        · exact ih ⟨hshows, ho, hp.trans hs.position⟩ h
        · cases h

theorem readExact (hd : FixedContents w.disk Sound) {n : Nat} (hs : At Sound w position s)
    (h : readExact read n s = .ok b s') :
    b = w.slice position n ∧ At Sound w (position + n) s' :=
  hs.readWithin hd _ h

/-- Pieces that are filled one after the other lie side by side in the window. -/
theorem readPieces (hd : FixedContents w.disk Sound) {lengths : List Nat}
    (hs : At Sound w position s) (h : readPieces read lengths s = .ok b s') :
    b = w.slice position (lengths.foldr (· + ·) 0) ∧
      At Sound w (position + lengths.foldr (· + ·) 0) s' := by
  unfold ThumbDrive.readPieces at h
  rw [← List.nil_append (w.slice position _)]
  generalize ([] : Bytes) = got at h ⊢
  induction lengths generalizing got position s with
  | nil =>
    cases h
    exact ⟨(List.append_nil b).symm, hs⟩
  | cons n lengths ih =>
    rw [List.foldlM_cons] at h
    obtain ⟨got', s₁, hfirst, hrest⟩ := IoOn.of_bind_ok h
    obtain ⟨piece, s₂, hpiece, hjoined⟩ := IoOn.of_bind_ok hfirst
    obtain ⟨rfl, hs₂⟩ := hs.readExact hd hpiece
    cases hjoined
    obtain ⟨hb, hs'⟩ := ih hs₂ _ hrest
    rw [List.append_assoc, w.slice_append] at hb
    rw [List.foldr_cons, ← Nat.add_assoc]
    exact ⟨hb, hs'⟩

end At
end BlockStream

namespace Volume
variable {δ : Type} [BlockDevice δ] {Sound : δ → Prop} {w : Window} {s s' : BlockStream δ}

/-- The fields of a boot sector, whichever there are, are the first 512 bytes of the window. -/
theorem readBootRecord_ok (hd : FixedContents w.disk Sound) (hs : BlockStream.At Sound w 0 s)
    {r : BootRecord} (h : readBootRecord s = .ok r s') :
    r = BootRecord.ofBytes (w.slice 0 512) := by
  unfold readBootRecord at h
  obtain ⟨head, s₁, hhead, h⟩ := IoOn.of_bind_ok h
  obtain ⟨tail, s₂, htail, h⟩ := IoOn.of_bind_ok h
  obtain ⟨rfl, hs₁⟩ := hs.readPieces hd hhead
  obtain ⟨rfl, -⟩ := hs₁.readPieces hd htail
  cases h
  have hcommon : commonFields.foldr (· + ·) 0 = 36 := by decide
  have hfurther : ∀ isWide, (furtherFields isWide).foldr (· + ·) 0 = 476 := by decide
  rw [hfurther, hcommon, w.slice_append]

/-- The volume that is mounted has the record of the first 512 bytes. -/
theorem mount_record (hd : FixedContents w.disk Sound) (hs : BlockStream.At Sound w 0 s)
    {v : Volume} (h : mount s = .ok v s') : v.record = BootRecord.ofBytes (w.slice 0 512) := by
  have hends : IoOn.Ends mount s (fun v _ => v.record = BootRecord.ofBytes (w.slice 0 512))
      (fun _ _ => True) := by
    unfold mount
    refine (IoOn.Ends.of_ok fun record s₁ hrecord => ?_).bind
    rw [← readBootRecord_ok hd hs hrecord]
    split
    · exact True.intro
    · split
      · exact (IoOn.Ends.of_ok fun _ _ _ => rfl).bind
      · rfl
  exact hends.ok h

/-- Sectors have one of four sizes. -/
theorem bytesPerSector_mem (v : Volume) : v.record.bytesPerSector ∈ [512, 1024, 2048, 4096] := by
  have hsmall := v.le_bytesPerSector
  have hlarge : decide (4096 < v.record.bytesPerSector) = false :=
    v.lacks .sectorSizeTooLarge (by simp [BootRecord.flaws])
  have hpower : (!((List.range 16).map (Nat.pow 2)).contains v.record.bytesPerSector) = false :=
    v.lacks .sectorSizeNotPowerOfTwo (by simp [BootRecord.flaws])
  have hchoice : ∀ n ∈ (List.range 16).map (Nat.pow 2), 512 ≤ n → ¬ 4096 < n →
      n ∈ [512, 1024, 2048, 4096] := by decide
  refine hchoice _ ?_ hsmall (of_decide_eq_false hlarge)
  simpa only [Bool.not_eq_false', List.contains_eq_mem, decide_eq_true_eq] using hpower

end Volume

namespace BootSector

/-- A volume that can be mounted passes the rules for a block that starts with its record. -/
theorem clusterSize?_of_volume {v : Volume} {b : Bytes} (hlength : 14 ≤ b.length)
    (hsector : Bytes.word16 b 11 = v.record.bytesPerSector)
    (hcluster : Bytes.byteAt b 13 = v.record.sectorsPerCluster) :
    clusterSize? b = some v.clusterSize := by
  have hchoice : ∀ n ∈ (List.range 16).map (Nat.pow 2), n < 256 → isPowerOfTwo n = true := by
    decide
  have hbyte : v.record.sectorsPerCluster < 256 := by
    rw [← hcluster]
    exact UInt8.toNat_lt _
  have hpower := hchoice _ v.sectorsPerCluster_mem hbyte
  have hsize : [512, 1024, 2048, 4096].contains v.record.bytesPerSector = true :=
    List.contains_iff_mem.mpr v.bytesPerSector_mem
  unfold clusterSize?
  dsimp only
  rw [hsector, hcluster, if_pos ⟨hlength, hsize, hpower⟩]
  rfl

end BootSector

namespace Session
variable {δ : Type} [BlockDevice δ] {Sound : δ → Prop}

/-- Tasks move and read the stream of the session, and change nothing else. -/
theorem askAll_mounted {s : Session δ} {v : Volume} {x : BlockStream δ}
    (hs : s.state = .mounted v x) (tasks : List FileTask) :
    ∃ y, BlockStream.Reaches x y ∧ s.askAll tasks = { s with state := .mounted v y } := by
  induction tasks generalizing s x with
  | nil => exact ⟨x, .start, by rw [← hs]; rfl⟩
  | cons task tasks ih =>
    obtain ⟨y, hreach, hask⟩ := ask_mounted hs task
    obtain ⟨z, hreach', hall⟩ := ih (s := (s.ask task).2) (x := y) (by rw [hask])
    refine ⟨z, hreach.trans hreach', ?_⟩
    show (s.ask task).2.askAll tasks = _
    rw [hall, hask]

/-- A session has the volume that its partition describes, and found its chunk size in the first
block of that partition if one is there. -/
theorem mount_fixed {k : Disk} (hd : FixedContents k Sound) {name : String} {d : δ} (hs : Sound d)
    {s : Session δ} (h : mount name d = .ok s) :
    let start := s.partition.firstLba * k.blockSize
    512 ≤ k.blockSize ∧
    s.chunkSize =
      (BootSector.clusterSize? (k.image.slice start k.blockSize)).getD fallbackChunkSize ∧
    ∃ v x, s.state = .mounted v x ∧ v.record = BootRecord.ofBytes (k.image.slice start 512) := by
  unfold mount at h
  split at h
  · cases h
  · cases h
  · next q b d' hfind =>
    obtain ⟨hs', hlarge, hin, rfl⟩ := findPartition_fixed hd hs hfind
    let w : Window := ⟨k, q.firstLba, q.blockCount, Nat.lt_of_lt_of_le (by decide) hlarge, hin⟩
    have hat : BlockStream.At Sound w 0
        { device := d', firstLba := q.firstLba, blockCount := q.blockCount } :=
      ⟨BlockStream.shows_new hs', rfl, rfl⟩
    dsimp only at h
    split at h
    · cases h
    · next v x hv =>
      cases h
      exact ⟨hlarge, rfl, v, x, rfl, Volume.mount_record hd hat hv⟩

/-- **A file is asked for in clusters.**  On every device with fixed contents, whatever its block
size and whether it has a table of partitions, and after any calls: a session has the volume that
the first 512 bytes of its partition describe, and its chunks have the size of that volume's
clusters.  The size is always found in the first block, so none is made up. -/
theorem chunk_is_one_cluster {k : Disk} (hd : FixedContents k Sound) {name : String}
    {granted : Bool} {d : δ} (hs : Sound d) {opened : Session δ}
    (ho : openWith name granted (.ok d) = .ok opened) (earlier : List FileTask) :
    let s := opened.askAll earlier
    let start := s.partition.firstLba * k.blockSize
    let boot := k.image.slice start 512
    ∃ v x, s.state = .mounted v x ∧ v.record = BootRecord.ofBytes boot ∧
      s.chunkSize = v.clusterSize ∧
      v.clusterSize = Bytes.word16 boot 11 * Bytes.byteAt boot 13 ∧
      BootSector.clusterSize? (k.image.slice start k.blockSize) = some s.chunkSize := by
  obtain ⟨rfl, hmount⟩ := openWith_ok ho
  obtain ⟨hlarge, hchunk, v, x, hstate, hrecord⟩ := mount_fixed hd hs hmount
  obtain ⟨y, -, hall⟩ := askAll_mounted hstate earlier
  rw [hall]
  intro s start boot
  have hfields : v.record.bytesPerSector = Bytes.word16 boot 11 ∧
      v.record.sectorsPerCluster = Bytes.byteAt boot 13 := by
    rw [hrecord]
    exact ⟨BootRecord.bytesPerSector_ofBytes boot, BootRecord.sectorsPerCluster_ofBytes boot⟩
  -- the fields are at the same places of the whole block
  have hsector : Bytes.word16 (k.image.slice start k.blockSize) 11 = v.record.bytesPerSector := by
    rw [hfields.1, Bytes.word16, Bytes.word16, Image.slice_slice _ (by omega),
      Image.slice_slice _ (by omega)]
  have hcluster : Bytes.byteAt (k.image.slice start k.blockSize) 13 =
      v.record.sectorsPerCluster := by
    rw [hfields.2, Bytes.byteAt_eq_slice, Bytes.byteAt_eq_slice boot,
      Image.slice_slice _ (by omega), Image.slice_slice _ (by omega)]
  have hsize : BootSector.clusterSize? (k.image.slice start k.blockSize) = some v.clusterSize :=
    BootSector.clusterSize?_of_volume (by rw [Image.length_slice]; omega) hsector hcluster
  have hfound : s.chunkSize = v.clusterSize :=
    hchunk.trans (congrArg (Option.getD · fallbackChunkSize) hsize)
  refine ⟨v, y, rfl, hrecord, hfound, ?_, by rw [hsize, hfound]⟩
  rw [← hfields.1, ← hfields.2]
  rfl

/-- Eight blocks of 1024 bytes.  A table names the seven from the second on, which have a filesystem
with sectors of half a block and two of them to a cluster. -/
def partitionedDisk : Disk where
  blockSize := 1024
  image :=
    Image.zeros 8192
      |>.overlay 450 (.ofBytes [0x01, 0, 0, 0, 1, 0, 0, 0, 7, 0, 0, 0])
      |>.overlay 510 (.ofBytes [0x55, 0xAA])
      |>.overlay 1024 (.ofBytes [0xEB, 0x3C, 0x90, 0, 0, 0, 0, 0, 0, 0, 0,
        0, 2, 2, 1, 0, 1, 16, 0, 14, 0, 0xF8, 1, 0])
      |>.overlay 1534 (.ofBytes [0x55, 0xAA])

/-- Chunks of 1024 bytes, also after a call. -/
theorem chunk_is_one_cluster_partitioned :
    ∃ (opened : Session Disk) (v : Volume) (x : BlockStream Disk),
      openWith "stick" true (.ok partitionedDisk) = .ok opened ∧
      (opened.askAll [.list "/"]).partition = ⟨1, 7, some 0⟩ ∧
      (opened.askAll [.list "/"]).state = .mounted v x ∧
      (opened.askAll [.list "/"]).chunkSize = v.clusterSize ∧ v.clusterSize = 1024 := by
  have hrun : (openWith "stick" true (.ok partitionedDisk)).toOption.map
      (fun s => (s.askAll [.list "/"]).partition) = some ⟨1, 7, some 0⟩ := by decide +kernel
  cases ho : openWith "stick" true (.ok partitionedDisk) with
  | error r =>
    rw [ho] at hrun
    cases hrun
  | ok opened =>
    rw [ho] at hrun
    have hpartition : (opened.askAll [.list "/"]).partition = ⟨1, 7, some 0⟩ :=
      Option.some.inj hrun
    obtain ⟨v, x, hstate, -, hchunk, hcluster, -⟩ := chunk_is_one_cluster
      (Disk.faultLog partitionedDisk).toFixedContents rfl ho [.list "/"]
    refine ⟨opened, v, x, rfl, hpartition, hstate, hchunk, ?_⟩
    rw [hcluster, hpartition]
    decide +kernel

end Session
end ThumbDrive

import ThumbDrive.Fat.File
import ThumbDrive.Proofs.Stream

/-! # Volumes on a device that fails

Whatever is read from a volume is read from one block stream, whose position and cache are shared
by all readers.  After the mount every read says where it reads, so what a stream was used for
before makes no difference to it: streams belong together as soon as they show the same window
(`Window.streams`), wherever they stand and whatever they have cached.  Only the mount reads on
from where the stream stands (`Window.aligned`).

With that, an allocation table and a file on a device that fails are read in step with the same
table and file on the bare disk. -/
namespace ThumbDrive

/-! ## Streams that belong together -/

namespace Window
variable {δ : Type} (w : Window) (Sound : δ → Prop) (failures : δ → List IoError)

/-- Open streams of the same window, over a device and over the disk itself. -/
def streams : Pairing (BlockStream δ) (BlockStream Disk) where
  Rel s t := (BlockStream.Shows Sound w s ∧ s.isOpen = true) ∧
    (BlockStream.Shows (fun d => d = w.disk) w t ∧ t.isOpen = true)
  failures s := failures s.device

/-- Streams that stand at the same place, too. -/
def aligned : Pairing (BlockStream δ) (BlockStream Disk) where
  Rel s t := (w.streams Sound failures).Rel s t ∧ s.position = t.position
  failures s := failures s.device

end Window

namespace Pairing
variable {σ τ : Type}

/-- The same place in a file, a directory or a region, beside states that belong together. -/
def beside (κ : Type) (p : Pairing σ τ) : Pairing (κ × σ) (κ × τ) where
  Rel x y := x.1 = y.1 ∧ p.Rel x.2 y.2
  failures x := p.failures x.2

theorem Since.beside {κ : Type} {p : Pairing σ τ} {es : List IoError} {s s' : σ}
    (h : p.Since es s s') (c c' : κ) : (p.beside κ).Since es (c, s) (c', s') := h

end Pairing

variable {δ : Type} [BlockDevice δ] {Sound : δ → Prop} {failures : δ → List IoError} {w : Window}

omit [BlockDevice δ] in
/-- Streams belong together or not each for itself. -/
theorem Window.streams_swap {s s' : BlockStream δ} {t : BlockStream Disk}
    (h : (w.streams Sound failures).Live s') (h' : (w.streams Sound failures).Rel s t) :
    (w.streams Sound failures).Rel s' t := by
  obtain ⟨t', hs, -⟩ := h
  exact ⟨hs, h'.2⟩

namespace BlockStream

/-- The bare disk never fails a stream. -/
theorem read_disk {t : BlockStream Disk} (h : Shows (fun d => d = w.disk) w t)
    (ho : t.isOpen = true) (n : Nat) :
    ∃ t', read n t = .ok (w.slice t.position (w.span t.position n)) t' ∧
      Shows (fun d => d = w.disk) w t' ∧ t'.position = t.position + w.span t.position n ∧
      t'.isOpen = true := by
  have hd := Disk.faultLog w.disk
  rcases read_cases hd.toFixedContents h ho n with ⟨t', hr, hs, hp, ho', -⟩ |
    ⟨e, t', -, -, -, -, hstep⟩
  · exact ⟨t', hr, hs, hp, ho'⟩
  · have hlog := hd.failures_step (h.sound ho) hstep
    simp at hlog

/-- Reading on from the same place. -/
theorem reads_read (hd : FaultLog w.disk Sound failures) :
    (w.aligned Sound failures).Reads read read := by
  rintro n s t ⟨⟨⟨hs, ho⟩, ht, ho'⟩, hp⟩
  obtain ⟨t', hrt, ht', hpt, hot⟩ := read_disk ht ho' n
  rw [hrt, ← hp]
  rcases read_cases hd.toFixedContents hs ho n with ⟨s', hr, hs', hps, hos, hstep⟩ |
    ⟨e, s', hr, hs', hps, hos, hstep⟩
  · rw [hr]
    refine .ok ⟨⟨⟨hs', hos⟩, ht', hot⟩, ?_⟩ (hd.failures_step (hs.sound ho) hstep)
    rw [hps, hpt, hp]
  · rw [hr]
    refine .failed ⟨⟨⟨hs', hos⟩, ht, ho'⟩, hps.trans hp⟩
      (hd.failures_step (hs.sound ho) hstep) (List.cons_ne_nil _ _) ?_
    intro _
    exact List.mem_singleton.mpr rfl

/-- Reading at a place says where it reads: the streams may have stood anywhere. -/
theorem follows_readAt (hd : FaultLog w.disk Sound failures) (position n : Nat) :
    (w.streams Sound failures).Follows (readAt position n) (readAt position n) := by
  rintro s t ⟨⟨hs, ho⟩, ht, ho'⟩
  have hmoved := reads_read hd n { s with position } { t with position }
    ⟨⟨⟨hs.move position, ho⟩, ht.move position, ho'⟩, rfl⟩
  show (w.streams Sound failures).InStep _ s (read n { s with position })
    (read n { t with position })
  generalize read n { s with position } = x, read n { t with position } = y at hmoved ⊢
  cases hmoved with
  | ok hr hs' => exact .ok hr.1 hs'
  | error hr hs' hk => exact .error hr.1 hs' hk
  | failed hr hs' hne hend => exact .failed ⟨_, hr.1⟩ hs' hne hend

end BlockStream

/-! ## Regions and the allocation table -/

namespace Region

/-- A read in a region, by the read of the stream it is made of. -/
theorem read_eq (r : Region) (n offset : Nat) (s : BlockStream δ) :
    r.read n (offset, s) =
      match BlockStream.readAt (r.start + offset) (min (r.size - offset) n) s with
      | .ok got s => .ok got (offset + got.length, s)
      | .error e s => .error e (offset, s) := by
  simp only [read, IoOn.bind_apply, IoOn.get_apply, IoOn.modify_apply, IoOn.zoom]
  cases BlockStream.readAt (r.start + offset) (min (r.size - offset) n) s <;> rfl

theorem reads_read (hd : FaultLog w.disk Sound failures) (r : Region) :
    ((w.streams Sound failures).beside Nat).Reads r.read r.read := by
  rintro n ⟨offset, s⟩ ⟨offset', t⟩ ⟨ho, hst⟩
  obtain rfl : offset = offset' := ho
  rw [read_eq, read_eq]
  have hread :=
    BlockStream.follows_readAt hd (r.start + offset) (min (r.size - offset) n) s t hst
  generalize BlockStream.readAt (r.start + offset) (min (r.size - offset) n) s = x,
    BlockStream.readAt (r.start + offset) (min (r.size - offset) n) t = y at hread ⊢
  cases hread with
  | ok hr hs => exact .ok ⟨rfl, hr⟩ hs
  | error hr hs hk => exact .error ⟨rfl, hr⟩ hs hk
  | failed hr hs hne hend => exact .failed ⟨rfl, Window.streams_swap hr hst⟩ hs hne hend

theorem follows_readExactAt (hd : FaultLog w.disk Sound failures) (r : Region) (offset n : Nat) :
    (w.streams Sound failures).Follows (r.readExactAt offset n) (r.readExactAt offset n) := by
  intro s t hst
  unfold readExactAt
  split
  · exact .error hst (Pairing.Since.refl s) (by decide)
  · have hread := (reads_read hd r).readExact n (offset, s) (offset, t) ⟨rfl, hst⟩
    generalize readExact r.read n (offset, s) = x, readExact r.read n (offset, t) = y at hread ⊢
    cases hread with
    | ok hr hs => exact .ok hr.2 hs
    | error hr hs hk => exact .error hr.2 hs hk
    | failed hr hs hne hend =>
      obtain ⟨⟨offset', t'⟩, -, hr⟩ := hr
      exact .failed ⟨t', hr⟩ hs hne hend

end Region

namespace Volume

theorem follows_nextCluster? (hd : FaultLog w.disk Sound failures) (v : Volume) (cluster : Nat) :
    (w.streams Sound failures).Follows (v.nextCluster? cluster) (v.nextCluster? cluster) :=
  (Region.follows_readExactAt hd v.fat _ _).bind fun entry =>
    Pairing.Follows.pure (v.fatType.next? cluster (Bytes.ofLittle entry))

end Volume

/-! ## Records that can be mounted -/

namespace Volume

/-- No flaw applies to the record of a volume. -/
theorem lacks (v : Volume) (flaw : BootRecord.Flaw) {applies : Bool}
    (h : (applies, flaw) ∈ v.record.flaws) : applies = false := by
  have hnone := v.sound
  unfold BootRecord.flaw? at hnone
  rw [Option.map_eq_none_iff, List.find?_eq_none] at hnone
  exact Bool.not_eq_true _ ▸ hnone (applies, flaw) h

theorem le_bytesPerSector (v : Volume) : 512 ≤ v.record.bytesPerSector := by
  have hflaw : decide (v.record.bytesPerSector < 512) = false :=
    v.lacks .sectorSizeTooSmall (by simp [BootRecord.flaws])
  simpa using hflaw

/-- Sectors per cluster are a power of two. -/
theorem sectorsPerCluster_mem (v : Volume) :
    v.record.sectorsPerCluster ∈ (List.range 16).map (Nat.pow 2) := by
  have hflaw : (!((List.range 16).map (Nat.pow 2)).contains v.record.sectorsPerCluster) = false :=
    v.lacks .clusterNotPowerOfTwo (by simp [BootRecord.flaws])
  simpa only [Bool.not_eq_false', List.contains_eq_mem, decide_eq_true_eq] using hflaw

/-- A volume that can be mounted has clusters of at least one byte. -/
theorem clusterSize_pos (v : Volume) : 0 < v.clusterSize := by
  have hsector := v.le_bytesPerSector
  obtain ⟨i, -, hi⟩ := List.mem_map.mp v.sectorsPerCluster_mem
  have hcluster : 0 < v.record.sectorsPerCluster := by
    rw [← hi]
    exact Nat.pow_pos (by decide)
  exact Nat.mul_pos (by omega) hcluster

end Volume

/-! ## The mount -/

namespace Volume

theorem follows_readBootRecord (hd : FaultLog w.disk Sound failures) :
    (w.aligned Sound failures).Follows readBootRecord readBootRecord := by
  have hreads := BlockStream.reads_read hd
  unfold readBootRecord
  exact (hreads.readPieces _).bind fun head => (hreads.readPieces _).bind fun tail =>
    Pairing.Follows.pure (BootRecord.ofBytes (head ++ tail))

theorem follows_expectMark (hd : FaultLog w.disk Sound failures) (mark : Nat) {error : IoError}
    (hk : error.kind ≠ .interrupted) :
    (w.aligned Sound failures).Follows (expectMark mark error) (expectMark mark error) := by
  unfold expectMark
  refine ((BlockStream.reads_read hd).readExact 4).bind fun b => ?_
  split
  · exact Pairing.Follows.throw hk
  · exact Pairing.Follows.pure _

omit [BlockDevice δ] in
/-- Streams that belong together are lined up by sending them to the same place. -/
theorem follows_place (position : Nat) :
    (w.aligned Sound failures).Follows (modify fun s => { s with position })
      (modify fun s => { s with position }) := by
  rintro s t ⟨⟨⟨hs, ho⟩, ht, ho'⟩, -⟩
  rw [IoOn.modify_apply, IoOn.modify_apply]
  have hsince : (w.aligned Sound failures).Since [] s { s with position } := rfl
  exact .ok ⟨⟨⟨hs.move position, ho⟩, ht.move position, ho'⟩, rfl⟩ hsince

theorem follows_checkInfoSector (hd : FaultLog w.disk Sound failures) (r : BootRecord) :
    (w.aligned Sound failures).Follows (checkInfoSector r) (checkInfoSector r) := by
  have hreads := BlockStream.reads_read hd
  unfold checkInfoSector
  refine (follows_place _).bind fun _ => ?_
  refine (follows_expectMark hd _ (by decide)).bind fun _ => ?_
  refine (hreads.readExact 480).bind fun _ => ?_
  refine (follows_expectMark hd _ (by decide)).bind fun _ => ?_
  refine (hreads.readPieces _).bind fun _ => ?_
  exact follows_expectMark hd _ (by decide)

/-- A mount follows the mount of the bare disk, so it finds the same volume if it succeeds. -/
theorem follows_mount (hd : FaultLog w.disk Sound failures) :
    (w.aligned Sound failures).Follows mount mount := by
  unfold mount
  refine (follows_readBootRecord hd).bind fun record => ?_
  split
  · exact Pairing.Follows.throw fun hk => by cases hk
  · split
    · exact (follows_checkInfoSector hd record).bind fun _ => Pairing.Follows.pure _
    · exact Pairing.Follows.pure _

end Volume

/-! ## Files -/

namespace FileCursor

theorem follows_cluster? (hd : FaultLog w.disk Sound failures) (v : Volume) (f : FileCursor) :
    (w.streams Sound failures).Follows (f.cluster? v) (f.cluster? v) := by
  unfold cluster?
  split
  · cases f.current with
    | none => exact Pairing.Follows.pure f.first
    | some cluster => exact Volume.follows_nextCluster? hd v cluster
  · exact Pairing.Follows.pure f.current

theorem reads_read (hd : FaultLog w.disk Sound failures) (v : Volume) :
    ((w.streams Sound failures).beside FileCursor).Reads (read v) (read v) := by
  rintro n ⟨f, s⟩ ⟨f', t⟩ ⟨hf, hst⟩
  obtain rfl : f = f' := hf
  simp only [read]
  have hcluster := follows_cluster? hd v f s t hst
  generalize f.cluster? v s = x, f.cluster? v t = y at hcluster ⊢
  cases hcluster with
  | @ok c s' t' es hr hs =>
    cases c with
    | none => exact .ok ⟨rfl, hr⟩ hs
    | some cluster =>
      dsimp only
      cases f.span v n with
      | zero => exact .ok ⟨rfl, hr⟩ hs
      | succ count =>
        dsimp only
        have hread := BlockStream.follows_readAt hd
          (v.record.clusterStart cluster + f.offset % v.clusterSize) (count + 1) s' t' hr
        generalize BlockStream.readAt _ (count + 1) s' = x, BlockStream.readAt _ (count + 1) t' = y
          at hread ⊢
        cases hread with
        | @ok got s₁ t₁ es₁ hr₁ hs₁ =>
          cases got with
          | nil => exact .ok ⟨rfl, hr₁⟩ (hs.trans hs₁)
          | cons b got => exact .ok ⟨rfl, hr₁⟩ (hs.trans hs₁)
        | error hr₁ hs₁ hk => exact .error ⟨rfl, hr₁⟩ (hs.trans hs₁) hk
        | failed hr₁ hs₁ hne hend =>
          have hback := Window.streams_swap hr₁ hst
          exact (Pairing.InStep.failed ⟨rfl, hback⟩ (hs₁.beside f f) hne hend).after (hs.beside f f)
  | error hr hs hk => exact .error ⟨rfl, hr⟩ hs hk
  | failed hr hs hne hend => exact .failed ⟨rfl, Window.streams_swap hr hst⟩ hs hne hend

end FileCursor
end ThumbDrive

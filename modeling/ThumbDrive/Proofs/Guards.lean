import ThumbDrive.Proofs.Lifetime

/-! # Reads inside a window

A stream shows some blocks of a device.  Whatever its position is, and wherever that came from, a
read of the stream asks the device for nothing, or once for whole blocks of the window
(`BlockStream.asks_read`).

So a property of the device that such reads keep is kept by all that is done to the stream, and by
all that is asked of a session from the time its partition was found (`Session.lifetime_keeps`).
Nothing else is assumed of the device: it may deliver other bytes each time, and fail whenever it
likes.  What is kept may be about the calls that were made. -/
namespace ThumbDrive

/-- What is asked for is whole blocks of `size` bytes, among the `count` blocks from `first` on. -/
structure Within (size first count lba length : Nat) : Prop where
  whole : size ∣ length
  lower : first ≤ lba
  upper : lba + length / size ≤ first + count

/-- What is inside a window on the device is on the device. -/
theorem Within.widen {size first count total lba length : Nat}
    (h : Within size first count lba length) (hend : first + count ≤ total) :
    Within size 0 total lba length := by
  have hupper := h.upper
  exact ⟨h.whole, Nat.zero_le lba, by omega⟩

variable {δ : Type} [BlockDevice δ]

/-! ## One read of a stream -/

namespace BlockStream

/-- From `s` to `s'` the device was asked for nothing, or once for whole blocks of the window.  The
window and the position are the same as before. -/
structure Asks (s s' : BlockStream δ) : Prop where
  firstLba : s'.firstLba = s.firstLba
  blockCount : s'.blockCount = s.blockCount
  position : s'.position = s.position
  device : s'.device = s.device ∨
    ∃ lba length, Within s.blockSize s.firstLba s.blockCount lba length ∧
      s'.device = ending (BlockDevice.readBlocks lba length s.device)

theorem Asks.nothing (s : BlockStream δ) : Asks s s := ⟨rfl, rfl, rfl, .inl rfl⟩

/-- Blocks numbered from the start of the window, as the device numbers them. -/
theorem within_window {s : BlockStream δ} {lba length : Nat} (hwhole : s.blockSize ∣ length)
    (hin : lba + length / s.blockSize ≤ s.blockCount) :
    Within s.blockSize s.firstLba s.blockCount (s.firstLba + lba) length :=
  ⟨hwhole, Nat.le_add_right s.firstLba lba, by omega⟩

theorem asks_readDevice {s : BlockStream δ} {lba length : Nat} (hwhole : s.blockSize ∣ length)
    (hin : lba + length / s.blockSize ≤ s.blockCount) :
    Asks s (ending (readDevice lba length s)) := by
  rw [ending_readDevice]
  exact ⟨rfl, rfl, rfl, .inr ⟨s.firstLba + lba, length, within_window hwhole hin, rfl⟩⟩

theorem asks_cachedBlock {s : BlockStream δ} {lba : Nat} (hpos : 0 < s.blockSize)
    (hlba : lba < s.blockCount) : Asks s (ending (cachedBlock lba s)) := by
  have hin : Within s.blockSize s.firstLba s.blockCount (s.firstLba + lba) s.blockSize := by
    apply within_window (Nat.dvd_refl s.blockSize)
    rw [Nat.div_self hpos]
    exact hlba
  by_cases hcached : s.cachedLba = some lba
  · have hsame : cachedBlock lba s = .ok s.cache s := by
      simp only [cachedBlock, IoOn.bind_get, hcached, if_true]
      rfl
    rw [hsame]
    exact .nothing s
  · -- the label of the cache is taken off first, which nothing here looks at
    have hrefill : cachedBlock lba s = refill lba s := by
      simp only [cachedBlock, IoOn.bind_get, hcached, if_false]
    have hread := ending_readDevice lba s.blockSize { s with cachedLba := none }
    rw [hrefill, refill]
    cases hr : readDevice lba s.blockSize { s with cachedLba := none } with
    | ok b s' =>
      rw [hr] at hread
      cases hread
      exact ⟨rfl, rfl, rfl, .inr ⟨_, _, hin, rfl⟩⟩
    | error e s' =>
      rw [hr] at hread
      cases hread
      exact ⟨rfl, rfl, rfl, .inr ⟨_, _, hin, rfl⟩⟩

/-- The block at a position in the window is a block of the window. -/
theorem lba_lt {s : BlockStream δ} (h : s.position < s.length) :
    s.position / s.blockSize < s.blockCount := by
  unfold length at h
  rw [Nat.mul_comm] at h
  exact Nat.div_lt_of_lt_mul h

/-- **A read of a stream, wherever its position is**, asks the device for nothing, or once for whole
blocks of the window.  Its position stays, or is moved to a place in the window or at its end. -/
theorem asks_read (n : Nat) {s : BlockStream δ} (hpos : 0 < s.blockSize) :
    ∃ s' position, ending (read n s) = { s' with position } ∧ Asks s s' ∧
      (position = s.position ∨ position ≤ s.length) := by
  by_cases ho : s.isOpen = true
  · rw [read_eq n s ho]
    by_cases hnone : n = 0 ∨ s.length ≤ s.position
    · rw [if_pos hnone]
      exact ⟨s, s.position, rfl, .nothing s, .inl rfl⟩
    · rw [if_neg hnone]
      dsimp only
      have hlba := lba_lt (s := s) (by omega)
      by_cases hwhole : s.position % s.blockSize = 0 ∧
          s.blockSize ≤ min (s.length - s.position) n
      · rw [if_pos hwhole]
        -- whole blocks from the position on, which is where a block starts
        generalize hblocks : min (min (s.length - s.position) n) directLimit / s.blockSize = blocks
        have hbytes : s.position + blocks * s.blockSize ≤ s.length := by
          have hle := Nat.div_mul_le_self (min (min (s.length - s.position) n) directLimit)
            s.blockSize
          rw [hblocks] at hle
          omega
        have hread : Asks s (ending (readDevice (s.position / s.blockSize)
            (blocks * s.blockSize) s)) := by
          apply asks_readDevice (Nat.dvd_mul_left s.blockSize blocks)
          rw [Nat.mul_div_cancel blocks hpos]
          apply Nat.le_of_mul_le_mul_right _ hpos
          rw [Nat.add_mul, Nat.div_mul_cancel (Nat.dvd_of_mod_eq_zero hwhole.1)]
          exact hbytes
        cases hr : readDevice (s.position / s.blockSize) (blocks * s.blockSize) s with
        | ok b s' =>
          rw [hr] at hread
          refine ⟨s', _, rfl, hread, .inr ?_⟩
          rw [show s'.position = s.position from hread.position]
          exact hbytes
        | error e s' =>
          rw [hr] at hread
          exact ⟨s', s'.position, rfl, hread, .inl hread.position⟩
      · rw [if_neg hwhole]
        have hread := asks_cachedBlock hpos hlba
        cases hr : cachedBlock (s.position / s.blockSize) s with
        | ok b s' =>
          rw [hr] at hread
          refine ⟨s', _, rfl, hread, .inr ?_⟩
          rw [show s'.position = s.position from hread.position]
          omega
        | error e s' =>
          rw [hr] at hread
          exact ⟨s', s'.position, rfl, hread, .inl hread.position⟩
  · rw [read_closed n (Bool.not_eq_true _ ▸ ho)]
    exact ⟨s, s.position, rfl, .nothing s, .inl rfl⟩

/-- The numbers worked out for a read have 64 bits: the length of the window, the block of the
device that a position in the window is in, and where the position is moved to. -/
structure Fits (s : BlockStream δ) : Prop where
  length : s.length < 18446744073709551616
  block : s.position < s.length → s.firstLba + s.position / s.blockSize < 18446744073709551616
  moved : ∀ n, (ending (s.read n)).position ≠ s.position →
    (ending (s.read n)).position < 18446744073709551616

theorem fits {s : BlockStream δ} (hpos : 0 < s.blockSize) (hsize : s.blockSize < 4294967296)
    (hend : s.firstLba + s.blockCount ≤ 4294967296) : s.Fits := by
  -- at most 2^32 blocks, of less than 2^32 bytes each
  have hlength : s.length < 18446744073709551616 :=
    calc s.blockCount * s.blockSize ≤ 4294967296 * 4294967295 :=
          Nat.mul_le_mul (by omega) (by omega)
      _ < 18446744073709551616 := by decide
  refine ⟨hlength, ?_, ?_⟩
  · intro hin
    have hlba := lba_lt hin
    omega
  · intro n hmoved
    obtain ⟨s', position, hread, -, hsame | hin⟩ := asks_read n hpos
    · rw [hread] at hmoved
      exact absurd hsame hmoved
    · rw [hread]
      exact Nat.lt_of_le_of_lt hin hlength

end BlockStream

/-! ## All that is done to a stream -/

/-- A property of devices that is kept by reads of whole blocks among the `count` from `first` on,
and by being closed. -/
structure Guards (P : δ → Prop) (size first count : Nat) : Prop where
  positive : 0 < size
  blockSize : ∀ {d}, P d → BlockDevice.blockSize d = size
  read : ∀ {d lba length}, P d → Within size first count lba length →
    P (ending (BlockDevice.readBlocks lba length d))
  close : ∀ {d}, P d → P (ending (BlockDevice.close d))

variable {P : δ → Prop} {size first count : Nat}

namespace BlockStream

/-- A stream on the `count` blocks from `first` on of a device with a property. -/
structure Covers (P : δ → Prop) (first count : Nat) (s : BlockStream δ) : Prop where
  firstLba : s.firstLba = first
  blockCount : s.blockCount = count
  device : P s.device

theorem Covers.blockSize_eq (hP : Guards P size first count) {s : BlockStream δ}
    (h : Covers P first count s) : s.blockSize = size :=
  hP.blockSize h.device

theorem Covers.read (hP : Guards P size first count) {s : BlockStream δ}
    (h : Covers P first count s) (n : Nat) : Covers P first count (ending (read n s)) := by
  have hsize := h.blockSize_eq hP
  obtain ⟨s', position, hread, hasks, -⟩ := asks_read n (s := s) (hsize ▸ hP.positive)
  rw [hread]
  refine ⟨hasks.firstLba.trans h.firstLba, hasks.blockCount.trans h.blockCount, ?_⟩
  rcases hasks.device with hsame | ⟨lba, length, hin, hdevice⟩
  · show P s'.device
    rw [hsame]
    exact h.device
  · show P s'.device
    rw [hdevice]
    rw [hsize, h.firstLba, h.blockCount] at hin
    exact hP.read h.device hin

/-- However a stream is moved and read, its device keeps the property. -/
theorem Covers.reaches (hP : Guards P size first count) {s s' : BlockStream δ}
    (h : Covers P first count s) (hr : Reaches s s') : Covers P first count s' := by
  induction hr with
  | start => exact h
  | move _ position ih => exact ⟨ih.firstLba, ih.blockCount, ih.device⟩
  | read _ n ih => exact ih.read hP n

theorem Covers.release (hP : Guards P size first count) {s : BlockStream δ}
    (h : Covers P first count s) : P s.release := by
  have hclose := hP.close h.device
  unfold BlockStream.release
  by_cases ho : s.isOpen = true
  · simp only [close, IoOn.bind_get, ho, if_true, IoOn.bind_set, IoOn.zoom]
    cases hc : BlockDevice.close s.device <;> rw [hc] at hclose <;> exact hclose
  · simp only [close, IoOn.bind_get, ho]
    exact h.device

end BlockStream

/-! ## All that is done to a session -/

namespace Session

/-- A session whose device has a property, and whose stream is on the `count` blocks from `first`
on as long as there is one. -/
def Keeps (P : δ → Prop) (first count : Nat) (s : Session δ) : Prop :=
  match s.state with
  | .mounted _ x => BlockStream.Covers P first count x
  | .closed d => P d

omit [BlockDevice δ] in
theorem Keeps.device {s : Session δ} (h : Keeps P first count s) : P s.device := by
  unfold Keeps at h
  unfold Session.device
  cases hs : s.state with
  | mounted v x =>
    rw [hs] at h
    exact h.device
  | closed d =>
    rw [hs] at h
    exact h

theorem Keeps.after (hP : Guards P size first count) {s : Session δ} (h : Keeps P first count s)
    (op : Op) : Keeps P first count (s.after op) := by
  cases hs : s.state with
  | closed d =>
    rw [after_closed hs]
    exact h
  | mounted v x =>
    have hx : BlockStream.Covers P first count x := by simpa only [Keeps, hs] using h
    cases op with
    | task t =>
      obtain ⟨y, hreach, hy⟩ := ask_mounted hs t
      have hafter : s.after (.task t) = { s with state := .mounted v y } := hy
      rw [hafter]
      exact hx.reaches hP hreach
    | close =>
      rw [after_close hs]
      exact hx.release hP

theorem Keeps.afterAll (hP : Guards P size first count) {s : Session δ}
    (h : Keeps P first count s) (ops : List Op) : Keeps P first count (s.afterAll ops) := by
  induction ops generalizing s with
  | nil => exact h
  | cons op ops ih => exact ih (h.after hP op)

theorem keeps_closed (hP : Guards P size first count) {d : δ} (hd : P d) : P (closed d) := by
  unfold closed
  rw [IoOn.outcome_snd]
  exact hP.close hd

theorem findPartition_error {d d' : δ} {e : IoError} (hf : Partition.find d = .error e d') :
    findPartition d = .error e d' := by
  unfold findPartition
  exact IoOn.bind_error hf

theorem findPartition_none {d d' : δ} {f : Partition.Finding} (hf : Partition.find d = .ok f d')
    (hq : f.partition? = none) : findPartition d = .ok none d' := by
  unfold findPartition
  rw [IoOn.bind_ok hf, hq]
  rfl

theorem findPartition_some {d d' : δ} {f : Partition.Finding} {q : Partition}
    (hf : Partition.find d = .ok f d') (hq : f.partition? = some q) :
    findPartition d =
      (do return some (q, ← BlockDevice.readBlocks q.firstLba (BlockDevice.blockSize d'))) d' := by
  unfold findPartition
  rw [IoOn.bind_ok hf, hq]
  rfl

/-- Where no partition could be read, the device is closed at once. -/
theorem lifetime_closed {d d' : δ} (name : String) (ops : List Op)
    (hfind : (∃ e, findPartition d = .error e d') ∨ findPartition d = .ok none d') :
    lifetime name true (.ok d) ops = some (closed d') := by
  unfold lifetime openWith mount
  rcases hfind with ⟨e, he⟩ | hnone
  · simp only [Bool.not_true, Bool.false_eq_true, if_false, he]
  · simp only [Bool.not_true, Bool.false_eq_true, if_false, hnone]

/-- **From the partition on.**  What is kept by reads inside the partition that was found, and holds
when its first block was read, holds when the session is over. -/
theorem lifetime_keeps {q : Partition} {b : Bytes} {d d' : δ}
    (hP : Guards P size q.firstLba q.blockCount) (hfind : findPartition d = .ok (some (q, b)) d')
    (hd' : P d') (name : String) (ops : List Op) :
    ∃ x, lifetime name true (.ok d) ops = some x ∧ P x := by
  have hstart : BlockStream.Covers P q.firstLba q.blockCount
      { device := d', firstLba := q.firstLba, blockCount := q.blockCount } := ⟨rfl, rfl, hd'⟩
  -- whether a volume is found or not, the mount only moves and reads the stream
  have hmount := hstart.reaches hP (Volume.uses_mount (δ := δ) _)
  unfold lifetime openWith mount
  simp only [Bool.not_true, Bool.false_eq_true, if_false, hfind]
  cases hv : (Volume.mount : IoOn (BlockStream δ) Volume)
      { device := d', firstLba := q.firstLba, blockCount := q.blockCount } with
  | error e s =>
    rw [hv] at hmount
    have hs : BlockStream.Covers P q.firstLba q.blockCount s := hmount
    exact ⟨s.release, rfl, hs.release hP⟩
  | ok v s =>
    rw [hv] at hmount
    have hs : BlockStream.Covers P q.firstLba q.blockCount s := hmount
    have hopened : Keeps P q.firstLba q.blockCount
        { deviceName := name
          partition := q
          chunkSize := (BootSector.clusterSize? b).getD fallbackChunkSize
          fatType := v.fatType
          state := .mounted v s } := hs
    exact ⟨_, rfl, ((hopened.afterAll hP ops).after hP .close).device⟩

end Session

end ThumbDrive

import ThumbDrive.Proofs.Contents
import ThumbDrive.Proofs.InStep

/-! # A window of blocks is read byte by byte

A block stream has two ways to read, past the cache and through it, and one position and one cache
for both.  The invariant is `Shows`: while the stream is open the device below is sound, and a
cache that bears a number holds the block of that number.  A cache without a number may hold
anything, so a failed refill keeps the invariant.

Nothing else about the cache matters: what a read delivers is determined by the window, the
position and the length asked for (`Window.span` bytes from the position on).  `read_cases` says so,
and everything later about streams is derived from it. -/
namespace ThumbDrive

/-- A range of blocks of a disk. -/
structure Window where
  disk : Disk
  firstLba : Nat
  blockCount : Nat
  blockSize_pos : 0 < disk.blockSize
  inside : firstLba + blockCount ≤ BlockDevice.blockCount disk

namespace Window
variable (w : Window)

/-- Bytes in the window. -/
def length : Nat := w.blockCount * w.disk.blockSize

/-- The `n` bytes of the window from `position` on. -/
def slice (position n : Nat) : Bytes :=
  w.disk.image.slice (w.firstLba * w.disk.blockSize + position) n

/-- The block of that number. -/
def block (lba : Nat) : Bytes := w.slice (lba * w.disk.blockSize) w.disk.blockSize

/-- How many bytes a single read of at most `n` bytes delivers: whole blocks where it starts with
one, else what is left of a block. -/
def span (position n : Nat) : Nat :=
  if n = 0 ∨ w.length ≤ position then 0
  else
    let available := min (w.length - position) n
    let offset := position % w.disk.blockSize
    if offset = 0 ∧ w.disk.blockSize ≤ available then
      min available BlockStream.directLimit / w.disk.blockSize * w.disk.blockSize
    else min available (w.disk.blockSize - offset)

@[simp] theorem length_slice (position n : Nat) : (w.slice position n).length = n := by
  simp [slice]

theorem span_le_asked (position n : Nat) : w.span position n ≤ n := by
  unfold span
  split
  · exact Nat.zero_le n
  · dsimp only
    split
    · refine Nat.le_trans (Nat.div_mul_le_self _ _) ?_
      omega
    · omega

theorem span_le_left (position n : Nat) : w.span position n ≤ w.length - position := by
  unfold span
  split
  · exact Nat.zero_le _
  · dsimp only
    split
    · refine Nat.le_trans (Nat.div_mul_le_self _ _) ?_
      omega
    · omega

/-- A position inside the window lies in one of its blocks. -/
theorem lba_lt {position : Nat} (h : position < w.length) :
    position / w.disk.blockSize < w.blockCount :=
  Nat.div_lt_of_lt_mul (by rw [Nat.mul_comm]; exact h)

/-- Whole blocks of the window are whole blocks of the disk. -/
theorem holds {lba n : Nat} (hw : w.disk.blockSize ∣ n)
    (hl : lba * w.disk.blockSize + n ≤ w.length) : w.disk.Holds (w.firstLba + lba) n := by
  refine ⟨hw, ?_⟩
  have hin := Nat.mul_le_mul_right w.disk.blockSize w.inside
  rw [Nat.add_mul] at hin ⊢
  unfold length at hl
  omega

/-- What the disk delivers for blocks of the window. -/
theorem slice_firstLba (lba n : Nat) :
    w.disk.image.slice ((w.firstLba + lba) * w.disk.blockSize) n =
      w.slice (lba * w.disk.blockSize) n := by
  rw [Nat.add_mul]
  rfl

/-- Bytes of one block are bytes of the window. -/
theorem slice_block {position count : Nat}
    (h : position % w.disk.blockSize + count ≤ w.disk.blockSize) :
    Bytes.slice (w.block (position / w.disk.blockSize)) (position % w.disk.blockSize) count =
      w.slice position count := by
  have hp := Nat.div_add_mod' position w.disk.blockSize
  unfold block slice
  rw [Image.slice_slice _ h, Nat.add_assoc, hp]

end Window

namespace BlockStream
variable {δ : Type} [BlockDevice δ]

/-- **The stream shows the window.**  An open stream has a sound device, and the cache holds the
block whose number it bears. -/
structure Shows (Sound : δ → Prop) (w : Window) (s : BlockStream δ) : Prop where
  sound : s.isOpen = true → Sound s.device
  firstLba : s.firstLba = w.firstLba
  blockCount : s.blockCount = w.blockCount
  cached : ∀ lba, s.cachedLba = some lba → s.cache = w.block lba

variable {Sound : δ → Prop} {w : Window} {s : BlockStream δ}

theorem Shows.blockSize_eq (hd : FixedContents w.disk Sound) (h : Shows Sound w s)
    (ho : s.isOpen = true) : s.blockSize = w.disk.blockSize :=
  hd.blockSize (h.sound ho)

theorem Shows.length_eq (hd : FixedContents w.disk Sound) (h : Shows Sound w s)
    (ho : s.isOpen = true) : s.length = w.length := by
  unfold BlockStream.length Window.length
  rw [h.blockSize_eq hd ho, h.blockCount]

omit [BlockDevice δ] in
/-- Moving the position keeps the window. -/
theorem Shows.move (h : Shows Sound w s) (position : Nat) :
    Shows Sound w { s with position } :=
  ⟨h.sound, h.firstLba, h.blockCount, h.cached⟩

/-- Whole blocks of the window are read from the device, or the device fails. -/
theorem readDevice_cases (hd : FixedContents w.disk Sound) (h : Shows Sound w s)
    (ho : s.isOpen = true) {lba length : Nat} (hh : w.disk.Holds (w.firstLba + lba) length) :
    (∃ d, readDevice lba length s =
        .ok (w.slice (lba * w.disk.blockSize) length) { s with device := d } ∧
        Sound d ∧ DeviceStep w.disk s.device none d) ∨
    (∃ e d, readDevice lba length s = .error e { s with device := d } ∧
        Sound d ∧ DeviceStep w.disk s.device (some e) d) := by
  unfold readDevice IoOn.zoom
  rw [← h.firstLba] at hh
  cases hr : BlockDevice.readBlocks (s.firstLba + lba) length s.device with
  | ok b d =>
    obtain ⟨hb, hs⟩ := hd.delivers (h.sound ho) hh hr
    rw [h.firstLba, Window.slice_firstLba] at hb
    subst hb
    exact .inl ⟨d, rfl, hs, .delivered hh hr⟩
  | error e d => exact .inr ⟨e, d, rfl, hd.fails (h.sound ho) hh hr, .failed hh hr⟩

/-- The block of a number is found in the cache or read into it; a failure leaves the cache without
a number. -/
theorem cachedBlock_cases (hd : FixedContents w.disk Sound) (h : Shows Sound w s)
    (ho : s.isOpen = true) {lba : Nat} (hl : lba < w.blockCount) :
    (∃ s', cachedBlock lba s = .ok (w.block lba) s' ∧ Shows Sound w s' ∧
        s'.position = s.position ∧ s'.isOpen = true ∧
        DeviceStep w.disk s.device none s'.device) ∨
    (∃ e s', cachedBlock lba s = .error e s' ∧ Shows Sound w s' ∧
        s'.position = s.position ∧ s'.isOpen = true ∧
        DeviceStep w.disk s.device (some e) s'.device) := by
  have hcached : cachedBlock lba s =
      if s.cachedLba = some lba then .ok s.cache s else refill lba s := by
    simp only [cachedBlock, IoOn.bind_get]
    split <;> rfl
  rw [hcached]
  by_cases hc : s.cachedLba = some lba
  · rw [if_pos hc, h.cached lba hc]
    exact .inl ⟨s, rfl, h, rfl, ho, .untouched⟩
  · rw [if_neg hc]
    unfold refill
    rw [h.blockSize_eq hd ho]
    -- the stream without a number in its cache, which is what the device is read from
    have hbare : Shows Sound w { s with cachedLba := none } :=
      ⟨h.sound, h.firstLba, h.blockCount, fun _ hn => by cases hn⟩
    have hfit : lba * w.disk.blockSize + w.disk.blockSize ≤ w.length := by
      have := Nat.mul_le_mul_right w.disk.blockSize (Nat.succ_le_of_lt hl)
      rwa [Nat.succ_mul] at this
    have hh := w.holds (Nat.dvd_refl _) hfit
    rcases readDevice_cases hd hbare ho hh with ⟨d, hr, hs, hstep⟩ | ⟨e, d, hr, hs, hstep⟩
    · refine .inl ⟨{ s with device := d, cachedLba := some lba, cache := w.block lba },
        ?_, ⟨fun _ => hs, h.firstLba, h.blockCount, ?_⟩, rfl, ho, hstep⟩
      · rw [hr]
        rfl
      · intro l hn
        cases hn
        rfl
    · refine .inr ⟨e,
        { s with device := d, cachedLba := none, cache := BlockDevice.leftover d s.cache },
        ?_, ⟨fun _ => hs, h.firstLba, h.blockCount, ?_⟩, rfl, ho, hstep⟩
      · rw [hr]
      · intro l hn
        cases hn

/-- A read, by its three ways: nothing to read, past the cache, through the cache. -/
theorem read_eq (n : Nat) (s : BlockStream δ) (ho : s.isOpen = true) :
    read n s =
      if n = 0 ∨ s.length ≤ s.position then .ok [] s
      else
        let available := min (s.length - s.position) n
        let lba := s.position / s.blockSize
        let offset := s.position % s.blockSize
        if offset = 0 ∧ s.blockSize ≤ available then
          let direct := min available directLimit / s.blockSize * s.blockSize
          match readDevice lba direct s with
          | .ok got s => .ok got { s with position := s.position + direct }
          | .error e s => .error e s
        else
          let count := min available (s.blockSize - offset)
          match cachedBlock lba s with
          | .ok block s => .ok (Bytes.slice block offset count)
              { s with position := s.position + count }
          | .error e s => .error e s := by
  simp only [read, IoOn.bind_get, ho, Bool.not_true, Bool.false_eq_true, if_false]
  split
  · rfl
  · split
    · rw [IoOn.bind_apply]
      cases readDevice (s.position / s.blockSize)
        (min (min (s.length - s.position) n) directLimit / s.blockSize * s.blockSize) s <;> rfl
    · rw [IoOn.bind_apply]
      cases cachedBlock (s.position / s.blockSize) s <;> rfl

/-- A closed stream delivers nothing. -/
theorem read_closed (n : Nat) {s : BlockStream δ} (hc : s.isOpen = false) :
    read n s = .error closedError s := by
  simp only [read, IoOn.bind_get, hc, Bool.not_false, if_true, IoOn.bind_throw]

/-- **What a read does.**  It delivers the bytes of the window from the position on, as many as
`Window.span` says, and moves the position past them; or the device fails the one read it is asked
for, and the position stays. -/
theorem read_cases (hd : FixedContents w.disk Sound) (h : Shows Sound w s) (ho : s.isOpen = true)
    (n : Nat) :
    (∃ s', read n s = .ok (w.slice s.position (w.span s.position n)) s' ∧ Shows Sound w s' ∧
        s'.position = s.position + w.span s.position n ∧ s'.isOpen = true ∧
        DeviceStep w.disk s.device none s'.device) ∨
    (∃ e s', read n s = .error e s' ∧ Shows Sound w s' ∧ s'.position = s.position ∧
        s'.isOpen = true ∧ DeviceStep w.disk s.device (some e) s'.device) := by
  rw [read_eq n s ho, h.length_eq hd ho, h.blockSize_eq hd ho]
  have hpos := w.blockSize_pos
  unfold Window.span
  by_cases hnone : n = 0 ∨ w.length ≤ s.position
  · rw [if_pos hnone, if_pos hnone]
    exact .inl ⟨s, rfl, h, rfl, ho, .untouched⟩
  rw [if_neg hnone, if_neg hnone]
  dsimp only
  have hin : s.position < w.length := by omega
  have hlba := w.lba_lt hin
  have hmod := Nat.mod_lt s.position hpos
  have hdiv := Nat.div_add_mod' s.position w.disk.blockSize
  by_cases hwhole : s.position % w.disk.blockSize = 0 ∧
      w.disk.blockSize ≤ min (w.length - s.position) n
  · rw [if_pos hwhole, if_pos hwhole]
    -- whole blocks: the position is the start of the first of them
    have hstart : s.position / w.disk.blockSize * w.disk.blockSize = s.position := by omega
    have hle := Nat.div_mul_le_self (min (min (w.length - s.position) n) directLimit)
      w.disk.blockSize
    have hh := w.holds (Nat.dvd_mul_left w.disk.blockSize
      (min (min (w.length - s.position) n) directLimit / w.disk.blockSize))
      (show s.position / w.disk.blockSize * w.disk.blockSize + _ ≤ w.length by omega)
    rcases readDevice_cases hd h ho hh with ⟨d, hr, hs, hstep⟩ | ⟨e, d, hr, hs, hstep⟩
    · rw [hr, hstart]
      exact .inl ⟨_, rfl, ⟨fun _ => hs, h.firstLba, h.blockCount, h.cached⟩, rfl, ho, hstep⟩
    · rw [hr]
      exact .inr ⟨e, _, rfl, ⟨fun _ => hs, h.firstLba, h.blockCount, h.cached⟩, rfl, ho, hstep⟩
  · rw [if_neg hwhole, if_neg hwhole]
    rcases cachedBlock_cases hd h ho hlba with ⟨s', hr, hs, hp, ho', hstep⟩ |
      ⟨e, s', hr, hs, hp, ho', hstep⟩
    · have hcount : s.position % w.disk.blockSize + min (min (w.length - s.position) n)
          (w.disk.blockSize - s.position % w.disk.blockSize) ≤ w.disk.blockSize := by omega
      rw [hr, ← w.slice_block hcount]
      exact .inl ⟨_, rfl, hs.move _, by rw [hp], ho', hstep⟩
    · rw [hr]
      exact .inr ⟨e, s', rfl, hs, hp, ho', hstep⟩

/-- A seek moves the position to where it leads, if that is a position. -/
theorem seek_eq (place : SeekFrom) (s : BlockStream δ) :
    seek place s =
      if 0 ≤ s.target place ∧ s.target place < positionBound then
        .ok (s.target place).toNat { s with position := (s.target place).toNat }
      else .error seekError s := by
  simp only [seek, IoOn.bind_get]
  split
  · rw [IoOn.bind_set, IoOn.pure_apply]
  · rw [IoOn.throw_apply]

/-! ## Whole runs -/

/-- What can be asked of a stream. -/
inductive Op where
  | read (n : Nat)
  | seek (place : SeekFrom)
  | write (b : Bytes)
  | flush
  | close

/-- The stream after an operation, whether it has succeeded or failed. -/
def after (s : BlockStream δ) : Op → BlockStream δ
  | .read n => (IoOn.outcome (read n) s).2
  | .seek place => (IoOn.outcome (seek place) s).2
  | .write b => (IoOn.outcome (write b) s).2
  | .flush => (IoOn.outcome flush s).2
  | .close => (IoOn.outcome close s).2

/-- The stream after some operations. -/
def afterAll (s : BlockStream δ) (ops : List Op) : BlockStream δ := ops.foldl after s

theorem shows_read (hd : FixedContents w.disk Sound) (h : Shows Sound w s) (n : Nat) :
    Shows Sound w (s.after (.read n)) := by
  show Shows Sound w (IoOn.outcome (read n) s).2
  cases ho : s.isOpen with
  | false =>
    rw [IoOn.outcome_error (read_closed n ho)]
    exact h
  | true =>
    rcases read_cases hd h ho n with ⟨s', hr, hs, -⟩ | ⟨e, s', hr, hs, -⟩
    · rw [IoOn.outcome_ok hr]
      exact hs
    · rw [IoOn.outcome_error hr]
      exact hs

/-- A seek does nothing but move the position, if anything. -/
theorem after_seek (s : BlockStream δ) (place : SeekFrom) :
    ∃ position, s.after (.seek place) = { s with position } := by
  show ∃ position, (IoOn.outcome (seek place) s).2 = { s with position }
  have hseek := seek_eq place s
  split at hseek
  · rw [IoOn.outcome_ok hseek]
    exact ⟨_, rfl⟩
  · rw [IoOn.outcome_error hseek]
    exact ⟨s.position, rfl⟩

/-- Closing leaves the device in any state, but the stream closed; a second time it does nothing. -/
theorem after_close (s : BlockStream δ) :
    s.after .close = s ∨ ∃ d, s.after .close = { s with isOpen := false, device := d } := by
  show (IoOn.outcome close s).2 = s ∨
    ∃ d, (IoOn.outcome close s).2 = { s with isOpen := false, device := d }
  cases ho : s.isOpen with
  | false =>
    have hclose : close s = .ok () s := by
      simp only [close, IoOn.bind_get, ho, Bool.false_eq_true, if_false, IoOn.pure_apply]
    rw [IoOn.outcome_ok hclose]
    exact .inl rfl
  | true =>
    have hclose : close s = IoOn.zoom device (fun d s => { s with device := d }) BlockDevice.close
        { s with isOpen := false } := by
      simp only [close, IoOn.bind_get, ho, if_true, IoOn.bind_set]
    unfold IoOn.zoom at hclose
    cases hd : BlockDevice.close s.device with
    | ok u d =>
      rw [hd] at hclose
      rw [IoOn.outcome_ok hclose]
      exact .inr ⟨d, rfl⟩
    | error e d =>
      rw [hd] at hclose
      rw [IoOn.outcome_error hclose]
      exact .inr ⟨d, rfl⟩

theorem shows_seek (h : Shows Sound w s) (place : SeekFrom) :
    Shows Sound w (s.after (.seek place)) := by
  obtain ⟨position, hmoved⟩ := s.after_seek place
  rw [hmoved]
  exact h.move position

/-- The device of a closed stream need not be sound: nobody reads it any more. -/
theorem shows_close (h : Shows Sound w s) : Shows Sound w (s.after .close) := by
  rcases s.after_close with hsame | ⟨d, hclosed⟩
  · rw [hsame]
    exact h
  · rw [hclosed]
    exact ⟨fun hn => absurd hn Bool.false_ne_true, h.firstLba, h.blockCount, h.cached⟩

/-- Every operation keeps the window. -/
theorem shows_after (hd : FixedContents w.disk Sound) (h : Shows Sound w s) (op : Op) :
    Shows Sound w (s.after op) := by
  cases op with
  | read n => exact shows_read hd h n
  | seek place => exact shows_seek h place
  | write b => exact h
  | flush => exact h
  | close => exact shows_close h

/-- So does every run. -/
theorem shows_afterAll (hd : FixedContents w.disk Sound) (h : Shows Sound w s) (ops : List Op) :
    Shows Sound w (s.afterAll ops) := by
  induction ops generalizing s with
  | nil => exact h
  | cons op ops ih => exact ih (shows_after hd h op)

omit [BlockDevice δ] in
/-- A new stream shows its window. -/
theorem shows_new {d : δ} (hs : Sound d) :
    Shows Sound w { device := d, firstLba := w.firstLba, blockCount := w.blockCount } :=
  ⟨fun _ => hs, rfl, rfl, fun _ hn => by cases hn⟩

/-- **Every operation of every run keeps to the window.**  On a device with fixed contents, after
any operations, also failed ones and in any order: a cache that bears a number holds the block of
that number; a read that succeeds delivers the bytes of the window from the position on, no more
than were asked for or are left, and moves the position past them; a read fails only because the
stream is closed or by the error of the device; and a read, a seek or a write that fails leaves the
position where it was. -/
theorem window_read_exactly (hd : FixedContents w.disk Sound) {d : δ} (hs : Sound d)
    (ops : List Op) :
    let s := afterAll { device := d, firstLba := w.firstLba, blockCount := w.blockCount } ops
    (∀ lba, s.cachedLba = some lba → s.cache = w.block lba) ∧
    (∀ n b s', read n s = .ok b s' → b.length ≤ n ∧ b.length ≤ w.length - s.position ∧
      b = w.slice s.position b.length ∧ s'.position = s.position + b.length) ∧
    (∀ n e s', read n s = .error e s' → s'.position = s.position ∧
      (s.isOpen = false ∧ e = closedError ∨ DeviceStep w.disk s.device (some e) s'.device)) ∧
    (∀ place p s', seek place s = .ok p s' → s'.position = p) ∧
    (∀ place e s', seek place s = .error e s' → s'.position = s.position) ∧
    (∀ b, write b s = .error readOnlyError s) := by
  intro s
  have h : Shows Sound w s := shows_afterAll hd (shows_new hs) ops
  refine ⟨h.cached, ?_, ?_, ?_, ?_, fun b => rfl⟩
  · intro n b s' hr
    cases ho : s.isOpen with
    | false =>
      rw [read_closed n ho] at hr
      cases hr
    | true =>
      rcases read_cases hd h ho n with ⟨s₁, hr₁, -, hp, -⟩ | ⟨e, s₁, hr₁, -⟩
      · cases hr₁.symm.trans hr
        rw [Window.length_slice]
        exact ⟨w.span_le_asked _ _, w.span_le_left _ _, rfl, hp⟩
      · cases hr₁.symm.trans hr
  · intro n e s' hr
    cases ho : s.isOpen with
    | false =>
      cases (read_closed n ho).symm.trans hr
      exact ⟨rfl, .inl ⟨rfl, rfl⟩⟩
    | true =>
      rcases read_cases hd h ho n with ⟨s₁, hr₁, -⟩ | ⟨e₁, s₁, hr₁, -, hp, -, hstep⟩
      · cases hr₁.symm.trans hr
      · cases hr₁.symm.trans hr
        exact ⟨hp, .inr hstep⟩
  · intro place p s' hr
    rw [seek_eq] at hr
    split at hr
    · cases hr
      rfl
    · cases hr
  · intro place e s' hr
    rw [seek_eq] at hr
    split at hr
    · cases hr
    · cases hr
      rfl

/-- Two blocks of two bytes in the middle of a disk.  The first is cached; the refill with the
second fails and leaves other bytes in the cache; and the next read delivers the byte of the disk
all the same. -/
theorem window_read_exactly_garbled :
    let disk : Disk := ⟨Image.ofBytes [1, 2, 3, 4, 5, 6, 7, 8], 2⟩
    let w : Window := ⟨disk, 1, 2, by decide, by decide⟩
    let probe : Probe :=
      { disk, faults := [⟨2, some 1, .other "unplugged"⟩], garble := fun _ => [9, 9] }
    let s := afterAll { device := probe, firstLba := w.firstLba, blockCount := w.blockCount }
      [.read 1, .seek (.start 3), .read 1]
    s.cache = [9, 9] ∧ s.position = 3 ∧ (IoOn.outcome (read 1) s).1.toOption = some [6] ∧
      ∀ n b s', read n s = .ok b s' → b.length ≤ n ∧ b.length ≤ w.length - s.position ∧
        b = w.slice s.position b.length ∧ s'.position = s.position + b.length := by
  intro disk w probe s
  exact ⟨by decide, by decide, by decide,
    (window_read_exactly (w := w) (Probe.fixedContents disk) (d := probe) rfl _).2.1⟩

end BlockStream
end ThumbDrive

import ThumbDrive.Proofs.Pipe
import ThumbDrive.Proofs.Volume

/-! # Reads that bring nothing

Whoever fills a buffer takes a read that brings nothing for the end of the data.  Inside its window
a stream gives that answer in one case only: where a read is to begin with a whole block, and a
block is larger than what a read takes past the cache (`Stalls`).  No whole block fits into the
limit then, and nothing is read; whatever is smaller than a block goes through the cache and does
bring something.

That is so over any device that fills its buffers, with any block size.  The carrying invariant is
that a cache with a number holds a block (`Ready`).

Filling a buffer comes through iff no whole block of such a size lies in the range (`Obstructed`):
the pieces at both ends of the range are brought, and a block between them is where it stops. -/
namespace ThumbDrive

open Pairing (readWithin_zero readWithin_nil readWithin_cons)

/-! ## Filling a buffer from a source -/

theorem exists_cons_of_length {b : Bytes} {n : Nat} (h : b.length = n + 1) :
    ∃ first rest, b = first :: rest ∧ rest.length = n := by
  cases b with
  | nil => cases h
  | cons first rest => exact ⟨first, rest, rfl, Nat.succ.inj h⟩

/-- **Reads that bring something fill a buffer.**  Each read delivers bytes of the source from
where it stands, one at least, and moves on past them.  What is `Good` may depend on how much is
missing. -/
theorem readWithin_fills {σ : Type} {read : Nat → IoOn σ Bytes} {source : Nat → Nat → Bytes}
    (happend : ∀ start n count,
      source start n ++ source (start + n) count = source start (n + count))
    (hlength : ∀ start n, (source start n).length = n) {place : σ → Nat} {Good : Nat → σ → Prop}
    (hstep : ∀ n s, Good (n + 1) s → ∃ k s', k ≤ n ∧
      read (n + 1) s = .ok (source (place s) (k + 1)) s' ∧ place s' = place s + (k + 1) ∧
      Good (n - k) s') {rounds n : Nat} {s : σ} (hn : n ≤ rounds)
    (hgood : Good n s) :
    ∃ s', readWithin read rounds n s = .ok (source (place s) n) s' ∧ place s' = place s + n ∧
      Good 0 s' := by
  induction rounds generalizing n s with
  | zero =>
    obtain rfl : n = 0 := by omega
    have hnone := List.eq_nil_of_length_eq_zero (hlength (place s) 0)
    exact ⟨s, by rw [readWithin_zero, hnone], rfl, hgood⟩
  | succ rounds ih =>
    cases n with
    | zero =>
      have hnone := List.eq_nil_of_length_eq_zero (hlength (place s) 0)
      exact ⟨s, by rw [readWithin_zero, hnone], rfl, hgood⟩
    | succ n =>
      obtain ⟨k, s₁, hk, hread, hplace, hgood₁⟩ := hstep n s hgood
      obtain ⟨s₂, hrest, hplace₂, hgood₂⟩ := ih (by omega) hgood₁
      obtain ⟨b, got, hgot, hcount⟩ := exists_cons_of_length (hlength (place s) (k + 1))
      rw [hgot] at hread
      refine ⟨s₂, ?_, by omega, hgood₂⟩
      rw [readWithin_cons hread, hcount, hrest]
      dsimp only
      rw [← hgot, hplace, happend]
      congr 2
      omega

/-! ## Where a read stalls -/

namespace BlockStream

/-- A read of at most `n` bytes begins with a whole block, and a block is too large to be taken past
the cache. -/
structure Stalls (size length position n : Nat) : Prop where
  large : directLimit < size
  aligned : position % size = 0
  whole : size ≤ min (length - position) n

/-- In the `n` bytes from `position` on lies a whole block, and a block is too large to be taken
past the cache. -/
structure Obstructed (size position n : Nat) : Prop where
  large : directLimit < size
  whole : ∃ lba, position ≤ lba * size ∧ lba * size + size ≤ position + n

/-- Whole blocks are taken past the cache, or none because one is too large. -/
theorem direct_eq_zero_iff {size available : Nat} (hpos : 0 < size) (hfits : size ≤ available) :
    min available directLimit / size * size = 0 ↔ directLimit < size := by
  rw [Nat.mul_eq_zero, Nat.div_eq_zero_iff]
  omega

/-- A buffer that is to be filled from a stalling read on has a whole block in its range. -/
theorem Stalls.obstructed {size length position n : Nat} (h : Stalls size length position n) :
    Obstructed size position n := by
  have hstart := Nat.div_add_mod' position size
  have hwhole := h.whole
  have haligned := h.aligned
  exact ⟨h.large, position / size, by omega, by omega⟩

/-- What lies in the rest of a range lies in the range. -/
theorem Obstructed.of_rest {size position n k : Nat} (hk : k ≤ n)
    (h : Obstructed size (position + k) (n - k)) : Obstructed size position n := by
  obtain ⟨lba, hfirst, hlast⟩ := h.whole
  exact ⟨h.large, lba, by omega, by omega⟩

end BlockStream

open BlockStream (Stalls Obstructed)

namespace Window
variable {w : Window} {position n : Nat}

theorem slice_append (w : Window) (start n count : Nat) :
    w.slice start n ++ w.slice (start + n) count = w.slice start (n + count) := by
  unfold slice
  rw [← Nat.add_assoc, Image.slice_append]

/-- **A read inside the window brings something unless it stalls.** -/
theorem span_eq_zero_iff (hin : position < w.length) (hn : 0 < n) :
    w.span position n = 0 ↔ Stalls w.disk.blockSize w.length position n := by
  have hpos := w.blockSize_pos
  have hoffset := Nat.mod_lt position hpos
  unfold span
  rw [if_neg (by omega)]
  dsimp only
  by_cases hwhole : position % w.disk.blockSize = 0 ∧ w.disk.blockSize ≤ min (w.length - position) n
  · rw [if_pos hwhole, BlockStream.direct_eq_zero_iff hpos hwhole.2]
    exact ⟨fun hlarge => ⟨hlarge, hwhole.1, hwhole.2⟩, fun h => h.large⟩
  · rw [if_neg hwhole]
    constructor
    · intro hnone
      omega
    · intro h
      exact absurd ⟨h.aligned, h.whole⟩ hwhole

/-- Before the block that is too large, a read stops at the start of a block at the latest; so the
block is still ahead. -/
theorem obstructed_rest (h : Obstructed w.disk.blockSize position n)
    (hin : position + n ≤ w.length) (hsome : 0 < w.span position n) :
    Obstructed w.disk.blockSize (position + w.span position n) (n - w.span position n) := by
  obtain ⟨lba, hfirst, hlast⟩ := h.whole
  have hpos := w.blockSize_pos
  have hasked := w.span_le_asked position n
  have hstart := Nat.div_add_mod' position w.disk.blockSize
  have hstalls : ¬ Stalls w.disk.blockSize w.length position n := by
    intro hs
    rw [(span_eq_zero_iff (by omega) (by omega)).mpr hs] at hsome
    omega
  have hodd : position % w.disk.blockSize ≠ 0 := by
    intro haligned
    exact hstalls ⟨h.large, haligned, by omega⟩
  have hle : w.span position n ≤ w.disk.blockSize - position % w.disk.blockSize := by
    unfold span
    rw [if_neg (by omega)]
    dsimp only
    rw [if_neg (fun hwhole => hodd hwhole.1)]
    omega
  -- the block with the position in it ends where the next one starts
  have hnext : position / w.disk.blockSize < lba := by
    apply Nat.lt_of_not_le
    intro hbefore
    have hmul := Nat.mul_le_mul_right w.disk.blockSize hbefore
    omega
  have hmul := Nat.mul_le_mul_right w.disk.blockSize hnext
  rw [Nat.succ_mul] at hmul
  exact ⟨h.large, lba, by omega, by omega⟩

end Window

namespace BlockStream

/-! ## Filling a buffer from a disk -/

section Disk
variable {w : Window} {t : BlockStream Disk} {n : Nat}

/-- The next `n` bytes of the window are before the stream, and no block among them is too large. -/
structure Clear (w : Window) (n : Nat) (t : BlockStream Disk) : Prop where
  shows : Shows (fun d => d = w.disk) w t
  isOpen : t.isOpen = true
  inside : t.position + n ≤ w.length
  free : ¬ Obstructed w.disk.blockSize t.position n

/-- A read brings some of the bytes, and the rest is still clear. -/
theorem Clear.read (h : Clear w (n + 1) t) :
    ∃ k t', k ≤ n ∧ read (n + 1) t = .ok (w.slice t.position (k + 1)) t' ∧
      t'.position = t.position + (k + 1) ∧ Clear w (n - k) t' := by
  have hin := h.inside
  have hasked := w.span_le_asked t.position (n + 1)
  have hsome : w.span t.position (n + 1) ≠ 0 := by
    intro hnone
    exact h.free ((w.span_eq_zero_iff (by omega) (by omega)).mp hnone).obstructed
  obtain ⟨t', hread, ht', hp, ho'⟩ := read_disk h.shows h.isOpen (n + 1)
  obtain ⟨k, hk⟩ := Nat.exists_eq_succ_of_ne_zero hsome
  rw [hk] at hread hp hasked
  refine ⟨k, t', by omega, hread, hp, ht', ho', by omega, ?_⟩
  intro hrest
  have hmissing : n - k = n + 1 - (k + 1) := by omega
  rw [hp, hmissing] at hrest
  exact h.free (hrest.of_rest hasked)

/-- A range without a block that is too large is read whole. -/
theorem readExact_disk (h : Clear w n t) :
    ∃ t', readExact read n t = .ok (w.slice t.position n) t' := by
  obtain ⟨t', hread, -⟩ := readWithin_fills w.slice_append w.length_slice
    (fun _ _ h => h.read) (Nat.le_add_right n interruptLimit) h
  exact ⟨t', hread⟩

/-- A block that is too large is taken for the end. -/
theorem readWithin_disk_obstructed (rounds : Nat) (ht : Shows (fun d => d = w.disk) w t)
    (ho : t.isOpen = true) (hin : t.position + n ≤ w.length) (hn : n ≤ rounds)
    (h : Obstructed w.disk.blockSize t.position n) :
    ∃ t', readWithin read rounds n t = .error IoError.shortRead t' := by
  have hpos := w.blockSize_pos
  induction rounds generalizing n t with
  | zero =>
    obtain ⟨lba, hfirst, hlast⟩ := h.whole
    omega
  | succ rounds ih =>
    cases n with
    | zero =>
      obtain ⟨lba, hfirst, hlast⟩ := h.whole
      omega
    | succ n =>
      obtain ⟨t', hread, ht', hp, ho'⟩ := read_disk ht ho (n + 1)
      have hasked := w.span_le_asked t.position (n + 1)
      by_cases hnone : w.span t.position (n + 1) = 0
      · rw [hnone] at hread
        have hnil : w.slice t.position 0 = [] := rfl
        rw [hnil] at hread
        exact ⟨t', readWithin_nil hread⟩
      · have hrest := w.obstructed_rest h hin (by omega)
        obtain ⟨k, hk⟩ := Nat.exists_eq_succ_of_ne_zero hnone
        rw [hk] at hread hp hasked hrest
        obtain ⟨b, got, hgot, hcount⟩ :=
          exists_cons_of_length (w.length_slice t.position (k + 1))
        have hmissing : n + 1 - (k + 1) = n - got.length := by omega
        rw [hgot] at hread
        rw [← hp, hmissing] at hrest
        obtain ⟨t₂, herror⟩ := ih ht' ho' (by omega) (by omega) hrest
        refine ⟨t₂, ?_⟩
        rw [readWithin_cons hread, herror]

end Disk

/-! ## Devices that fill their buffers -/

variable {δ : Type} [BlockDevice δ]

/-- **A device that fills the buffer of a read that succeeds**, in the states for which `Sound`
holds.  It may deliver other bytes each time. -/
structure Fills (size : Nat) (Sound : δ → Prop) : Prop where
  size_pos : 0 < size
  blockSize : ∀ {d}, Sound d → BlockDevice.blockSize d = size
  reads : ∀ {d} lba n, Sound d → IoOn.Ends (BlockDevice.readBlocks lba n) d
    (fun b d' => b.length = n ∧ Sound d') fun _ d' => Sound d'

theorem fills_disk {k : Disk} (hpos : 0 < k.blockSize) : Fills k.blockSize fun d => d = k := by
  refine ⟨hpos, ?_, ?_⟩
  · rintro d rfl
    rfl
  · rintro d lba n rfl
    show IoOn.Ends (fun d => IoOn.ofExcept (d.read lba n) d) d _ _
    unfold IoOn.Ends
    dsimp only
    cases hread : d.read lba n with
    | ok b => exact ⟨Disk.length_of_read hread, rfl⟩
    | error e => rfl

/-- An open stream has a sound device, and a cache with a number holds a block. -/
structure Ready (size : Nat) (Sound : δ → Prop) (s : BlockStream δ) : Prop where
  sound : s.isOpen = true → Sound s.device
  cached : ∀ lba, s.cachedLba = some lba → s.cache.length = size

variable {size : Nat} {Sound : δ → Prop} {s : BlockStream δ}

omit [BlockDevice δ] in
theorem Ready.move (h : Ready size Sound s) (position : Nat) :
    Ready size Sound { s with position } :=
  ⟨h.sound, h.cached⟩

theorem ready_readDevice (hf : Fills size Sound) (h : Ready size Sound s) (ho : s.isOpen = true)
    (lba n : Nat) :
    IoOn.Ends (readDevice lba n) s
      (fun b s' => b.length = n ∧ Ready size Sound s' ∧ s'.isOpen = true)
      fun _ s' => Ready size Sound s' ∧ s'.isOpen = true := by
  have hread := hf.reads (s.firstLba + lba) n (h.sound ho)
  unfold IoOn.Ends readDevice IoOn.zoom
  cases hr : BlockDevice.readBlocks (s.firstLba + lba) n s.device with
  | ok b d =>
    obtain ⟨hb, hd⟩ := hread.ok hr
    exact ⟨hb, ⟨fun _ => hd, h.cached⟩, ho⟩
  | error e d => exact ⟨⟨fun _ => hread.error hr, h.cached⟩, ho⟩

theorem ready_cachedBlock (hf : Fills size Sound) (h : Ready size Sound s) (ho : s.isOpen = true)
    (lba : Nat) :
    IoOn.Ends (cachedBlock lba) s (fun b s' => b.length = size ∧ Ready size Sound s')
      fun _ s' => Ready size Sound s' := by
  by_cases hc : s.cachedLba = some lba
  · have hsame : cachedBlock lba s = .ok s.cache s := by
      simp only [cachedBlock, IoOn.bind_get, hc, if_true]
      rfl
    unfold IoOn.Ends
    rw [hsame]
    exact ⟨h.cached lba hc, h⟩
  · have hrefill : cachedBlock lba s = refill lba s := by
      simp only [cachedBlock, IoOn.bind_get, hc, if_false]
    -- a cache without a number may hold anything
    have hbare : Ready size Sound { s with cachedLba := none } := ⟨h.sound, fun _ hn => by cases hn⟩
    have hsize : s.blockSize = size := hf.blockSize (h.sound ho)
    have hread := ready_readDevice hf hbare ho lba size
    unfold IoOn.Ends
    rw [hrefill, refill, hsize]
    cases hr : readDevice lba size { s with cachedLba := none } with
    | ok b s' =>
      obtain ⟨hb, hs', -⟩ := hread.ok hr
      refine ⟨hb, hs'.sound, ?_⟩
      intro _ _
      exact hb
    | error e s' =>
      obtain ⟨hs', -⟩ := hread.error hr
      refine ⟨hs'.sound, ?_⟩
      intro lba' hlabel
      have hnone : s'.cachedLba = none := by
        unfold readDevice IoOn.zoom at hr
        split at hr <;> cases hr
        rfl
      rw [hnone] at hlabel
      cases hlabel

/-- **What a read brings.**  Nothing comes where nothing was asked for or nothing is left, and where
the read stalls. -/
theorem ready_read (hf : Fills size Sound) (h : Ready size Sound s) (ho : s.isOpen = true)
    (n : Nat) :
    IoOn.Ends (read n) s
      (fun b s' => Ready size Sound s' ∧
        (s.position < s.length → 0 < n → (b = [] ↔ Stalls s.blockSize s.length s.position n)))
      fun _ s' => Ready size Sound s' := by
  have hpos := hf.size_pos
  have hsize : s.blockSize = size := hf.blockSize (h.sound ho)
  unfold IoOn.Ends
  rw [read_eq n s ho, hsize]
  by_cases hnone : n = 0 ∨ s.length ≤ s.position
  · rw [if_pos hnone]
    exact ⟨h, fun _ _ => by omega⟩
  rw [if_neg hnone]
  dsimp only
  by_cases hwhole : s.position % size = 0 ∧ size ≤ min (s.length - s.position) n
  · rw [if_pos hwhole]
    have hread := ready_readDevice hf h ho (s.position / size)
      (min (min (s.length - s.position) n) directLimit / size * size)
    generalize hr : readDevice _ _ s = r at hread ⊢
    cases r with
    | error e s' => exact (hread.error hr).1
    | ok b s' =>
      obtain ⟨hb, hs', -⟩ := hread.ok hr
      refine ⟨hs'.move _, fun _ _ => ?_⟩
      rw [← List.length_eq_zero_iff, hb, direct_eq_zero_iff hpos hwhole.2]
      exact ⟨fun hlarge => ⟨hlarge, hwhole.1, hwhole.2⟩, fun hs => hs.large⟩
  · rw [if_neg hwhole]
    have hread := ready_cachedBlock hf h ho (s.position / size)
    have hoffset := Nat.mod_lt s.position hpos
    cases hr : cachedBlock (s.position / size) s with
    | error e s' => exact hread.error hr
    | ok block s' =>
      obtain ⟨hblock, hs'⟩ := hread.ok hr
      refine ⟨hs'.move _, fun _ _ => ?_⟩
      constructor
      · intro hnil
        have hlen := congrArg List.length hnil
        simp only [Bytes.slice, List.length_take, List.length_drop, hblock, List.length_nil] at hlen
        omega
      · intro hs
        exact absurd ⟨hs.aligned, hs.whole⟩ hwhole

/-- Every operation keeps a stream ready. -/
theorem ready_after (hf : Fills size Sound) (h : Ready size Sound s) (op : Op) :
    Ready size Sound (s.after op) := by
  cases op with
  | read n =>
    show Ready size Sound (IoOn.outcome (read n) s).2
    by_cases ho : s.isOpen = true
    · have hends := ready_read hf h ho n
      cases hr : read n s with
      | ok b s' =>
        rw [IoOn.outcome_ok hr]
        exact (hends.ok hr).1
      | error e s' =>
        rw [IoOn.outcome_error hr]
        exact hends.error hr
    · rw [IoOn.outcome_error (read_closed n (Bool.not_eq_true _ ▸ ho))]
      exact h
  | seek place =>
    obtain ⟨position, hmoved⟩ := s.after_seek place
    rw [hmoved]
    exact h.move position
  | write b => exact h
  | flush => exact h
  | close =>
    rcases s.after_close with hsame | ⟨d, hclosed⟩
    · rw [hsame]
      exact h
    · rw [hclosed]
      exact ⟨fun hn => absurd hn Bool.false_ne_true, h.cached⟩

/-- So does every run. -/
theorem ready_afterAll (hf : Fills size Sound) (h : Ready size Sound s) (ops : List Op) :
    Ready size Sound (s.afterAll ops) := by
  induction ops generalizing s with
  | nil => exact h
  | cons op ops ih => exact ih (ready_after hf h op)

/-! ## The whole of it -/

/-- Filling a buffer from a device on which no read fails is filling it from the disk. -/
theorem readExact_quiet {w : Window} {failures : δ → List IoError}
    (hd : FaultLog w.disk Sound failures) (hs : Shows Sound w s) (ho : s.isOpen = true) (n : Nat)
    (hquiet : failures (IoOn.outcome (readExact read n) s).2.device = failures s.device) :
    ∃ t : BlockStream Disk, Shows (fun d => d = w.disk) w t ∧ t.isOpen = true ∧
      t.position = s.position ∧
      (IoOn.outcome (readExact read n) s).1 = (IoOn.outcome (readExact read n) t).1 := by
  have hnew : Shows (fun d => d = w.disk) w
      { device := w.disk, firstLba := w.firstLba, blockCount := w.blockCount } := shows_new rfl
  have ht := hnew.move s.position
  refine ⟨_, ht, rfl, rfl, ?_⟩
  rcases ((reads_read hd).readExact n s _ ⟨⟨⟨hs, ho⟩, ht, rfl⟩, rfl⟩).inv with
    ⟨a, s', t', es, hx, hy, -⟩ | ⟨e, s', t', es, hx, hy, -⟩ | ⟨e, s', es, hx, -, hsince, hne, -⟩
  · rw [IoOn.outcome_ok hx, IoOn.outcome_ok hy]
  · rw [IoOn.outcome_error hx, IoOn.outcome_error hy]
  · rw [IoOn.outcome_error hx] at hquiet
    have hes : es ++ failures s.device = failures s.device := hsince.symm.trans hquiet
    exact absurd (List.append_left_eq_self.mp hes) hne

/-- **When a read brings nothing, and what that does to whoever fills a buffer.**  First, over any
device that fills its buffers and after any operations: a read inside the window for at least one
byte that succeeds brings nothing iff it stalls.  Second, over a device with fixed contents: where
no read of the device fails, a buffer is filled with the bytes of the window, unless the range has
a whole block in it that is too large to be taken past the cache; then filling it ends as if the
window had ended early. -/
theorem nothing_read_iff_stalls :
    (∀ {size : Nat} {Sound : δ → Prop}, Fills size Sound → ∀ {d : δ}, Sound d →
      ∀ (firstLba blockCount : Nat) (ops : List Op),
      let s := afterAll { device := d, firstLba, blockCount } ops
      s.isOpen = true → s.position < s.length → ∀ n b s', 0 < n → read n s = .ok b s' →
        (b = [] ↔ Stalls s.blockSize s.length s.position n)) ∧
    ∀ {w : Window} {Sound : δ → Prop} {failures : δ → List IoError},
      FaultLog w.disk Sound failures → ∀ {d : δ}, Sound d → ∀ (ops : List Op),
      let s := afterAll { device := d, firstLba := w.firstLba, blockCount := w.blockCount } ops
      s.isOpen = true → ∀ n, s.position + n ≤ w.length →
        failures (IoOn.outcome (readExact read n) s).2.device = failures s.device →
        (¬ Obstructed w.disk.blockSize s.position n →
          (IoOn.outcome (readExact read n) s).1 = .ok (w.slice s.position n)) ∧
        (Obstructed w.disk.blockSize s.position n →
          (IoOn.outcome (readExact read n) s).1 = .error IoError.shortRead) := by
  refine ⟨?_, ?_⟩
  · intro size Sound hf d hd firstLba blockCount ops s ho hin n b s' hn hread
    have hnew : Ready size Sound { device := d, firstLba, blockCount } :=
      ⟨fun _ => hd, fun _ hlabel => by cases hlabel⟩
    obtain ⟨-, hiff⟩ := (ready_read hf (ready_afterAll hf hnew ops) ho n).ok hread
    exact hiff hin hn
  · intro w Sound failures hd d hsound ops s ho n hin hquiet
    have hs : Shows Sound w s := shows_afterAll hd.toFixedContents (shows_new hsound) ops
    obtain ⟨t, ht, hot, hp, hsame⟩ := readExact_quiet hd hs ho n hquiet
    rw [hsame, ← hp]
    rw [← hp] at hin
    refine ⟨?_, ?_⟩
    · intro hclear
      obtain ⟨t', hread⟩ := readExact_disk ⟨ht, hot, hin, hclear⟩
      rw [IoOn.outcome_ok hread]
    · intro hblock
      obtain ⟨t', hread⟩ : ∃ t', readExact read n t = .error IoError.shortRead t' :=
        readWithin_disk_obstructed _ ht hot hin (Nat.le_add_right n interruptLimit) hblock
      rw [IoOn.outcome_error hread]

/-- Two blocks, each by a byte too large to be taken past the cache. -/
def largeBlocks : Window := ⟨⟨Image.zeros 131074, 65537⟩, 0, 2, by decide, by decide⟩

/-- Nothing comes for the first block, and the window cannot be read as a whole.  Two bytes can be
read, the last of one block and the first of the other. -/
theorem nothing_read_of_large_blocks :
    let s : BlockStream Disk := { device := largeBlocks.disk, firstLba := 0, blockCount := 2 }
    (∃ s', read 65537 s = .ok [] s') ∧ Stalls s.blockSize s.length s.position 65537 ∧
    (IoOn.outcome (readExact read 131074) s).1 = .error IoError.shortRead ∧
    (IoOn.outcome (readExact read 2) (s.afterAll [.seek (.start 65536)])).1 =
      .ok (largeBlocks.slice 65536 2) := by
  intro s
  obtain ⟨hnothing, hfilled⟩ := nothing_read_iff_stalls (δ := Disk)
  have hread : read 65537 s = .ok [] (IoOn.outcome (read 65537) s).2 :=
    IoOn.ok_of_toOption (by decide +kernel)
  have hstalls := (hnothing (fills_disk (k := largeBlocks.disk) (by decide)) rfl 0 2 [] rfl
    (by decide +kernel) 65537 [] _ (by decide) hread).mp rfl
  have hwhole : Obstructed 65537 0 131074 := ⟨by decide, 0, by decide, by decide⟩
  have hbetween : ¬ Obstructed 65537 65536 2 := by
    rintro ⟨-, lba, hfirst, hlast⟩
    omega
  have hdisk := Disk.faultLog largeBlocks.disk
  refine ⟨⟨_, hread⟩, hstalls, ?_, ?_⟩
  · exact (hfilled (w := largeBlocks) hdisk rfl [] rfl 131074 (by decide +kernel) rfl).2 hwhole
  · exact (hfilled (w := largeBlocks) hdisk rfl [.seek (.start 65536)] rfl 2 (by decide +kernel)
      rfl).1 hbetween

end BlockStream
end ThumbDrive

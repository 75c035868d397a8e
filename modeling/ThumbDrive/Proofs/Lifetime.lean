import ThumbDrive.Proofs.Reach
import ThumbDrive.Proofs.Session

/-! # A device is closed once

A device is opened for one session.  It belongs to whoever looks for the partition, then to the
stream, then to the session, and each of them may be the last to have it: the search may fail or
find nothing, the mount may fail, the session may be closed by its user or only when it is dropped.

`Journal` is said of a device whose state tells the calls made to it.  The whole argument is about
the calls since the device was opened: as long as a session is open they are reads
(`Session.Holding`), and the last one of all is the only close.  It rests on `Reaches`: a call on a
session can do nothing but move and read.  The device may otherwise behave as it likes, deliver
other bytes each time, and fail to close. -/
namespace ThumbDrive

variable {δ : Type} [BlockDevice δ]

/-! ## Devices that tell their calls -/

/-- A device whose state tells all calls made to it, the latest first. -/
structure Journal (calls : δ → List Probe.Call) : Prop where
  read : ∀ d lba length,
    calls (ending (BlockDevice.readBlocks lba length d)) = .read lba length :: calls d
  close : ∀ d, calls (ending (BlockDevice.close d)) = .close :: calls d

/-- A device with the calls made to it, the latest first. -/
structure Journaled (δ : Type) where
  device : δ
  journal : List Probe.Call := []

namespace Journaled

/-- Makes a call, and writes it down whatever becomes of it. -/
def call {α : Type} (c : Probe.Call) (act : IoOn δ α) : IoOn (Journaled δ) α :=
  IoOn.zoom device (fun d x => { device := d, journal := c :: x.journal }) act

instance : BlockDevice (Journaled δ) where
  blockSize x := BlockDevice.blockSize x.device
  blockCount x := BlockDevice.blockCount x.device
  readBlocks lba length := call (.read lba length) (BlockDevice.readBlocks lba length)
  leftover x := BlockDevice.leftover x.device
  close := call .close BlockDevice.close

omit [BlockDevice δ] in
theorem journal_call {α : Type} (c : Probe.Call) (act : IoOn δ α) (x : Journaled δ) :
    (ending (call c act x)).journal = c :: x.journal := by
  unfold call IoOn.zoom
  cases act x.device <;> rfl

/-- Every device can be made to tell its calls. -/
theorem journal_tells : Journal (journal : Journaled δ → List Probe.Call) where
  read _ _ _ := journal_call _ _ _
  close _ := journal_call _ _ _

end Journaled

/-- A probe tells its calls, also those that fail. -/
theorem Probe.journal_tells : Journal Probe.journal where
  read p lba length := by
    show (ending (readBlocks lba length p)).journal = _
    simp only [readBlocks, IoOn.bind_modify, IoOn.bind_get]
    cases Fault.strike? lba (length / (note (.read lba length) p).disk.blockSize)
        (note (.read lba length) p).faults with
    | some x => rfl
    | none => cases hd : (note (.read lba length) p).disk.read lba length <;> rfl
  close p := by
    show (ending (close p)).journal = _
    simp only [close, IoOn.bind_modify, IoOn.bind_get]
    cases (note .close p).closeError <;> rfl

/-! ## Nothing but reads -/

namespace Probe.Call

/-- The call for the `length` bytes from block `lba` on, as a pair of numbers. -/
def ofPair (r : Nat × Nat) : Probe.Call := .read r.1 r.2

end Probe.Call

/-- From `d` to `d'` the device was asked for the blocks in `reads`, the latest first, and for
nothing else. -/
def OnlyRead (calls : δ → List Probe.Call) (reads : List (Nat × Nat)) (d d' : δ) : Prop :=
  calls d' = reads.map .ofPair ++ calls d

namespace OnlyRead
variable {calls : δ → List Probe.Call} {reads reads' : List (Nat × Nat)} {d d' d'' : δ}

omit [BlockDevice δ] in
theorem refl (d : δ) : OnlyRead calls [] d d := rfl

omit [BlockDevice δ] in
theorem trans (h : OnlyRead calls reads d d') (h' : OnlyRead calls reads' d' d'') :
    OnlyRead calls (reads' ++ reads) d d'' := by
  unfold OnlyRead at *
  rw [h', h, List.map_append, List.append_assoc]

theorem one (hj : Journal calls) (d : δ) (lba length : Nat) :
    OnlyRead calls [(lba, length)] d (ending (BlockDevice.readBlocks lba length d)) :=
  hj.read d lba length

end OnlyRead

variable {calls : δ → List Probe.Call}

namespace BlockStream

theorem ending_readDevice (lba length : Nat) (s : BlockStream δ) :
    ending (readDevice lba length s) =
      { s with device := ending (BlockDevice.readBlocks (s.firstLba + lba) length s.device) } := by
  unfold readDevice IoOn.zoom
  cases BlockDevice.readBlocks (s.firstLba + lba) length s.device <;> rfl

/-- The cache is filled by one read of the device, if it is filled at all. -/
theorem onlyRead_cachedBlock (hj : Journal calls) (lba : Nat) (s : BlockStream δ) :
    (ending (cachedBlock lba s)).isOpen = s.isOpen ∧
      ∃ reads, OnlyRead calls reads s.device (ending (cachedBlock lba s)).device := by
  have hcached : cachedBlock lba s =
      if s.cachedLba = some lba then .ok s.cache s else refill lba s := by
    simp only [cachedBlock, IoOn.bind_get]
    split <;> rfl
  rw [hcached]
  split
  · exact ⟨rfl, [], .refl s.device⟩
  · have hread := ending_readDevice lba s.blockSize { s with cachedLba := none }
    unfold refill
    cases hr : readDevice lba s.blockSize { s with cachedLba := none } <;>
      rw [hr] at hread <;> cases hread <;>
      exact ⟨rfl, _, .one hj s.device (s.firstLba + lba) s.blockSize⟩

/-- A read of the stream reads the device at most once, and leaves the stream open if it was. -/
theorem onlyRead_read (hj : Journal calls) (n : Nat) (s : BlockStream δ) :
    (ending (read n s)).isOpen = s.isOpen ∧
      ∃ reads, OnlyRead calls reads s.device (ending (read n s)).device := by
  cases ho : s.isOpen with
  | false =>
    rw [read_closed n ho]
    exact ⟨ho, [], .refl s.device⟩
  | true =>
    rw [read_eq n s ho]
    split
    · exact ⟨ho, [], .refl s.device⟩
    · dsimp only
      split
      · have hread := ending_readDevice (s.position / s.blockSize)
          (min (min (s.length - s.position) n) directLimit / s.blockSize * s.blockSize) s
        cases hr : readDevice (s.position / s.blockSize)
            (min (min (s.length - s.position) n) directLimit / s.blockSize * s.blockSize) s <;>
          rw [hr] at hread <;> cases hread <;> exact ⟨ho, _, .one hj s.device _ _⟩
      · obtain ⟨hopen, hreads⟩ := onlyRead_cachedBlock hj (s.position / s.blockSize) s
        rw [ho] at hopen
        cases hr : cachedBlock (s.position / s.blockSize) s <;>
          rw [hr] at hopen hreads <;> exact ⟨hopen, hreads⟩

/-- However a stream is moved and read, the device below is only read. -/
theorem Reaches.onlyRead (hj : Journal calls) {s s' : BlockStream δ} (h : Reaches s s') :
    s'.isOpen = s.isOpen ∧ ∃ reads, OnlyRead calls reads s.device s'.device := by
  induction h with
  | start => exact ⟨rfl, [], .refl s.device⟩
  | move _ position ih => exact ih
  | @read s₁ _ n ih =>
    obtain ⟨hopen, reads, hreads⟩ := ih
    obtain ⟨hopen', reads', hreads'⟩ := onlyRead_read hj n s₁
    exact ⟨hopen'.trans hopen, reads' ++ reads, hreads.trans hreads'⟩

/-- An open stream that is given up closes its device. -/
theorem calls_release (hj : Journal calls) {s : BlockStream δ} (ho : s.isOpen = true) :
    calls s.release = .close :: calls s.device := by
  have hdevice := hj.close s.device
  unfold release
  simp only [close, IoOn.bind_get, ho, if_true, IoOn.bind_set, IoOn.zoom]
  cases hc : BlockDevice.close s.device <;> rw [hc] at hdevice <;> exact hdevice

end BlockStream

/-! ## Opening -/

namespace Session

/-- Looking for the partition reads the device, whatever it finds. -/
theorem onlyRead_findPartition (hj : Journal calls) (d : δ) :
    ∃ reads, OnlyRead calls reads d (ending (findPartition d)) := by
  have hlook : ∀ size count, ∃ reads,
      OnlyRead calls reads d (ending (Partition.look size count d)) := by
    intro size count
    unfold Partition.look
    split
    · exact ⟨[], .refl d⟩
    · rw [ending_bind]
      have hone := OnlyRead.one hj d 0 size
      cases hr : BlockDevice.readBlocks 0 size d <;> rw [hr] at hone <;> exact ⟨_, hone⟩
  obtain ⟨reads, hfind⟩ : ∃ reads, OnlyRead calls reads d (ending (Partition.find d)) :=
    hlook (BlockDevice.blockSize d) (BlockDevice.blockCount d)
  unfold findPartition
  rw [ending_bind]
  cases hf : Partition.find d with
  | error e d' =>
    rw [hf] at hfind
    exact ⟨reads, hfind⟩
  | ok finding d' =>
    rw [hf] at hfind
    dsimp only
    cases finding.partition? with
    | none => exact ⟨reads, hfind⟩
    | some q =>
      have hone := OnlyRead.one hj d' q.firstLba (BlockDevice.blockSize d')
      dsimp only
      rw [IoOn.bind_get, ending_bind]
      cases hr : BlockDevice.readBlocks q.firstLba (BlockDevice.blockSize d') d' <;>
        rw [hr] at hone <;> exact ⟨_, hfind.trans hone⟩

theorem calls_closed (hj : Journal calls) (d : δ) : calls (closed d) = .close :: calls d := by
  unfold closed
  rw [IoOn.outcome_snd]
  exact hj.close d

/-- From `d` to `d'` the device was read, and then closed. -/
def Spent (calls : δ → List Probe.Call) (d d' : δ) : Prop :=
  ∃ reads : List (Nat × Nat), calls d' = .close :: (reads.map .ofPair ++ calls d)

/-- **A session on a device that was handed over in the state `d`.**  While the session has a
volume, its stream is open and the device was only read; afterwards the device has been closed. -/
def Holding (calls : δ → List Probe.Call) (d : δ) (s : Session δ) : Prop :=
  match s.state with
  | .mounted _ x => x.isOpen = true ∧ ∃ reads, OnlyRead calls reads d x.device
  | .closed d' => Spent calls d d'

omit [BlockDevice δ] in
theorem Holding.mounted {d : δ} {s : Session δ} {v : Volume} {x : BlockStream δ}
    (h : Holding calls d s) (hs : s.state = .mounted v x) :
    x.isOpen = true ∧ ∃ reads, OnlyRead calls reads d x.device := by
  simpa only [Holding, hs] using h

/-- A mount hands the device to a session, or has closed it. -/
theorem holding_mount (hj : Journal calls) (name : String) (d : δ) :
    (∃ s, mount name d = .ok s ∧ s.isOpen = true ∧ s.deviceName = name ∧ Holding calls d s) ∨
    (∃ e d', mount name d = .error ⟨e, some d'⟩ ∧ Spent calls d d') := by
  obtain ⟨reads, hfind⟩ := onlyRead_findPartition hj d
  unfold mount
  cases hf : findPartition d with
  | error e d' =>
    rw [hf] at hfind
    refine .inr ⟨_, _, rfl, reads, ?_⟩
    rw [calls_closed hj d']
    exact congrArg _ hfind
  | ok found d' =>
    rw [hf] at hfind
    cases found with
    | none =>
      refine .inr ⟨_, _, rfl, reads, ?_⟩
      rw [calls_closed hj d']
      exact congrArg _ hfind
    | some q =>
      -- from here on the device belongs to the stream
      have hmount := Volume.uses_mount (δ := δ)
        { device := d', firstLba := q.1.firstLba, blockCount := q.1.blockCount }
      obtain ⟨hopen, reads', hreads⟩ := BlockStream.Reaches.onlyRead hj hmount
      have hall := hfind.trans hreads
      dsimp only
      cases hv : (Volume.mount : IoOn (BlockStream δ) Volume)
          { device := d', firstLba := q.1.firstLba, blockCount := q.1.blockCount } with
      | error e x =>
        rw [hv] at hopen hall
        refine .inr ⟨_, _, rfl, reads' ++ reads, ?_⟩
        rw [BlockStream.calls_release hj (show x.isOpen = true from hopen)]
        exact congrArg _ hall
      | ok v x =>
        rw [hv] at hopen hall
        exact .inl ⟨_, rfl, rfl, rfl, hopen, _, hall⟩

/-! ## Use -/

/-- What can be asked of a session. -/
inductive Op where
  | task (t : FileTask)
  | close
  deriving DecidableEq, Repr

/-- A session after something was asked of it, whatever it answered. -/
def after (s : Session δ) : Op → Session δ
  | .task t => (s.ask t).2
  | .close => s.close

/-- A session after all that was asked of it. -/
def afterAll (s : Session δ) (ops : List Op) : Session δ := ops.foldl after s

/-- The device at the end of a session's life: it is opened, asked for things, and dropped.  There
is none if none was opened. -/
def lifetime (name : String) (granted : Bool) (device : Except IoError δ) (ops : List Op) :
    Option δ :=
  match openWith name granted device with
  | .error refusal => refusal.device
  | .ok s => some (s.afterAll ops).close.device

omit [BlockDevice δ] in
theorem leaves_eq_ending {σ α : Type} (x : EStateM.Result StorageError σ α) :
    leaves x = ending x := by
  cases x <;> rfl

/-- A session that has no volume any more fails every task, and is left as it is. -/
theorem ask_closed {s : Session δ} {d : δ} (hs : s.state = .closed d) (t : FileTask) :
    s.ask t = (.error (.ioFailure ("Session for " ++ s.deviceName ++ " is closed")), s) := by
  cases t with
  | list path => simp only [ask, list, onVolume, hs, answer, leaves, Except.map]
  | read path => simp only [ask, read, onVolume, hs, answer, leaves, Except.map]

/-- A task moves and reads the stream of the session, and changes nothing else. -/
theorem ask_mounted {s : Session δ} {v : Volume} {x : BlockStream δ} (hs : s.state = .mounted v x)
    (t : FileTask) :
    ∃ y, BlockStream.Reaches x y ∧ (s.ask t).2 = { s with state := .mounted v y } := by
  cases t with
  | list path =>
    have hreach := list_reaches path s
    rw [hs] at hreach
    simpa only [ask, leaves_eq_ending] using hreach
  | read path =>
    have hreach := read_reaches path s
    rw [hs] at hreach
    simpa only [ask, leaves_eq_ending] using hreach

theorem after_closed {s : Session δ} {d : δ} (hs : s.state = .closed d) (op : Op) :
    s.after op = s := by
  cases op with
  | task t => exact congrArg Prod.snd (ask_closed hs t)
  | close => simp only [after, close, hs]

theorem after_close {s : Session δ} {v : Volume} {x : BlockStream δ}
    (hs : s.state = .mounted v x) : s.after .close = { s with state := .closed x.release } := by
  simp only [after, close, hs]

/-- Whatever is asked of a session, it holds its device as it should; it is open afterwards if it
was and was not closed. -/
theorem holding_after (hj : Journal calls) {d : δ} {s : Session δ} (h : Holding calls d s)
    (op : Op) :
    Holding calls d (s.after op) ∧ (s.after op).deviceName = s.deviceName ∧
      ((s.after op).isOpen = true ↔ s.isOpen = true ∧ op ≠ .close) := by
  cases hs : s.state with
  | closed d' =>
    have hopen : s.isOpen = false := by simp only [isOpen, hs]
    rw [after_closed hs, hopen]
    simp [h]
  | mounted v x =>
    have hopen : s.isOpen = true := by simp only [isOpen, hs]
    obtain ⟨hx, reads, hreads⟩ := h.mounted hs
    cases op with
    | task t =>
      obtain ⟨y, hreach, hy⟩ := ask_mounted hs t
      obtain ⟨hy', reads', hreads'⟩ := hreach.onlyRead hj
      have hafter : s.after (.task t) = { s with state := .mounted v y } := hy
      rw [hafter]
      refine ⟨⟨hy'.trans hx, reads' ++ reads, hreads.trans hreads'⟩, rfl, ?_⟩
      simp [isOpen, hs]
    | close =>
      rw [after_close hs]
      refine ⟨⟨reads, ?_⟩, rfl, ?_⟩
      · rw [BlockStream.calls_release hj hx]
        exact congrArg _ hreads
      · simp [isOpen]

theorem holding_afterAll (hj : Journal calls) {d : δ} {s : Session δ} (h : Holding calls d s)
    (ops : List Op) :
    Holding calls d (s.afterAll ops) ∧ (s.afterAll ops).deviceName = s.deviceName ∧
      ((s.afterAll ops).isOpen = true ↔ s.isOpen = true ∧ .close ∉ ops) := by
  induction ops generalizing s with
  | nil => exact ⟨h, rfl, by simp [afterAll]⟩
  | cons op ops ih =>
    obtain ⟨hstep, hname, hopen⟩ := holding_after hj h op
    obtain ⟨hrest, hname', hopen'⟩ := ih hstep
    refine ⟨hrest, hname'.trans hname, hopen'.trans ?_⟩
    rw [hopen, List.mem_cons, not_or, and_assoc]
    exact and_congr_right fun _ => and_congr_left fun _ => ne_comm

/-- Dropping a session leaves its device closed. -/
theorem Holding.spent (hj : Journal calls) {d : δ} {s : Session δ} (h : Holding calls d s) :
    Spent calls d s.close.device := by
  have hclose := (holding_after hj h .close).1
  have hshut : ((s.after .close).isOpen = true) ↔ _ := (holding_after hj h .close).2.2
  cases hs : (s.after .close).state with
  | closed d' =>
    have hdevice : s.close.device = d' := by
      show (s.after .close).device = d'
      simp only [device, hs]
    simpa only [Holding, hs, hdevice] using hclose
  | mounted v x => simp [isOpen, hs] at hshut

/-- **A device is closed exactly once, and not read afterwards**, if it was opened: whatever the
search for a partition, the mount and the tasks came to, and however often the session was closed.
Without a grant, or if the device would not open, there is no device to close.

A session that could be opened is open until it is closed.  Till then its device is only read;
afterwards every task fails, and nothing changes any more. -/
theorem device_closed_once (hj : Journal calls) (name : String) (granted : Bool)
    (device : Except IoError δ) (ops : List Op) :
    (∀ d, granted = true → device = .ok d →
      ∃ (d' : δ) (reads : List (Nat × Nat)), lifetime name granted device ops = some d' ∧
        calls d' = .close :: (reads.map Probe.Call.ofPair ++ calls d)) ∧
    (granted = false ∨ (∃ e, device = .error e) → lifetime name granted device ops = none) ∧
    (∀ d opened, device = .ok d → openWith name granted device = .ok opened →
      let s := opened.afterAll ops
      (s.isOpen = true ↔ .close ∉ ops) ∧
      (s.isOpen = true → ∃ reads, OnlyRead calls reads d s.device) ∧
      (s.isOpen = false → s.close = s ∧ ∀ t, s.ask t =
        (.error (.ioFailure ("Session for " ++ name ++ " is closed")), s))) := by
  refine ⟨?_, ?_, ?_⟩
  · rintro d rfl rfl
    show ∃ d' reads, (match mount name d with
      | .error refusal => refusal.device
      | .ok s => some (s.afterAll ops).close.device) = some d' ∧ _
    rcases holding_mount hj name d with ⟨s, hs, -, -, hhold⟩ | ⟨e, d', hs, reads, hreads⟩
    · obtain ⟨reads, hreads⟩ := (holding_afterAll hj hhold ops).1.spent hj
      rw [hs]
      exact ⟨_, reads, rfl, hreads⟩
    · rw [hs]
      exact ⟨d', reads, rfl, hreads⟩
  · rintro (rfl | ⟨e, rfl⟩)
    · rfl
    · cases granted <;> rfl
  · rintro d opened rfl hopened s
    obtain ⟨rfl, hmount⟩ := openWith_ok hopened
    rcases holding_mount hj name d with ⟨s₀, hs₀, hopen₀, hname₀, hhold⟩ | ⟨e, d', hs₀, -⟩
    · obtain rfl : s₀ = opened := Except.ok.inj (hs₀.symm.trans hmount)
      obtain ⟨hhold', hname, hopen⟩ := holding_afterAll hj hhold ops
      refine ⟨by simpa [hopen₀] using hopen, ?_, ?_⟩
      · intro ho
        cases hs : s.state with
        | mounted v x =>
          have hdevice : s.device = x.device := by simp only [Session.device, hs]
          rw [hdevice]
          exact (hhold'.mounted hs).2
        | closed d' => simp [isOpen, hs] at ho
      · intro ho
        cases hs : s.state with
        | mounted v x => simp [isOpen, hs] at ho
        | closed d' =>
          refine ⟨by simp only [close, hs], fun t => ?_⟩
          rw [ask_closed hs t, ← hname₀, ← hname]
    · cases hs₀.symm.trans hmount

/-- The listing fails with the block of the root directory, the session is closed twice, with a read
in between, and the device complains about being closed.  It was closed once, after its last
read. -/
theorem device_closed_once_stuck :
    let probe : Probe :=
      { disk := smallDisk
        faults := [⟨2, some 1, .other "unplugged"⟩]
        closeError := some (.other "stuck") }
    let ops : List Op := [.task (.list "/"), .close, .task (.read "/a"), .close]
    ((lifetime "stick" true (.ok probe) ops).map fun p => p.journal.take 2) =
      some [.close, .read 2 512] ∧
    ∃ (p : Probe) (reads : List (Nat × Nat)), lifetime "stick" true (.ok probe) ops = some p ∧
      p.journal = .close :: (reads.map Probe.Call.ofPair ++ []) := by
  intro probe ops
  exact ⟨by decide +kernel,
    (device_closed_once Probe.journal_tells "stick" true (.ok probe) ops).1 probe rfl rfl⟩

end Session
end ThumbDrive

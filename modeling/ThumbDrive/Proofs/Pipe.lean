import ThumbDrive.BulkOnly.Target
import ThumbDrive.Proofs.Contents
import ThumbDrive.Proofs.Wrapper

/-! # Pipes with a target behind them

A target takes a command wrapper off the pipe and queues what it has to say: the data, if any was
asked for, and a status with the tag of the command.  The host takes from the front of the queue,
and what does not fit stays there.  `Fifo` says this of any pipe.  It leaves open what the target
answers (`Answers`), and whether anything may go wrong on the way (`Faults`).  A transfer that fails
does no harm: a command is lost before the target has seen it, and nothing that is queued is lost.
Where things may go wrong, a target may also say nothing but that a command has failed
(`CommandWrapper.Queues`).

Two kinds of targets with the contents of a disk are told apart.  One that `Serves` the disk may
refuse and cut short whatever it likes, but what it sends for a read is what is on the disk.  One
that `Conforms` answers every read of blocks that are there, and in full.

A `Line` with a `Target` at its end is a pipe of either kind, as the target is.  `Faulty` makes the
transfers of any such pipe fail on any schedule. -/
namespace ThumbDrive

/-! ## How runs end -/

namespace IoOn
variable {σ α β : Type}

/-- A run ends well, and then `done`; or it fails, and then `failed`. -/
def Ends (x : IoOn σ α) (s : σ) (done : α → σ → Prop) (failed : IoError → σ → Prop) : Prop :=
  match x s with
  | .ok a s' => done a s'
  | .error e s' => failed e s'

namespace Ends
variable {x : IoOn σ α} {f : α → IoOn σ β} {s s' : σ} {a : α} {e : IoError}
  {done done' : α → σ → Prop} {then' : β → σ → Prop} {failed failed' : IoError → σ → Prop}

theorem ok (h : Ends x s done failed) (hx : x s = .ok a s') : done a s' := by
  simpa only [Ends, hx] using h

theorem error (h : Ends x s done failed) (hx : x s = .error e s') : failed e s' := by
  simpa only [Ends, hx] using h

/-- A run that cannot fail ends well. -/
theorem exists_ok (h : Ends x s done fun _ _ => False) : ∃ a s', x s = .ok a s' ∧ done a s' := by
  cases hx : x s with
  | ok a s' => exact ⟨a, s', rfl, h.ok hx⟩
  | error e s' => exact (h.error hx).elim

theorem mono (h : Ends x s done failed) (hdone : ∀ a s', done a s' → done' a s')
    (hfailed : ∀ e s', failed e s' → failed' e s') : Ends x s done' failed' := by
  unfold Ends at *
  cases hx : x s with
  | ok a s' =>
    rw [hx] at h
    exact hdone a s' h
  | error e s' =>
    rw [hx] at h
    exact hfailed e s' h

theorem and (h : Ends x s done failed) (h' : Ends x s done' failed') :
    Ends x s (fun a s' => done a s' ∧ done' a s') (fun e s' => failed e s' ∧ failed' e s') := by
  unfold Ends at *
  cases hx : x s with
  | ok a s' =>
    rw [hx] at h h'
    exact ⟨h, h'⟩
  | error e s' =>
    rw [hx] at h h'
    exact ⟨h, h'⟩

theorem bind (h : Ends x s (fun a s' => Ends (f a) s' then' failed) failed) :
    Ends (x >>= f) s then' failed := by
  unfold Ends at *
  rw [bind_apply]
  cases hx : x s with
  | ok a s' =>
    rw [hx] at h
    exact h
  | error e s' =>
    rw [hx] at h
    exact h

theorem get {f : σ → IoOn σ β} (h : Ends (f s) s then' failed) :
    Ends (MonadState.get >>= f) s then' failed := h

theorem of_forall (hdone : ∀ a s', done a s') (hfailed : ∀ e s', failed e s') :
    Ends x s done failed := by
  unfold Ends
  cases x s with
  | ok a s' => exact hdone a s'
  | error e s' => exact hfailed e s'

/-- What is known only of runs that end well. -/
theorem of_ok (hdone : ∀ a s', x s = .ok a s' → done a s') : Ends x s done fun _ _ => True := by
  unfold Ends
  cases hx : x s with
  | ok a s' => exact hdone a s' hx
  | error e s' => exact True.intro

/-- What is known only under a condition. -/
theorem of_imp {c : Prop} (h : c → Ends x s done failed) :
    Ends x s (fun a s' => c → done a s') (fun e s' => c → failed e s') := by
  unfold Ends at *
  cases hx : x s with
  | ok a s' =>
    rw [hx] at h
    exact h
  | error e s' =>
    rw [hx] at h
    exact h

end Ends

/-! What is known of a run by its answer. -/

theorem outcome_of_toOption {x : IoOn σ α} {s : σ} {a : α}
    (h : (outcome x s).1.toOption = some a) : outcome x s = (.ok a, (outcome x s).2) := by
  cases hx : (outcome x s).1 with
  | error e =>
    rw [hx] at h
    cases h
  | ok a' =>
    rw [hx] at h
    cases h
    rw [← hx]

theorem ok_of_toOption {x : IoOn σ α} {s : σ} {a : α} (h : (outcome x s).1.toOption = some a) :
    x s = .ok a (outcome x s).2 := by
  have houtcome := outcome_of_toOption h
  cases hx : x s with
  | ok a' s' =>
    rw [outcome_ok hx] at houtcome ⊢
    cases houtcome
    rfl
  | error e s' =>
    rw [outcome_error hx] at houtcome
    cases houtcome

end IoOn

/-! ## What is queued for a command -/

namespace CommandWrapper

/-- A command for the first unit.  Data flows to the host if any is asked for. -/
structure Plain (w : CommandWrapper) : Prop where
  unit : w.lun = 0
  inward : w.dataIn = (w.transferLength != 0)

/-- The command asks for the capacity. -/
def AsksCapacity (w : CommandWrapper) : Prop :=
  w.command.length = 10 ∧ Bytes.byteAt w.command 0 = 0x25

/-- The first block and the number of blocks that a command asks for. -/
def blocks? (w : CommandWrapper) : Option (Nat × Nat) :=
  if w.command.length = 10 ∧ Bytes.byteAt w.command 0 = 0x28 then
    some (Bytes.ofBig (Bytes.slice w.command 2 4), Bytes.ofBig (Bytes.slice w.command 7 2))
  else none

/-- The packets in answer to a command: its data, if any was asked for, and its status. -/
def packets (w : CommandWrapper) (data : Bytes) (residue : UInt32) (status : CommandStatus) :
    List Bytes :=
  (if w.transferLength = 0 then [] else [data]) ++ [StatusWrapper.encode ⟨w.tag, residue, status⟩]

/-- **What a target may queue in answer to a command.**  A read that has passed sends its data.  A
command that has failed without any may leave out the packet for it; the host waits for that packet
all the same, so this is among the things that go wrong. -/
inductive Queues (Faults : Prop) (w : CommandWrapper) (data : Bytes) (residue : UInt32)
    (status : CommandStatus) : List Bytes → Prop where
  | whole : Queues Faults w data residue status (w.packets data residue status)
  | bare (hfaults : Faults) (hasks : w.transferLength ≠ 0) (hfailed : status ≠ .passed)
      (hdata : data = []) :
      Queues Faults w data residue status [StatusWrapper.encode ⟨w.tag, residue, status⟩]

section Queues
variable {Faults Faults' : Prop} {w : CommandWrapper} {data : Bytes} {residue : UInt32}
  {status : CommandStatus} {packets : List Bytes}

theorem Queues.mono (hfaults : Faults → Faults')
    (h : w.Queues Faults data residue status packets) :
    w.Queues Faults' data residue status packets := by
  cases h with
  | whole => exact .whole
  | bare hfault hasks hfailed hdata => exact .bare (hfaults hfault) hasks hfailed hdata

/-- If data was asked for it comes before the status; and it comes, or the command has failed. -/
theorem Queues.eq_append (h : w.Queues Faults data residue status packets)
    (hasks : w.transferLength ≠ 0) :
    ∃ more, packets = more ++ [StatusWrapper.encode ⟨w.tag, residue, status⟩] ∧
      (∀ x ∈ more, x = data) ∧ (more = [] → status ≠ .passed) := by
  cases h with
  | whole =>
    refine ⟨[data], ?_, fun x hx => List.mem_singleton.mp hx, ?_⟩
    · rw [CommandWrapper.packets, if_neg hasks]
    · intro hnil
      cases hnil
  | bare _ _ hfailed _ =>
    refine ⟨[], rfl, ?_, fun _ => hfailed⟩
    intro x hx
    cases hx

end Queues

end CommandWrapper

/-- Takes at most `n` bytes from the first packet of a queue.  What does not fit stays in front. -/
def receive? (n : Nat) : List Bytes → Option (Bytes × List Bytes)
  | [] => none
  | packet :: queue =>
      let rest := packet.drop n
      some (packet.take n, if rest.isEmpty then queue else rest :: queue)

/-- What is received is the beginning of the first packet. -/
theorem receive?_eq_some {n : Nat} {queue queue' : List Bytes} {b : Bytes}
    (h : receive? n queue = some (b, queue')) :
    ∃ packet rest, queue = packet :: rest ∧ b = packet.take n ∧
      queue' = if (packet.drop n).isEmpty then rest else packet.drop n :: rest := by
  cases queue with
  | nil => cases h
  | cons packet rest =>
    obtain ⟨hb, hqueue⟩ := Prod.mk.inj (Option.some.inj h)
    exact ⟨packet, rest, rfl, hb.symm, hqueue.symm⟩

/-- A packet that fits is taken whole. -/
theorem receive?_whole {n : Nat} {packet : Bytes} (h : packet.length ≤ n) (queue : List Bytes) :
    receive? n (packet :: queue) = some (packet, queue) := by
  simp [receive?, List.drop_eq_nil_of_le h, List.take_of_length_le h]

section
variable {π : Type} [BulkPipe π]

/-- **A pipe with a target behind it that answers in order.**  `queue` tells the packets that wait
to be received, `sent` the packets that were sent, the latest first, also those that were lost. -/
structure Fifo (Faults : Prop) (Answers : CommandWrapper → Bytes → CommandStatus → Prop)
    (Sound : π → Prop) (queue sent : π → List Bytes) : Prop where
  fits : ∀ {w data status}, Answers w data status → data.length ≤ w.transferLength.toNat
  orderly : ∀ {w data}, Answers w data .phaseError → Faults
  sends : ∀ {p b w}, Sound p → CommandWrapper.decode? b = some w → w.Plain →
    IoOn.Ends (BulkPipe.bulkOut b) p
      (fun _ p' => Sound p' ∧ sent p' = b :: sent p ∧
        ∃ data residue status packets, Answers w data status ∧
          w.Queues Faults data residue status packets ∧ queue p' = queue p ++ packets)
      (fun _ p' => Faults ∧ Sound p' ∧ sent p' = b :: sent p ∧ queue p' = queue p)
  receives : ∀ {p n}, Sound p →
    IoOn.Ends (BulkPipe.bulkIn n) p
      (fun b p' => Sound p' ∧ sent p' = sent p ∧ receive? n (queue p) = some (b, queue p'))
      (fun _ p' => (Faults ∨ queue p = []) ∧ Sound p' ∧ sent p' = sent p ∧ queue p' = queue p)

end

/-! ## Targets with the contents of a disk -/

namespace Disk

/-- An answer of a target that sends nothing but what is on the disk, as much of it as it likes. -/
structure Serves (k : Disk) (w : CommandWrapper) (data : Bytes) (_status : CommandStatus) :
    Prop where
  fits : data.length ≤ w.transferLength.toNat
  capacity : w.AsksCapacity → data.length = 8 → Bytes.ofBig (data.drop 4) = k.blockSize
  blocks : ∀ {lba count}, w.blocks? = some (lba, count) →
    data = k.image.slice (lba * k.blockSize) data.length ∧
      (0 < data.length → lba * k.blockSize + data.length ≤ k.image.size)

/-- An answer of a target that also reports the number of its last block, and sends all that it is
asked for of the blocks it has. -/
structure Conforms (k : Disk) (w : CommandWrapper) (data : Bytes) (status : CommandStatus) :
    Prop where
  fits : data.length ≤ w.transferLength.toNat
  orderly : status ≠ .phaseError
  capacity : w.AsksCapacity → w.transferLength = 8 → status = .passed ∧
    data = Bytes.big 4 (BlockDevice.blockCount k - 1) ++ Bytes.big 4 k.blockSize
  blocks : ∀ {lba count}, w.blocks? = some (lba, count) → lba + count ≤ BlockDevice.blockCount k →
    w.transferLength.toNat = count * k.blockSize → status = .passed ∧
      data = k.image.slice (lba * k.blockSize) (count * k.blockSize)

end Disk

theorem Image.take_slice (m : Image) (start n count : Nat) :
    (m.slice start n).take count = m.slice start (min count n) := by
  simp [slice, ← List.map_take, List.take_range]

namespace Target

/-- A part of a command is where a target looks for it. -/
theorem slice_command {b : Bytes} {w : CommandWrapper} (h : CommandWrapper.decode? b = some w)
    {i n : Nat} (hn : i + n ≤ w.command.length) :
    Bytes.slice (b.drop 15) i n = Bytes.slice w.command i n := by
  unfold CommandWrapper.decode? at h
  split at h
  · cases h
    have hlen : i + n ≤ Bytes.byteAt b 14 :=
      Nat.le_trans hn (List.length_take_le _ _)
    simp only [Bytes.slice, List.drop_take, List.take_take]
    rw [Nat.min_eq_left (by omega)]
  · cases h

/-- The first byte of a command, which tells the commands apart. -/
theorem byteAt_command {b : Bytes} {w : CommandWrapper} (h : CommandWrapper.decode? b = some w)
    (hlen : w.command.length = 10) :
    Bytes.byteAt (b.drop 15) 0 = Bytes.byteAt w.command 0 := by
  rw [Bytes.byteAt_eq_slice, slice_command h (by omega), ← Bytes.byteAt_eq_slice]

/-- A command changes nothing about a target, except that it may get ready. -/
theorem execute_keeps (t : Target) (command : Bytes) :
    ∃ n, (t.execute command).2 = { t with notReady := n } := by
  unfold execute
  split
  · exact ⟨_, rfl⟩
  · split
    · exact ⟨_, rfl⟩
    · exact ⟨_, rfl⟩
  · exact ⟨_, rfl⟩
  · exact ⟨_, rfl⟩
  · dsimp only
    split
    · exact ⟨_, rfl⟩
    · exact ⟨_, rfl⟩
  · exact ⟨_, rfl⟩

/-- A target never reports a phase error. -/
theorem execute_orderly (t : Target) (command : Bytes) :
    (t.execute command).1.2 ≠ .phaseError := by
  unfold execute
  split
  · exact nofun
  · split
    · exact nofun
    · exact nofun
  · exact nofun
  · exact nofun
  · dsimp only
    split
    · exact nofun
    · exact nofun
  · exact nofun

theorem execute_capacity {t : Target} {b : Bytes} {w : CommandWrapper}
    (h : CommandWrapper.decode? b = some w) (hc : w.AsksCapacity) :
    (t.execute (b.drop 15)).1 = (Bytes.big 4 t.lastLba ++ Bytes.big 4 t.blockSize, .passed) := by
  have hcode := (byteAt_command h hc.1).trans hc.2
  unfold execute
  rw [hcode]
  rfl

theorem execute_blocks {t : Target} {b : Bytes} {w : CommandWrapper} {lba count : Nat}
    (h : CommandWrapper.decode? b = some w) (hb : w.blocks? = some (lba, count)) :
    (t.execute (b.drop 15)).1 =
      if t.badLbas.any fun bad => lba ≤ bad && bad < lba + count then ([], .failed)
      else (t.blocks lba count, .passed) := by
  unfold CommandWrapper.blocks? at hb
  split at hb
  · next hc =>
    cases hb
    have hcode := (byteAt_command h hc.1).trans hc.2
    unfold execute
    rw [hcode, slice_command h (by omega), slice_command h (by omega)]
    exact apply_ite Prod.fst _ _ _
  · cases hb

/-- What a target says to a command: the data, cut to what was asked for, and the status. -/
def reply (t : Target) (b : Bytes) (w : CommandWrapper) : Bytes × CommandStatus :=
  ((t.execute (b.drop 15)).1.1.take w.transferLength.toNat, (t.execute (b.drop 15)).1.2)

/-- The answer to a command is queued as any target queues it. -/
theorem answer_eq {t : Target} {b : Bytes} {w : CommandWrapper}
    (h : CommandWrapper.decode? b = some w) :
    ∃ residue, t.answer b =
      (w.packets (t.reply b w).1 residue (t.reply b w).2, (t.execute (b.drop 15)).2) := by
  unfold CommandWrapper.decode? at h
  split at h
  · cases h
    have hnat : (UInt32.ofNat (Bytes.word32 b 8)).toNat = Bytes.word32 b 8 := by
      rw [UInt32.toNat_ofNat', Nat.mod_eq_of_lt (Bytes.word32_lt b 8)]
    have hzero : UInt32.ofNat (Bytes.word32 b 8) = 0 ↔ Bytes.word32 b 8 = 0 := by
      rw [← UInt32.toNat_inj, hnat]
      rfl
    refine ⟨UInt32.ofNat (Bytes.word32 b 8 -
      ((t.execute (b.drop 15)).1.1.take (Bytes.word32 b 8)).length), ?_⟩
    simp only [answer, reply, CommandWrapper.packets, hnat, hzero]
    split
    · rfl
    · rfl
  · cases h

/-- A target for the contents of a disk. -/
structure Holds (k : Disk) (t : Target) : Prop where
  image : t.image = k.image
  blockSize : t.blockSize = k.blockSize
  small : k.blockSize < 4294967296

/-- A target for the contents of a disk that can read all its blocks, and tells their number. -/
structure Offers (k : Disk) (t : Target) : Prop extends Holds k t where
  lastLba : t.lastLba + 1 = BlockDevice.blockCount k
  countable : BlockDevice.blockCount k ≤ 4294967296
  unspoilt : t.badLbas = []

/-- Whatever a target with the contents of a disk is asked, it sends what is on the disk. -/
theorem Holds.serves {k : Disk} {t : Target} (ht : Holds k t) {b : Bytes} {w : CommandWrapper}
    (h : CommandWrapper.decode? b = some w) : k.Serves w (t.reply b w).1 (t.reply b w).2 where
  fits := List.length_take_le _ _
  capacity := by
    intro hc hlen
    unfold reply at *
    rw [execute_capacity h hc] at *
    have hwhole : (Bytes.big 4 t.lastLba ++ Bytes.big 4 t.blockSize).take w.transferLength.toNat =
        Bytes.big 4 t.lastLba ++ Bytes.big 4 t.blockSize := by
      apply List.take_of_length_le
      simp only [List.length_take, List.length_append, Bytes.length_big] at hlen ⊢
      omega
    have hdrop : (Bytes.big 4 t.lastLba ++ Bytes.big 4 t.blockSize).drop 4 =
        Bytes.big 4 t.blockSize := List.drop_left' (Bytes.length_big 4 t.lastLba)
    rw [hwhole, hdrop, ht.blockSize, Bytes.ofBig_big_of_lt ht.small]
  blocks := by
    intro lba count hb
    unfold reply
    rw [execute_blocks h hb]
    split
    · exact ⟨by simp [Image.slice], by simp⟩
    · simp only [blocks, Image.take_slice, Image.length_slice, ht.image, ht.blockSize, true_and]
      intro hpos
      omega

/-- A target with all blocks answers as it should. -/
theorem Offers.conforms {k : Disk} {t : Target} (ht : Offers k t) {b : Bytes} {w : CommandWrapper}
    (h : CommandWrapper.decode? b = some w) : k.Conforms w (t.reply b w).1 (t.reply b w).2 where
  fits := List.length_take_le _ _
  orderly := execute_orderly t _
  capacity := by
    intro hc hlen
    unfold reply
    have hlast : t.lastLba = BlockDevice.blockCount k - 1 := by
      have := ht.lastLba
      omega
    rw [execute_capacity h hc, hlast, ht.blockSize, hlen]
    exact ⟨rfl, List.take_of_length_le (by simp)⟩
  blocks := by
    intro lba count hb hin hlen
    have hsize : BlockDevice.blockCount k * k.blockSize ≤ k.image.size :=
      Nat.div_mul_le_self k.image.size k.blockSize
    have hend : lba * k.blockSize + count * k.blockSize ≤ k.image.size := by
      rw [← Nat.add_mul]
      exact Nat.le_trans (Nat.mul_le_mul_right _ hin) hsize
    unfold reply
    rw [execute_blocks h hb, ht.unspoilt]
    refine ⟨rfl, ?_⟩
    have hmin : min (count * k.blockSize)
        (min (count * k.blockSize) (k.image.size - lba * k.blockSize)) = count * k.blockSize := by
      omega
    simp only [List.any_nil, Bool.false_eq_true, if_false, blocks, Image.take_slice, ht.image,
      ht.blockSize, hlen, hmin]

end Target

/-! ## Lines -/

namespace Line

/-- A line that ends at a target of a kind, with nothing laid down in advance. -/
structure Connects (Good : Target → Prop) (l : Line) : Prop where
  target : ∃ t, l.target = some t ∧ Good t
  incoming : l.incoming = []
  outgoing : l.outgoing = []

theorem bulkOut_eq {l : Line} {t : Target} (ht : l.target = some t) (ho : l.outgoing = [])
    (b : Bytes) :
    bulkOut b l = .ok ()
      { l with
        sent := b :: l.sent
        outgoing := []
        lastTag := UInt32.ofNat (Bytes.word32 b 4)
        target := some (t.answer b).2
        queue := l.queue ++ (t.answer b).1 } := by
  unfold bulkOut
  simp only [IoOn.bind_get, IoOn.bind_set, ho, ht, List.tail_nil, List.headD_nil,
    IoOn.bind_modify]
  rfl

theorem bulkIn_eq {l : Line} (hi : l.incoming = []) (n : Nat) :
    bulkIn n l =
      match receive? n l.queue with
      | none => .error silent l
      | some (b, queue) => .ok b { l with queue } := by
  unfold bulkIn
  cases hq : l.queue with
  | nil =>
    simp only [IoOn.bind_get, hq, List.isEmpty_nil, if_true, receive?]
    refine IoOn.bind_error ?_
    simp only [fetch, IoOn.bind_get, hi]
    rfl
  | cons packet queue =>
    simp only [IoOn.bind_get, hq, List.isEmpty_cons, Bool.false_eq_true, if_false, receive?]
    rfl

/-- **A line is a pipe that answers in order**, as the target at its end answers. -/
theorem fifo {Faults : Prop} {Answers : CommandWrapper → Bytes → CommandStatus → Prop}
    {Good : Target → Prop}
    (hfits : ∀ {w data status}, Answers w data status → data.length ≤ w.transferLength.toNat)
    (horderly : ∀ {w data}, Answers w data .phaseError → Faults)
    (hkeeps : ∀ {t n}, Good t → Good { t with notReady := n })
    (hanswers : ∀ {t b w}, Good t → CommandWrapper.decode? b = some w →
      Answers w (t.reply b w).1 (t.reply b w).2) :
    Fifo Faults Answers (Connects Good) queue sent where
  fits := hfits
  orderly := horderly
  sends := by
    rintro l b w ⟨⟨t, ht, hgood⟩, hi, ho⟩ hw -
    obtain ⟨residue, hanswer⟩ := Target.answer_eq (t := t) hw
    obtain ⟨n, hn⟩ := t.execute_keeps (b.drop 15)
    show IoOn.Ends (bulkOut b) l _ _
    unfold IoOn.Ends
    rw [bulkOut_eq ht ho, hanswer]
    refine ⟨⟨⟨_, rfl, ?_⟩, hi, rfl⟩, rfl, _, residue, _, _, hanswers hgood hw, .whole, rfl⟩
    rw [hn]
    exact hkeeps hgood
  receives := by
    rintro l n ⟨ht, hi, ho⟩
    show IoOn.Ends (bulkIn n) l _ _
    unfold IoOn.Ends
    rw [bulkIn_eq hi]
    cases hq : l.queue with
    | nil => exact ⟨.inr rfl, ⟨ht, hi, ho⟩, rfl, hq⟩
    | cons packet queue => exact ⟨⟨ht, hi, ho⟩, rfl, rfl⟩

theorem fifo_serves (k : Disk) : Fifo True k.Serves (Connects (Target.Holds k)) queue sent :=
  fifo (fun h => h.fits) (fun _ => trivial) (fun h => ⟨h.image, h.blockSize, h.small⟩)
    fun h hw => h.serves hw

theorem fifo_conforms (k : Disk) : Fifo False k.Conforms (Connects (Target.Offers k)) queue sent :=
  fifo (fun h => h.fits) (fun h => h.orderly rfl)
    (fun h => ⟨⟨h.image, h.blockSize, h.small⟩, h.lastLba, h.countable, h.unspoilt⟩)
    fun h hw => h.conforms hw

end Line

/-! ## Pipes that fail on schedule -/

/-- A pipe with the failures in store for it, and the packets that were sent, the latest first. -/
structure Faulty (π : Type) where
  pipe : π
  /-- What becomes of the next packets to be sent: an error, or nothing. -/
  outgoing : List (Option IoError) := []
  /-- What becomes of the next receptions. -/
  incoming : List (Option IoError) := []
  sent : List Bytes := []

namespace Faulty
variable {π : Type} [BulkPipe π]

/-- A packet may be lost on its way. -/
def bulkOut (b : Bytes) : IoOn (Faulty π) Unit := fun x =>
  let y := { x with outgoing := x.outgoing.tail, sent := b :: x.sent }
  match x.outgoing.headD none with
  | some e => .error e y
  | none => IoOn.zoom pipe (fun p x => { x with pipe := p }) (BulkPipe.bulkOut b) y

/-- A reception may fail before anything is received. -/
def bulkIn (n : Nat) : IoOn (Faulty π) Bytes := fun x =>
  let y := { x with incoming := x.incoming.tail }
  match x.incoming.headD none with
  | some e => .error e y
  | none => IoOn.zoom pipe (fun p x => { x with pipe := p }) (BulkPipe.bulkIn n) y

instance : BulkPipe (Faulty π) where
  bulkOut := bulkOut
  bulkIn := bulkIn
  release := IoOn.zoom pipe (fun p x => { x with pipe := p }) BulkPipe.release

/-- A pipe that fails on schedule still answers in order. -/
theorem fifo {Faults : Prop} {Answers : CommandWrapper → Bytes → CommandStatus → Prop}
    {Sound : π → Prop} {queue sent : π → List Bytes} (hp : Fifo Faults Answers Sound queue sent) :
    Fifo True Answers (fun x : Faulty π => Sound x.pipe) (fun x => queue x.pipe) Faulty.sent where
  fits := hp.fits
  orderly _ := trivial
  sends := by
    intro x b w hs hw hplain
    show IoOn.Ends (bulkOut b) x _ _
    unfold IoOn.Ends bulkOut
    cases x.outgoing.headD none with
    | some e => exact ⟨trivial, hs, rfl, rfl⟩
    | none =>
      have hsends := hp.sends hs hw hplain
      dsimp only [IoOn.zoom]
      cases hx : BulkPipe.bulkOut b x.pipe with
      | ok u p =>
        obtain ⟨hs', -, data, residue, status, packets, hanswer, hqueues, hq⟩ := hsends.ok hx
        exact ⟨hs', rfl, data, residue, status, packets, hanswer, hqueues.mono fun _ => trivial, hq⟩
      | error e p =>
        obtain ⟨-, hs', -, hqueue⟩ := hsends.error hx
        exact ⟨trivial, hs', rfl, hqueue⟩
  receives := by
    intro x n hs
    show IoOn.Ends (bulkIn n) x _ _
    unfold IoOn.Ends bulkIn
    cases x.incoming.headD none with
    | some e => exact ⟨.inl trivial, hs, rfl, rfl⟩
    | none =>
      have hreceives := hp.receives (n := n) hs
      dsimp only [IoOn.zoom]
      cases hx : BulkPipe.bulkIn n x.pipe with
      | ok b p =>
        obtain ⟨hs', -, hqueue⟩ := hreceives.ok hx
        exact ⟨hs', rfl, hqueue⟩
      | error e p =>
        obtain ⟨-, hs', -, hqueue⟩ := hreceives.error hx
        exact ⟨.inl trivial, hs', rfl, hqueue⟩

end Faulty
end ThumbDrive

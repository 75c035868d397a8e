import ThumbDrive.BulkOnly.Drive
import ThumbDrive.Proofs.Pipe

/-! # Commands of a drive

A command makes three transfers on the pipe and judges what came in last.  It is taken for a status
only if it is one, with the tag of the command (`verdict_eq_ok_iff`).

A drive is `Idle` when nothing is queued for it.  From there a command is *in step* with the target:
what it receives is what was queued for this very command, and it leaves the drive idle if it
succeeds.  So a drive is idle once it was made usable (`ends_initDrive`), whatever pipe it is on.

A read is cut into commands.  `ends_readAlong` is the one induction along the cut; what a single
command keeps is left to its users. -/
namespace ThumbDrive

namespace Drive
variable {π : Type} [BulkPipe π]

/-! ## One command -/

/-- The drive after a command that has left the pipe as `p`. -/
def after (d : Drive π) (p : π) : Drive π := { d with pipe := p, nextTag := d.nextTag + 1 }

theorem verdict_eq_ok_iff {cdb b : Bytes} {tag : UInt32} {passed : Bool} :
    verdict cdb tag b = .ok passed ↔
      ∃ residue status, b = StatusWrapper.encode ⟨tag, residue, status⟩ ∧ status ≠ .phaseError ∧
        passed = (status == .passed) := by
  constructor
  · intro h
    unfold verdict at h
    split at h
    · cases h
    · next csw hcsw =>
      have hbytes := StatusWrapper.eq_encode_of_decode hcsw
      split at h
      · cases h
      · next htag =>
        obtain rfl : csw.tag = tag := Decidable.not_not.mp htag
        split at h
        · cases h
        · next hphase =>
          cases h
          exact ⟨csw.residue, csw.status, hbytes, hphase, rfl⟩
  · rintro ⟨residue, status, rfl, hphase, rfl⟩
    simp only [verdict, StatusWrapper.decode_encode, ne_eq, not_true_eq_false, if_false]

/-- What is too short for a status is none. -/
theorem verdict_ne_ok {cdb b : Bytes} {tag : UInt32} {passed : Bool}
    (hshort : b.length < StatusWrapper.size) : verdict cdb tag b ≠ .ok passed := by
  intro h
  obtain ⟨residue, status, rfl, -⟩ := verdict_eq_ok_iff.mp h
  rw [StatusWrapper.length_encode] at hshort
  exact Nat.lt_irrefl _ hshort

/-- A command on an open drive, in terms of its transfers. -/
theorem command_eq {d : Drive π} (ho : d.isOpen = true) (cdb : Bytes) (length : Nat) :
    command cdb length d =
      match exchange (d.wrapper cdb length).encode length d.pipe with
      | .error e p => .error e (d.after p)
      | .ok x p =>
          match verdict cdb d.nextTag x.2 with
          | .error e => .error e (d.after p)
          | .ok passed => .ok (x.1, passed) (d.after p) := by
  have hset : command cdb length d =
      (do
        let x ← onPipe (exchange (d.wrapper cdb length).encode length)
        return (x.1, ← IoOn.ofExcept (verdict cdb d.nextTag x.2)))
      { d with nextTag := d.nextTag + 1 } := by
    unfold command
    rw [IoOn.bind_get, ho]
    rfl
  rw [hset, IoOn.bind_apply, onPipe, IoOn.zoom]
  cases exchange (d.wrapper cdb length).encode length d.pipe with
  | error e p => rfl
  | ok x p =>
    dsimp only
    cases verdict cdb d.nextTag x.2 with
    | error e => rfl
    | ok passed => rfl

/-- A drive that was closed sends nothing. -/
theorem command_closed {d : Drive π} (hc : d.isOpen = false) (cdb : Bytes) (length : Nat) :
    command cdb length d = .error closedError d := by
  unfold command
  simp only [IoOn.bind_get, hc, Bool.not_false, if_true, IoOn.bind_throw]

/-- How a command ends follows from how its transfers end. -/
theorem ends_command {d : Drive π} (ho : d.isOpen = true) {cdb : Bytes} {length : Nat}
    {done : Bytes × Bool → Drive π → Prop} {failed : IoError → Drive π → Prop}
    (h : IoOn.Ends (exchange (d.wrapper cdb length).encode length) d.pipe
      (fun x p =>
        (∀ passed, verdict cdb d.nextTag x.2 = .ok passed → done (x.1, passed) (d.after p)) ∧
        ∀ e, verdict cdb d.nextTag x.2 = .error e → failed e (d.after p))
      (fun e p => failed e (d.after p))) : IoOn.Ends (command cdb length) d done failed := by
  unfold IoOn.Ends
  rw [command_eq ho]
  cases hx : exchange (d.wrapper cdb length).encode length d.pipe with
  | error e p => exact h.error hx
  | ok x p =>
    obtain ⟨hok, herror⟩ := h.ok hx
    dsimp only
    cases hv : verdict cdb d.nextTag x.2 with
    | error e => exact herror e hv
    | ok passed => exact hok passed hv

/-! ## Commands as a target reads them -/

omit [BulkPipe π] in
theorem decode?_wrapper {d : Drive π} {cdb : Bytes} {length : Nat} (hne : cdb ≠ [])
    (hcdb : cdb.length ≤ 16) :
    CommandWrapper.decode? (d.wrapper cdb length).encode = some (d.wrapper cdb length) := by
  apply CommandWrapper.decode?_encode
  simp [CommandWrapper.fits, wrapper, CommandWrapper.commandLimit, hne, hcdb]

omit [BulkPipe π] in
theorem transferLength_wrapper {d : Drive π} {cdb : Bytes} {length : Nat}
    (hlen : length < 4294967296) : (d.wrapper cdb length).transferLength.toNat = length := by
  show (UInt32.ofNat length).toNat = length
  rw [UInt32.toNat_ofNat', Nat.mod_eq_of_lt hlen]

omit [BulkPipe π] in
theorem plain_wrapper {d : Drive π} {cdb : Bytes} {length : Nat} (hlen : length < 4294967296) :
    (d.wrapper cdb length).Plain where
  unit := rfl
  inward := by
    have hnat : (d.wrapper cdb length).transferLength.toNat = length :=
      transferLength_wrapper hlen
    show (length != 0) = ((d.wrapper cdb length).transferLength != 0)
    rw [Bool.eq_iff_iff, bne_iff_ne, bne_iff_ne, ne_eq, ne_eq, ← UInt32.toNat_inj, hnat]
    rfl

/-- The command that reads `count` blocks. -/
def readCommand (lba count : Nat) : Bytes :=
  [0x28, 0] ++ Bytes.big 4 lba ++ [0] ++ Bytes.big 2 count ++ [0]

theorem length_readCommand (lba count : Nat) : (readCommand lba count).length = 10 := by
  simp [readCommand]

theorem readCommand_ne_nil (lba count : Nat) : readCommand lba count ≠ [] :=
  List.cons_ne_nil _ _

theorem length_readCommand_le (lba count : Nat) : (readCommand lba count).length ≤ 16 := by
  rw [length_readCommand]
  decide

/-- A target finds in a read what was put there. -/
theorem blocks?_readCommand {lba count : Nat} (hlba : lba < 4294967296) (hcount : count < 65536)
    {w : CommandWrapper} (hw : w.command = readCommand lba count) :
    w.blocks? = some (lba, count) := by
  have hfirst : Bytes.slice (readCommand lba count) 2 4 = Bytes.big 4 lba := by
    have hdrop : (readCommand lba count).drop 2 =
        Bytes.big 4 lba ++ ([0] ++ Bytes.big 2 count ++ [0]) := by
      simp [readCommand]
    rw [Bytes.slice, hdrop, List.take_left' (Bytes.length_big 4 lba)]
  have hsecond : Bytes.slice (readCommand lba count) 7 2 = Bytes.big 2 count := by
    have hdrop : (readCommand lba count).drop 7 = Bytes.big 2 count ++ [0] := by
      have hsplit : readCommand lba count =
          ([0x28, 0] ++ Bytes.big 4 lba ++ [0]) ++ (Bytes.big 2 count ++ [0]) := by
        simp [readCommand]
      rw [hsplit, List.drop_left' (by simp)]
    rw [Bytes.slice, hdrop, List.take_left' (Bytes.length_big 2 count)]
  have hlbaBack : Bytes.ofBig (Bytes.big 4 lba) = lba := Bytes.ofBig_big_of_lt hlba
  have hcountBack : Bytes.ofBig (Bytes.big 2 count) = count := Bytes.ofBig_big_of_lt hcount
  unfold CommandWrapper.blocks?
  rw [hw, if_pos ⟨length_readCommand lba count, rfl⟩, hfirst, hsecond, hlbaBack, hcountBack]

/-! ## In step with the target -/

section
variable {Faults : Prop} {Answers : CommandWrapper → Bytes → CommandStatus → Prop}
  {Sound : π → Prop} {queue sent : π → List Bytes}

/-- An open drive for which nothing is queued. -/
structure Idle (Sound : π → Prop) (queue : π → List Bytes) (d : Drive π) : Prop where
  isOpen : d.isOpen = true
  sound : Sound d.pipe
  empty : queue d.pipe = []

/-- A host that finds the whole answer in the queue receives it. -/
theorem receives_whole (hf : Fifo Faults Answers Sound queue sent) {p : π} {w : CommandWrapper}
    {data : Bytes} {residue : UInt32} {status : CommandStatus} (hs : Sound p)
    (hq : queue p = w.packets data residue status)
    (hfits : data.length ≤ w.transferLength.toNat) :
    IoOn.Ends (do
        return (← takeData w.transferLength.toNat, ← BulkPipe.bulkIn StatusWrapper.size)) p
      (fun x p' => Sound p' ∧ queue p' = [] ∧
        x = (data, StatusWrapper.encode ⟨w.tag, residue, status⟩))
      (fun _ _ => Faults) := by
  -- the data, if any was asked for, is the first packet
  have hdata : IoOn.Ends (takeData w.transferLength.toNat) p
      (fun x p₁ => x = data ∧ Sound p₁ ∧
        queue p₁ = [StatusWrapper.encode ⟨w.tag, residue, status⟩]) (fun _ _ => Faults) := by
    have hzero : w.transferLength = 0 ↔ w.transferLength.toNat = 0 := by
      rw [← UInt32.toNat_inj]
      rfl
    unfold takeData
    split
    · next h0 =>
      rw [CommandWrapper.packets, if_pos (hzero.mpr h0)] at hq
      have hnil : data = [] := List.length_eq_zero_iff.mp (by omega)
      exact ⟨hnil.symm, hs, hq⟩
    · next h0 =>
      rw [CommandWrapper.packets, if_neg (mt hzero.mp h0)] at hq
      refine (hf.receives hs).mono ?_ ?_
      · rintro x p₁ ⟨hs₁, -, hreceive⟩
        rw [hq, List.cons_append, receive?_whole hfits] at hreceive
        obtain ⟨hx, hq₁⟩ := Prod.mk.inj (Option.some.inj hreceive)
        exact ⟨hx.symm, hs₁, hq₁.symm⟩
      · rintro e p₁ ⟨hfault | hempty, -⟩
        · exact hfault
        · simp [hq] at hempty
  refine (hdata.mono ?_ fun _ _ h => h).bind
  rintro x p₁ ⟨rfl, hs₁, hq₁⟩
  refine ((hf.receives hs₁).mono ?_ ?_).bind
  · rintro s p₂ ⟨hs₂, -, hreceive⟩
    rw [hq₁, receive?_whole (by simp)] at hreceive
    obtain ⟨rfl, hq₂⟩ := Prod.mk.inj (Option.some.inj hreceive)
    exact ⟨hs₂, hq₂.symm, rfl⟩
  · rintro e p₂ ⟨hfault | hempty, -⟩
    · exact hfault
    · simp [hq₁] at hempty

/-- A host that waits for data takes the status for it, and too little is left for a status. -/
theorem receives_bare (hf : Fifo Faults Answers Sound queue sent) {p : π} {w : StatusWrapper}
    {length : Nat} (hs : Sound p) (hq : queue p = [w.encode]) (hpos : 0 < length) :
    IoOn.Ends (do return (← takeData length, ← BulkPipe.bulkIn StatusWrapper.size)) p
      (fun x p' => Sound p' ∧ x.2.length < StatusWrapper.size) (fun _ _ => True) := by
  have htake : takeData length = (BulkPipe.bulkIn length : IoOn π Bytes) :=
    if_neg (Nat.ne_of_gt hpos)
  rw [htake]
  refine ((hf.receives hs).mono ?_ fun _ _ _ => trivial).bind
  rintro data p₁ ⟨hs₁, -, hreceive₁⟩
  obtain ⟨packet, rest, hpacket, -, hq₁⟩ := receive?_eq_some hreceive₁
  obtain ⟨rfl, rfl⟩ := List.cons.inj (hq.symm.trans hpacket)
  refine ((hf.receives hs₁).mono ?_ fun _ _ _ => trivial).bind
  rintro s p₂ ⟨hs₂, -, hreceive₂⟩
  obtain ⟨scrap, rest, hscrap, rfl, -⟩ := receive?_eq_some hreceive₂
  refine ⟨hs₂, ?_⟩
  have hrest : scrap = w.encode.drop length := by
    rw [hq₁] at hscrap
    split at hscrap
    · cases hscrap
    · exact (List.cons.inj hscrap).1.symm
  rw [hrest, List.length_take, List.length_drop, StatusWrapper.length_encode]
  exact Nat.lt_of_le_of_lt (Nat.min_le_right _ _) (Nat.sub_lt (by decide) hpos)

/-- With an empty queue the host receives what the target has queued for it.  If there is no packet
for the data, what comes in for a status is too short for one. -/
theorem exchange_idle (hf : Fifo Faults Answers Sound queue sent) {p : π} {b : Bytes}
    {w : CommandWrapper} {length : Nat} (hs : Sound p) (hq : queue p = [])
    (hw : CommandWrapper.decode? b = some w) (hplain : w.Plain)
    (hlen : w.transferLength.toNat = length) :
    IoOn.Ends (exchange b length) p
      (fun x p' => Sound p' ∧
        (queue p' = [] ∧ (∃ residue status,
            x.2 = StatusWrapper.encode ⟨w.tag, residue, status⟩ ∧ Answers w x.1 status) ∨
          Faults ∧ x.2.length < StatusWrapper.size))
      (fun _ _ => Faults) := by
  subst hlen
  refine ((hf.sends hs hw hplain).mono ?_ fun _ _ h => h.1).bind
  rintro - p₁ ⟨hs₁, -, data, residue, status, packets, hanswer, hqueues, hq₁⟩
  rw [hq, List.nil_append] at hq₁
  cases hqueues with
  | whole =>
    refine (receives_whole hf hs₁ hq₁ (hf.fits hanswer)).mono ?_ fun _ _ h => h
    rintro x p₂ ⟨hs₂, hq₂, rfl⟩
    exact ⟨hs₂, .inl ⟨hq₂, residue, status, rfl, hanswer⟩⟩
  | bare hfaults hasks _ _ =>
    have hpos : 0 < w.transferLength.toNat := UInt32.pos_iff_ne_zero.mpr hasks
    refine (receives_bare hf hs₁ hq₁ hpos).mono ?_ fun _ _ _ => hfaults
    rintro x p₂ ⟨hs₂, hshort⟩
    exact ⟨hs₂, .inr ⟨hfaults, hshort⟩⟩

/-- **A command of an idle drive**: what it returns is the answer to it, and the drive is idle
again. -/
theorem ends_command_idle (hf : Fifo Faults Answers Sound queue sent) {d : Drive π}
    (hd : Idle Sound queue d) {cdb : Bytes} {length : Nat} (hne : cdb ≠ [])
    (hcdb : cdb.length ≤ 16) (hlen : length < 4294967296) :
    IoOn.Ends (command cdb length) d
      (fun r d' => Idle Sound queue d' ∧ (∃ p, d' = d.after p) ∧
        ∃ status, r.2 = (status == .passed) ∧ Answers (d.wrapper cdb length) r.1 status)
      (fun _ _ => Faults) := by
  apply ends_command hd.isOpen
  refine (exchange_idle hf hd.sound hd.empty (decode?_wrapper hne hcdb) (plain_wrapper hlen)
    (transferLength_wrapper hlen)).mono ?_ fun _ _ h => h
  rintro ⟨data, b⟩ p ⟨hs, ⟨hq, residue, status, hb, hanswer⟩ | ⟨hfaults, hshort⟩⟩
  case inr => exact ⟨fun passed h => absurd h (verdict_ne_ok hshort), fun _ _ => hfaults⟩
  dsimp only at hb hanswer ⊢
  subst hb
  constructor
  · intro passed hpassed
    obtain ⟨residue', status', hsame, -, rfl⟩ := verdict_eq_ok_iff.mp hpassed
    cases StatusWrapper.encode_inj.mp hsame
    exact ⟨⟨hd.isOpen, hs, hq⟩, ⟨p, rfl⟩, status, rfl, hanswer⟩
  · intro e he
    by_cases hphase : status = .phaseError
    · exact hf.orderly (hphase ▸ hanswer)
    · have hok : verdict cdb d.nextTag (StatusWrapper.encode ⟨d.nextTag, residue, status⟩) =
          .ok (status == .passed) := verdict_eq_ok_iff.mpr ⟨residue, status, rfl, hphase, rfl⟩
      cases hok.symm.trans he

/-! ## Making a drive usable -/

omit [BulkPipe π] in
theorem idle_of_pipe {d d' : Drive π} (hd : Idle Sound queue d) (hopen : d'.isOpen = d.isOpen)
    (hpipe : d'.pipe = d.pipe) : Idle Sound queue d' where
  isOpen := hopen.trans hd.isOpen
  sound := hpipe ▸ hd.sound
  empty := hpipe ▸ hd.empty

theorem ends_identify (hf : Fifo Faults Answers Sound queue sent) {d : Drive π}
    (hd : Idle Sound queue d) :
    IoOn.Ends identify d (fun _ d' => Idle Sound queue d') (fun _ _ => Faults) := by
  refine ((ends_command_idle hf hd (List.cons_ne_nil _ _) (by decide) (by decide)).mono ?_
    fun _ _ h => h).bind
  rintro ⟨data, passed⟩ d₁ ⟨hd₁, -⟩
  dsimp only [note]
  unfold IoOn.Ends
  rw [IoOn.bind_modify]
  by_cases htype : (if data.isEmpty then 0x1F else Bytes.byteAt data 0 % 32) ≠ 0
  · rw [if_pos htype]
    exact idle_of_pipe hd₁ rfl rfl
  · rw [if_neg htype]
    exact idle_of_pipe hd₁ rfl rfl

theorem ends_makeReady (hf : Fifo Faults Answers Sound queue sent) {d : Drive π}
    (hd : Idle Sound queue d) :
    IoOn.Ends makeReady d (fun _ d' => Idle Sound queue d') (fun _ _ => Faults) := by
  refine ((ends_command_idle hf hd (List.cons_ne_nil _ _) (by decide) (by decide)).mono ?_
    fun _ _ h => h).bind
  rintro ⟨data, ready⟩ d₁ ⟨hd₁, -⟩
  cases ready with
  | true => exact hd₁
  | false =>
    refine ((ends_command_idle hf hd₁ (List.cons_ne_nil _ _) (by decide) (by decide)).mono ?_
      fun _ _ h => h).bind
    rintro ⟨sense, passed⟩ d₂ ⟨hd₂, -⟩
    exact idle_of_pipe hd₂ rfl rfl

/-- What a target has answered when it was asked for the capacity. -/
def CapacityAnswer (Answers : CommandWrapper → Bytes → CommandStatus → Prop) (data : Bytes)
    (status : CommandStatus) : Prop :=
  ∃ w : CommandWrapper, w.AsksCapacity ∧ w.transferLength = 8 ∧ Answers w data status

theorem ends_capacity (hf : Fifo Faults Answers Sound queue sent) {d : Drive π}
    (hd : Idle Sound queue d) :
    IoOn.Ends capacity d
      (fun x d' => Idle Sound queue d' ∧ ∃ data, CapacityAnswer Answers data .passed ∧
        data.length = 8 ∧ x = (Bytes.ofBig (data.take 4), Bytes.ofBig (data.drop 4)))
      (fun _ _ => Faults ∨ ∃ data status, CapacityAnswer Answers data status ∧
        ¬ (status = .passed ∧ data.length = 8)) := by
  refine ((ends_command_idle hf hd (List.cons_ne_nil _ _) (by decide) (by decide)).mono ?_
    fun _ _ h => .inl h).bind
  rintro ⟨data, passed⟩ d₁ ⟨hd₁, -, status, hpassed, hanswer⟩
  obtain rfl : passed = _ := hpassed
  have hcapacity : CapacityAnswer Answers data status := ⟨_, ⟨rfl, rfl⟩, rfl, hanswer⟩
  by_cases hgood : status = .passed ∧ data.length = 8
  · obtain ⟨rfl, hlen⟩ := hgood
    unfold IoOn.Ends
    simp only [hlen]
    exact ⟨hd₁, data, hcapacity, hlen, rfl⟩
  · have hbad : (!(status == .passed) || data.length != 8) = true := by
      rw [Bool.or_eq_true, Bool.not_eq_true', beq_eq_false_iff_ne, bne_iff_ne]
      exact Decidable.not_and_iff_not_or_not.mp hgood
    unfold IoOn.Ends
    simp only [hbad, if_true]
    exact .inr ⟨data, status, hcapacity, hgood⟩

/-- **A drive that was made usable is idle**, and has the size of the blocks from the target.  If
nothing goes wrong on the pipe it fails only for what the target tells about its capacity. -/
theorem ends_initDrive (hf : Fifo Faults Answers Sound queue sent) {d : Drive π}
    (hd : Idle Sound queue d) :
    IoOn.Ends initDrive d
      (fun _ d' => Idle Sound queue d' ∧ ∃ data, CapacityAnswer Answers data .passed ∧
        data.length = 8 ∧ d'.blockSize ≠ 0 ∧ d'.blockSize = Bytes.ofBig (data.drop 4) ∧
        d'.blockCount = Bytes.ofBig (data.take 4) + 1)
      (fun _ _ => Faults ∨ ∃ data status, CapacityAnswer Answers data status ∧
        ¬ (status = .passed ∧ data.length = 8 ∧ Bytes.ofBig (data.drop 4) ≠ 0)) := by
  refine ((ends_identify hf hd).mono ?_ fun _ _ h => .inl h).bind
  intro _ d₁ hd₁
  refine ((ends_makeReady hf hd₁).mono ?_ fun _ _ h => .inl h).bind
  intro _ d₂ hd₂
  refine ((ends_capacity hf hd₂).mono ?_ ?_).bind
  · rintro x d₃ ⟨hd₃, data, hanswer, hlen, rfl⟩
    dsimp only
    by_cases hzero : Bytes.ofBig (data.drop 4) = 0
    · rw [if_pos hzero]
      exact .inr ⟨data, .passed, hanswer, fun h => h.2.2 hzero⟩
    · rw [if_neg hzero]
      exact ⟨idle_of_pipe hd₃ rfl rfl, data, hanswer, hlen, hzero, rfl, rfl⟩
  · rintro e d₃ (hfault | ⟨data, status, hanswer, hbad⟩)
    · exact .inl hfault
    · exact .inr ⟨data, status, hanswer, fun h => hbad ⟨h.1, h.2.1⟩⟩

end

/-! ## Reads -/

/-- One command has at most 65535 blocks and less than 4 GiB. -/
theorem commandBlocks_bounds {size : Nat} (hpos : 0 < size) (hsmall : size < 4294967296) :
    0 < commandBlocks size ∧ commandBlocks size < 65536 ∧
      ∀ count, count ≤ commandBlocks size → count * size < 4294967296 := by
  unfold commandBlocks transferLimit
  refine ⟨by omega, by omega, fun count hcount => ?_⟩
  by_cases hlarge : 65536 < size
  · have hzero : 65536 / size = 0 := Nat.div_eq_of_lt hlarge
    have hone : count ≤ 1 := by omega
    calc count * size ≤ 1 * size := Nat.mul_le_mul_right size hone
      _ < 4294967296 := by omega
  · have hfull : 65536 / size * size ≤ 65536 := Nat.div_mul_le_self 65536 size
    have hone : 0 < 65536 / size := Nat.div_pos (by omega) hpos
    have hle : count ≤ 65536 / size := by omega
    calc count * size ≤ 65536 / size * size := Nat.mul_le_mul_right size hle
      _ < 4294967296 := by omega

/-- Blocks are delivered if their command passes and brings as many bytes as they have. -/
theorem ends_readOnce {d : Drive π} {lba count : Nat} {done : Bytes → Drive π → Prop}
    {failed : IoError → Drive π → Prop}
    (h : IoOn.Ends (command (readCommand lba count) (count * d.blockSize)) d
      (fun x d' => (x.2 = true ∧ x.1.length = count * d.blockSize → done x.1 d') ∧
        (¬ (x.2 = true ∧ x.1.length = count * d.blockSize) → ∀ e, failed e d')) failed) :
    IoOn.Ends (readOnce lba count) d done failed := by
  unfold readOnce
  apply IoOn.Ends.get
  refine IoOn.Ends.bind (h.mono ?_ fun _ _ h => h)
  rintro ⟨data, passed⟩ d₁ ⟨hgood, hbad⟩
  cases passed with
  | false => exact hbad (fun h => nomatch h.1) _
  | true =>
    by_cases hlen : data.length = count * d.blockSize
    · unfold IoOn.Ends
      simp only [hlen, ne_eq, not_true_eq_false, if_false, Bool.not_true, Bool.false_eq_true]
      exact hgood ⟨rfl, hlen⟩
    · unfold IoOn.Ends
      simp only [hlen, ne_eq, not_false_eq_true, if_true, Bool.not_true, Bool.false_eq_true,
        if_false]
      exact hbad (fun h => hlen h.2) _

/-- What is asked for is checked before anything is sent. -/
theorem readBlocks_eq (d : Drive π) (lba length : Nat) :
    readBlocks lba length d =
      if length % d.blockSize ≠ 0 then
        .error ⟨.invalidInput, "read length is not a multiple of the block size"⟩ d
      else if d.blockCount < lba + length / d.blockSize then
        .error ⟨.unexpectedEof, "read past the end of the device"⟩ d
      else readAlong (cut (commandBlocks d.blockSize) lba (length / d.blockSize)) d := by
  unfold readBlocks
  rw [IoOn.bind_get]
  by_cases hwhole : length % d.blockSize ≠ 0
  · rw [if_pos hwhole, if_pos hwhole]
    rfl
  · rw [if_neg hwhole, if_neg hwhole]
    by_cases hend : d.blockCount < lba + length / d.blockSize
    · simp only [hend, if_true]
      rfl
    · simp only [hend, if_false]

/-- **Reading along a cut.**  What every single command keeps is kept by all of them together; if
none of them brings anything but the blocks it asks for, the whole read does not either.  `Odd` is
for commands that do. -/
theorem ends_readAlong {k : Disk} {most stop : Nat} {Keeps : Drive π → Prop}
    (Odd : Drive π → Prop) {failed : IoError → Drive π → Prop} (hmost : 0 < most)
    (hfar : ∀ {d lba e}, Keeps d → lba < stop → 4294967296 ≤ lba → failed e d)
    (hone : ∀ {d lba count}, Keeps d → 0 < count → count ≤ most → lba + count ≤ stop →
      lba < 4294967296 → IoOn.Ends (readOnce lba count) d
        (fun b d' => Keeps d' ∧ (Odd d → Odd d') ∧
          (b = k.image.slice (lba * k.blockSize) (count * k.blockSize) ∨ Odd d')) failed)
    {d : Drive π} (hd : Keeps d) {lba count : Nat} (hin : lba + count ≤ stop) :
    IoOn.Ends (readAlong (cut most lba count)) d
      (fun b d' => Keeps d' ∧ (Odd d → Odd d') ∧
        (b = k.image.slice (lba * k.blockSize) (count * k.blockSize) ∨ Odd d')) failed := by
  fun_induction cut most lba count generalizing d with
  | case1 lba count hdone =>
    have hzero : count = 0 := by omega
    subst hzero
    exact ⟨hd, id, .inl (by simp [Image.slice])⟩
  | case2 lba count hmore ih =>
    rw [readAlong]
    by_cases hlba : 4294967296 ≤ lba
    · rw [if_pos hlba]
      exact hfar hd (by omega) hlba
    · rw [if_neg hlba]
      refine ((hone hd (by omega) (Nat.min_le_left most count) (by omega) (by omega)).mono ?_
        fun _ _ h => h).bind
      rintro b d₁ ⟨hd₁, hodd₁, hb⟩
      refine ((ih hd₁ (by omega)).mono ?_ fun _ _ h => h).bind
      rintro rest d₂ ⟨hd₂, hodd₂, hrest⟩
      refine ⟨hd₂, fun h => hodd₂ (hodd₁ h), ?_⟩
      rcases hb with rfl | hodd
      · rcases hrest with rfl | hodd
        · left
          rw [Nat.add_mul, Image.slice_append, ← Nat.add_mul]
          congr 2
          omega
        · exact .inr hodd
      · exact .inr (hodd₂ hodd)

/-- A drive after some reads, whatever became of them. -/
def afterReads (d : Drive π) (reads : List (Nat × Nat)) : Drive π :=
  reads.foldl (fun d r => (IoOn.outcome (readBlocks r.1 r.2) d).2) d

/-- What every read keeps is kept by all of them. -/
theorem afterReads_keeps {Keeps : Drive π → Prop}
    (hstep : ∀ d lba length, Keeps d → Keeps (IoOn.outcome (readBlocks lba length) d).2)
    {d : Drive π} (hd : Keeps d) (reads : List (Nat × Nat)) : Keeps (d.afterReads reads) := by
  induction reads generalizing d with
  | nil => exact hd
  | cons r reads ih => exact ih (hstep d r.1 r.2 hd)

end Drive
end ThumbDrive

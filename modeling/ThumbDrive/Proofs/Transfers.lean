import ThumbDrive.Proofs.Bounds

/-! # What a drive does on its pipe

A pipe may do anything: refuse a packet, deliver too little, deliver bytes that nobody sent, and
change its mind in the middle of a command.  `Tape` is said of a pipe whose state tells the
transfers made on it, with what came of each.  Any pipe can be made to tell them (`Taped`), so
nothing is assumed of a pipe here but that it can be listened to.

From one state of a drive to another it `Works`: it only sends command wrappers, numbered on from
the tag that was next, and receives.  Whatever a command comes to, its tag is used up; so the tags
on the tape count the commands, over any number of reads and failures.  A command that returns has
made one exchange, whose last packet is a status with the tag of the command (`exchanged_command`),
and a read that returns is made of such exchanges, each of them passed and complete
(`delivered_readBlocks`). -/
namespace ThumbDrive

/-- A transfer on a pipe, and what came of it. -/
inductive Transfer where
  /-- A packet went out. -/
  | sent (packet : Bytes)
  /-- A packet was sent and failed to go out. -/
  | lost (packet : Bytes) (error : IoError)
  /-- With room for so many bytes, these came in. -/
  | received (room : Nat) (data : Bytes)
  /-- Nothing came in. -/
  | missed (room : Nat) (error : IoError)
  /-- The pipe was given back, or was to be. -/
  | released
  deriving DecidableEq, Repr

namespace Transfer

/-- The packet of a transfer to the device. -/
def packet? : Transfer → Option Bytes
  | .sent b => some b
  | .lost b _ => some b
  | _ => none

/-- The packets among some transfers, also those that were lost. -/
def packets (ts : List Transfer) : List Bytes := ts.filterMap packet?

theorem packets_append (ts us : List Transfer) : packets (ts ++ us) = packets ts ++ packets us :=
  List.filterMap_append

theorem packets_released (ts : List Transfer) : packets (ts ++ [.released]) = packets ts := by
  rw [packets_append]
  exact List.append_nil _

end Transfer

open Transfer (packets packets_append packets_released)

variable {π : Type} [BulkPipe π]

/-! ## Pipes that tell their transfers -/

/-- A pipe whose state tells all transfers made on it, in order. -/
structure Tape (tape : π → List Transfer) : Prop where
  out : ∀ p b, IoOn.Ends (BulkPipe.bulkOut b) p (fun _ p' => tape p' = tape p ++ [.sent b])
    fun e p' => tape p' = tape p ++ [.lost b e]
  into : ∀ p n, IoOn.Ends (BulkPipe.bulkIn n) p (fun b p' => tape p' = tape p ++ [.received n b])
    fun e p' => tape p' = tape p ++ [.missed n e]
  release : ∀ p, tape (ending (BulkPipe.release p)) = tape p ++ [.released]

/-- A pipe with the transfers made on it. -/
structure Taped (π : Type) where
  pipe : π
  tape : List Transfer := []

namespace Taped

/-- Makes a transfer, and writes down what came of it. -/
def transfer {α : Type} (done : α → Transfer) (failed : IoError → Transfer) (act : IoOn π α) :
    IoOn (Taped π) α := fun x =>
  match act x.pipe with
  | .ok a p => .ok a ⟨p, x.tape ++ [done a]⟩
  | .error e p => .error e ⟨p, x.tape ++ [failed e]⟩

instance : BulkPipe (Taped π) where
  bulkOut b := transfer (fun _ => .sent b) (.lost b) (BulkPipe.bulkOut b)
  bulkIn n := transfer (.received n) (.missed n) (BulkPipe.bulkIn n)
  release := transfer (fun _ => .released) (fun _ => .released) BulkPipe.release

omit [BulkPipe π] in
theorem ends_transfer {α : Type} (done : α → Transfer) (failed : IoError → Transfer)
    (act : IoOn π α) (x : Taped π) :
    IoOn.Ends (transfer done failed act) x (fun a y => y.tape = x.tape ++ [done a])
      fun e y => y.tape = x.tape ++ [failed e] := by
  unfold IoOn.Ends transfer
  cases act x.pipe with
  | ok a p => rfl
  | error e p => rfl

omit [BulkPipe π] in
/-- A transfer that is written down leaves the pipe as it would without. -/
theorem ends_pipe {α : Type} {done : α → Transfer} {failed : IoError → Transfer}
    {act : IoOn π α} {x : Taped π} {P : α → π → Prop} {Q : IoError → π → Prop}
    (h : IoOn.Ends act x.pipe P Q) :
    IoOn.Ends (transfer done failed act) x (fun a y => P a y.pipe) fun e y => Q e y.pipe := by
  unfold IoOn.Ends transfer
  cases hx : act x.pipe with
  | ok a p => exact h.ok hx
  | error e p => exact h.error hx

/-- Every pipe can be made to tell its transfers. -/
theorem tape_tells : Tape (tape : Taped π → List Transfer) where
  out x b := ends_transfer _ _ (BulkPipe.bulkOut b) x
  into x n := ends_transfer _ _ (BulkPipe.bulkIn n) x
  release x := by
    have hends := ends_transfer (fun _ => .released) (fun _ => .released) BulkPipe.release x
    cases hr : transfer (fun _ => .released) (fun _ => .released) BulkPipe.release x with
    | ok u y => exact (congrArg (fun r => (ending r).tape) hr).trans (hends.ok hr)
    | error e y => exact (congrArg (fun r => (ending r).tape) hr).trans (hends.error hr)

end Taped

/-! ## Exchanges -/

/-- What was transferred for a command: the packet that went out, the number of bytes asked for,
what came in for them, and what came in last. -/
structure Exchange where
  packet : Bytes
  asked : Nat
  data : Bytes
  answer : Bytes

namespace Exchange

/-- The transfers of a command all of which were made.  Without anything asked for, nothing is
received for data. -/
def transfers (x : Exchange) : List Transfer :=
  .sent x.packet :: (if x.asked = 0 then [] else [.received x.asked x.data])
    ++ [.received StatusWrapper.size x.answer]

/-- The packet is a command with the tag, and what came in last is the status of that command. -/
structure Ended (x : Exchange) (tag : UInt32) (status : CommandStatus) : Prop where
  command : ∃ w, CommandWrapper.decode? x.packet = some w ∧ w.tag = tag
  status : x.answer.length = 13 ∧
    ∃ residue, StatusWrapper.decode x.answer = .ok ⟨tag, residue, status⟩
  nothing : x.asked = 0 → x.data = []

/-- The packet is a read of blocks of the given size, which has passed and brought all its bytes. -/
structure Delivered (x : Exchange) (blockSize : Nat) : Prop where
  passed : ∃ tag, x.Ended tag .passed
  blocks : ∃ w lba count, CommandWrapper.decode? x.packet = some w ∧
    w.blocks? = some (lba, count) ∧ x.asked = count * blockSize ∧ w.transferLength.toNat = x.asked
  complete : x.data.length = x.asked

theorem packets_transfers (x : Exchange) : packets x.transfers = [x.packet] := by
  unfold transfers
  split <;> rfl

theorem not_released (x : Exchange) : Transfer.released ∉ x.transfers := by
  unfold transfers
  split <;> simp

end Exchange

/-! ## Numbered packets -/

/-- The packets are command wrappers, with running tags from `tag` on. -/
def Numbered : UInt32 → List Bytes → Prop
  | _, [] => True
  | tag, b :: bs => (∃ w, CommandWrapper.decode? b = some w ∧ w.tag = tag) ∧ Numbered (tag + 1) bs

theorem tag_succ (tag : UInt32) (n : Nat) :
    tag + 1 + UInt32.ofNat n = tag + UInt32.ofNat (n + 1) := by
  rw [UInt32.ofNat_add, UInt32.add_comm (UInt32.ofNat n), ← UInt32.add_assoc]
  rfl

theorem Numbered.append {tag : UInt32} {bs bs' : List Bytes} (h : Numbered tag bs)
    (h' : Numbered (tag + UInt32.ofNat bs.length) bs') : Numbered tag (bs ++ bs') := by
  induction bs generalizing tag with
  | nil => simpa using h'
  | cons b bs ih =>
    obtain ⟨hfirst, hrest⟩ := h
    refine ⟨hfirst, ih hrest ?_⟩
    rwa [tag_succ]

/-- The packet with number `i` among them. -/
theorem Numbered.get {tag : UInt32} {bs : List Bytes} (h : Numbered tag bs) {i : Nat} {b : Bytes}
    (hb : bs[i]? = some b) :
    ∃ w, CommandWrapper.decode? b = some w ∧ w.tag = tag + UInt32.ofNat i := by
  induction bs generalizing tag i with
  | nil => simp at hb
  | cons b' bs ih =>
    obtain ⟨hfirst, hrest⟩ := h
    cases i with
    | zero =>
      obtain rfl : b' = b := by simpa using hb
      simpa using hfirst
    | succ i =>
      obtain ⟨w, hw, htag⟩ := ih hrest (by simpa using hb)
      exact ⟨w, hw, htag.trans (tag_succ tag i)⟩

namespace Drive

/-! ## What a drive does -/

/-- **From `d` to `d'` the drive has worked.**  It is open if it was, and has sent commands numbered
on from the tag that was next, whatever became of them.  It has not given the pipe back, and has not
used it if it was closed. -/
structure Works (tape : π → List Transfer) (d d' : Drive π) : Prop where
  isOpen : d'.isOpen = d.isOpen
  small : d.blockSize < 4294967296 → d'.blockSize < 4294967296
  closed : d.isOpen = false → d'.pipe = d.pipe
  taped : ∃ new, tape d'.pipe = tape d.pipe ++ new ∧ .released ∉ new ∧
    Numbered d.nextTag (packets new) ∧
    d'.nextTag = d.nextTag + UInt32.ofNat (packets new).length

variable {tape : π → List Transfer} {d d' d'' : Drive π}

omit [BulkPipe π] in
/-- Nothing was transferred. -/
theorem Works.idle (hpipe : d'.pipe = d.pipe) (htag : d'.nextTag = d.nextTag)
    (hopen : d'.isOpen = d.isOpen)
    (hsmall : d.blockSize < 4294967296 → d'.blockSize < 4294967296) : Works tape d d' := by
  refine ⟨hopen, hsmall, fun _ => hpipe, [], ?_, List.not_mem_nil, trivial, ?_⟩
  · rw [hpipe, List.append_nil]
  · rw [htag]
    exact (UInt32.add_zero _).symm

omit [BulkPipe π] in
theorem Works.refl (d : Drive π) : Works tape d d := .idle rfl rfl rfl id

omit [BulkPipe π] in
theorem Works.trans (h : Works tape d d') (h' : Works tape d' d'') : Works tape d d'' := by
  obtain ⟨new, htape, hheld, hnumbered, htag⟩ := h.taped
  obtain ⟨new', htape', hheld', hnumbered', htag'⟩ := h'.taped
  refine ⟨h'.isOpen.trans h.isOpen, fun hs => h'.small (h.small hs), ?_, new ++ new', ?_, ?_, ?_,
    ?_⟩
  · intro hc
    exact (h'.closed (h.isOpen.trans hc)).trans (h.closed hc)
  · rw [htape', htape, List.append_assoc]
  · rw [List.mem_append, not_or]
    exact ⟨hheld, hheld'⟩
  · rw [packets_append]
    exact hnumbered.append (htag ▸ hnumbered')
  · rw [htag', htag, packets_append, List.length_append, UInt32.ofNat_add, UInt32.add_assoc]

/-- An operation of which a drive can say no more than that it has worked, also if it fails. -/
def OnlyWorks {α : Type} (tape : π → List Transfer) (x : IoOn (Drive π) α) : Prop :=
  ∀ d, Works tape d (ending (x d))

namespace OnlyWorks
variable {α β : Type} {x : IoOn (Drive π) α} {f : α → IoOn (Drive π) β}

omit [BulkPipe π]

theorem pure (a : α) : OnlyWorks tape (pure a : IoOn (Drive π) α) := .refl

theorem throw (e : IoError) : OnlyWorks tape (throw e : IoOn (Drive π) α) := .refl

/-- What comes second may rely on what the first can return. -/
theorem bind (hx : OnlyWorks tape x) (hf : ∀ a, (∃ d d', x d = .ok a d') → OnlyWorks tape (f a)) :
    OnlyWorks tape (x >>= f) := by
  intro d
  have hwork := hx d
  rw [ending_bind]
  cases hr : x d with
  | error e d₁ =>
    rw [hr] at hwork
    exact hwork
  | ok a d₁ =>
    rw [hr] at hwork
    exact hwork.trans (hf a ⟨d, d₁, hr⟩ d₁)

theorem get {f : Drive π → IoOn (Drive π) β} (hf : ∀ d, OnlyWorks tape (f d)) :
    OnlyWorks tape (MonadState.get >>= f) := fun d => hf d d

theorem note (l : Log.Line) : OnlyWorks tape (note l : IoOn (Drive π) Unit) :=
  fun _ => .idle rfl rfl rfl id

end OnlyWorks

/-- The transfers of a command are on the tape, as far as they were made. -/
theorem ends_exchange (hp : Tape tape) (p : π) (packet : Bytes) (length : Nat) :
    IoOn.Ends (exchange packet length) p
      (fun x p' => tape p' = tape p ++ Exchange.transfers ⟨packet, length, x.1, x.2⟩ ∧
        (length = 0 → x.1 = []))
      (fun _ p' => ∃ new, tape p' = tape p ++ new ∧ .released ∉ new ∧ packets new = [packet]) := by
  refine ((hp.out p packet).mono ?_ ?_).bind
  · intro _ p₁ hout
    have hdata : IoOn.Ends (takeData length) p₁
        (fun b p₂ => tape p₂ = tape p₁ ++ (if length = 0 then [] else [.received length b]) ∧
          (length = 0 → b = []))
        (fun e p₂ => tape p₂ = tape p₁ ++ [.missed length e]) := by
      unfold takeData
      by_cases hnone : length = 0
      · rw [if_pos hnone]
        exact ⟨by rw [if_pos hnone, List.append_nil], fun _ => rfl⟩
      · rw [if_neg hnone]
        refine (hp.into p₁ length).mono ?_ fun _ _ h => h
        intro b p₂ hin
        exact ⟨by rw [if_neg hnone, hin], fun h => absurd h hnone⟩
    refine (hdata.mono ?_ ?_).bind
    · rintro b p₂ ⟨hin, hnothing⟩
      refine ((hp.into p₂ StatusWrapper.size).mono ?_ ?_).bind
      · intro s p₃ hlast
        refine ⟨?_, hnothing⟩
        rw [hlast, hin, hout]
        simp [Exchange.transfers]
      · intro e p₃ hlast
        refine ⟨.sent packet :: (if length = 0 then [] else [.received length b])
          ++ [.missed StatusWrapper.size e], ?_, ?_, ?_⟩
        · rw [hlast, hin, hout]
          simp
        · split <;> simp
        · split <;> rfl
    · intro e p₂ hin
      refine ⟨[.sent packet, .missed length e], ?_, by simp, rfl⟩
      rw [hin, hout]
      simp
  · intro e p₁ hout
    exact ⟨[.lost packet e], hout, by simp, rfl⟩

/-- A command uses its tag up, and sends one packet. -/
theorem onlyWorks_command (hp : Tape tape) {cdb : Bytes} (hne : cdb ≠ []) (hcdb : cdb.length ≤ 16)
    (length : Nat) : OnlyWorks tape (command cdb length : IoOn (Drive π) (Bytes × Bool)) := by
  intro d
  by_cases hopen : d.isOpen = true
  · -- what is sent is the command with the tag that was next
    have hwork : ∀ p new, tape p = tape d.pipe ++ new → .released ∉ new →
        packets new = [(d.wrapper cdb length).encode] → Works tape d (d.after p) := by
      intro p new htape hheld hpackets
      refine ⟨rfl, id, fun hc => absurd (hopen.symm.trans hc) (by decide), new, htape, hheld, ?_,
        ?_⟩
      · rw [hpackets]
        exact ⟨⟨_, decode?_wrapper hne hcdb, rfl⟩, trivial⟩
      · rw [hpackets]
        rfl
    have hends : IoOn.Ends (command cdb length) d (fun _ d' => Works tape d d')
        fun _ d' => Works tape d d' := by
      apply ends_command hopen
      refine (ends_exchange hp d.pipe _ length).mono ?_ ?_
      · rintro x p ⟨htape, -⟩
        have hw := hwork p _ htape (Exchange.not_released _) (Exchange.packets_transfers _)
        exact ⟨fun _ _ => hw, fun _ _ => hw⟩
      · rintro e p ⟨new, htape, hheld, hpackets⟩
        exact hwork p new htape hheld hpackets
    cases hr : command cdb length d with
    | ok x d₁ => exact hends.ok hr
    | error e d₁ => exact hends.error hr
  · rw [command_closed (Bool.eq_false_iff.mpr hopen)]
    exact .refl d

/-- **A command that returns has made one exchange.**  What came in last is the status of this very
command. -/
theorem exchanged_command (hp : Tape tape) {cdb : Bytes} (hne : cdb ≠ []) (hcdb : cdb.length ≤ 16)
    {length : Nat} {data : Bytes} {passed : Bool}
    (h : command cdb length d = .ok (data, passed) d') :
    ∃ x : Exchange, tape d'.pipe = tape d.pipe ++ x.transfers ∧
      x.packet = (d.wrapper cdb length).encode ∧ x.asked = length ∧ x.data = data ∧
      x.Ended d.nextTag (if passed then .passed else .failed) := by
  by_cases hopen : d.isOpen = true
  · have hends : IoOn.Ends (command cdb length) d
        (fun r d' => ∃ x : Exchange, tape d'.pipe = tape d.pipe ++ x.transfers ∧
          x.packet = (d.wrapper cdb length).encode ∧ x.asked = length ∧ x.data = r.1 ∧
          x.Ended d.nextTag (if r.2 then .passed else .failed)) fun _ _ => True := by
      apply ends_command hopen
      refine (ends_exchange hp d.pipe _ length).mono ?_ fun _ _ _ => trivial
      rintro ⟨b, s⟩ p ⟨htape, hnothing⟩
      refine ⟨fun passed hpassed => ?_, fun _ _ => trivial⟩
      obtain ⟨residue, status, rfl, hphase, rfl⟩ := verdict_eq_ok_iff.mp hpassed
      refine ⟨_, htape, rfl, rfl, rfl, ⟨_, decode?_wrapper hne hcdb, rfl⟩, ⟨?_, residue, ?_⟩,
        hnothing⟩
      · exact StatusWrapper.length_encode _
      · rw [StatusWrapper.decode_encode]
        cases status with
        | passed => rfl
        | failed => rfl
        | phaseError => exact absurd rfl hphase
    exact hends.ok h
  · rw [command_closed (Bool.eq_false_iff.mpr hopen)] at h
    cases h

/-! ## Making a drive usable, and reading -/

theorem onlyWorks_identify (hp : Tape tape) : OnlyWorks tape (identify : IoOn (Drive π) Unit) := by
  refine (onlyWorks_command hp (List.cons_ne_nil _ _) (by decide) _).bind ?_
  rintro ⟨data, passed⟩ -
  refine (OnlyWorks.note _).bind fun _ _ => ?_
  by_cases htype : (if data.isEmpty then 0x1F else Bytes.byteAt data 0 % 32) ≠ 0
  · rw [if_pos htype]
    exact .note _
  · rw [if_neg htype]
    exact .pure _

theorem onlyWorks_makeReady (hp : Tape tape) :
    OnlyWorks tape (makeReady : IoOn (Drive π) Unit) := by
  refine (onlyWorks_command hp (List.cons_ne_nil _ _) (by decide) _).bind ?_
  rintro ⟨data, ready⟩ -
  cases ready with
  | true => exact .pure _
  | false =>
    refine (onlyWorks_command hp (List.cons_ne_nil _ _) (by decide) _).bind ?_
    rintro ⟨sense, passed⟩ -
    exact .note _

theorem onlyWorks_capacity (hp : Tape tape) :
    OnlyWorks tape (capacity : IoOn (Drive π) (Nat × Nat)) := by
  refine (onlyWorks_command hp (List.cons_ne_nil _ _) (by decide) _).bind ?_
  rintro ⟨data, passed⟩ -
  dsimp only
  split
  · exact .throw _
  · exact .pure _

theorem onlyWorks_initDrive (hp : Tape tape) :
    OnlyWorks tape (initDrive : IoOn (Drive π) Unit) := by
  refine (onlyWorks_identify hp).bind fun _ _ => ?_
  refine (onlyWorks_makeReady hp).bind fun _ _ => ?_
  refine (onlyWorks_capacity hp).bind ?_
  rintro ⟨last, size⟩ ⟨d, d', hread⟩
  obtain ⟨-, hsize⟩ : last < 4294967296 ∧ size < 4294967296 := (ends_capacity_small d).ok hread
  dsimp only
  split
  · exact .throw _
  · -- the one place where the block size is set
    intro d₁
    exact .idle rfl rfl rfl fun _ => hsize

theorem onlyWorks_readOnce (hp : Tape tape) (lba count : Nat) :
    OnlyWorks tape (readOnce lba count : IoOn (Drive π) Bytes) := by
  refine .get fun d => ?_
  refine (onlyWorks_command hp (readCommand_ne_nil lba count) (length_readCommand_le lba count)
    _).bind ?_
  rintro ⟨data, passed⟩ -
  dsimp only
  split
  · exact .throw _
  · split
    · exact .throw _
    · exact .pure _

theorem onlyWorks_readAlong (hp : Tape tape) (commands : List (Nat × Nat)) :
    OnlyWorks tape (readAlong commands : IoOn (Drive π) Bytes) := by
  induction commands with
  | nil => exact .pure _
  | cons c commands ih =>
    obtain ⟨lba, count⟩ := c
    rw [readAlong]
    split
    · exact .throw _
    · exact (onlyWorks_readOnce hp lba count).bind fun _ _ => ih.bind fun _ _ => .pure _

theorem onlyWorks_readBlocks (hp : Tape tape) (lba length : Nat) :
    OnlyWorks tape (readBlocks lba length : IoOn (Drive π) Bytes) := by
  intro d
  rw [readBlocks_eq]
  split
  · exact .refl d
  · split
    · exact .refl d
    · exact onlyWorks_readAlong hp _ d

omit [BulkPipe π] in
/-- An exchange for blocks that has passed and brought all its bytes. -/
theorem delivered_of_ended {lba count : Nat} (hlba : lba < 4294967296) (hcount : count < 65536)
    (hlen : count * d.blockSize < 4294967296) {x : Exchange}
    (hpacket : x.packet = (d.wrapper (readCommand lba count) (count * d.blockSize)).encode)
    (hasked : x.asked = count * d.blockSize) {tag : UInt32} (hended : x.Ended tag .passed)
    (hfull : x.data.length = x.asked) : x.Delivered d.blockSize := by
  refine ⟨⟨tag, hended⟩, ⟨d.wrapper (readCommand lba count) (count * d.blockSize), lba, count, ?_,
    blocks?_readCommand hlba hcount rfl, hasked, ?_⟩, hfull⟩
  · rw [hpacket]
    exact decode?_wrapper (readCommand_ne_nil lba count) (length_readCommand_le lba count)
  · rw [hasked]
    exact transferLength_wrapper hlen

/-- One read of a cut that succeeds is an exchange that delivered its blocks. -/
theorem delivered_readOnce (hp : Tape tape) {lba count : Nat} (hlba : lba < 4294967296)
    (hcount : count < 65536) (hlen : count * d.blockSize < 4294967296) :
    IoOn.Ends (readOnce lba count) d
      (fun b d' => d'.blockSize = d.blockSize ∧ ∃ x : Exchange,
        tape d'.pipe = tape d.pipe ++ x.transfers ∧ x.data = b ∧ x.Delivered d.blockSize)
      fun _ _ => True := by
  apply ends_readOnce
  have hne := readCommand_ne_nil lba count
  have hcdb := length_readCommand_le lba count
  have hexchange : IoOn.Ends (command (readCommand lba count) (count * d.blockSize)) d
      (fun r d' => ∃ x : Exchange, tape d'.pipe = tape d.pipe ++ x.transfers ∧
        x.packet = (d.wrapper (readCommand lba count) (count * d.blockSize)).encode ∧
        x.asked = count * d.blockSize ∧ x.data = r.1 ∧
        x.Ended d.nextTag (if r.2 then .passed else .failed)) fun _ _ => True := by
    unfold IoOn.Ends
    cases hr : command (readCommand lba count) (count * d.blockSize) d with
    | ok r d₁ => exact exchanged_command hp hne hcdb hr
    | error e d₁ => trivial
  refine (hexchange.and (command_same d _ _)).mono ?_ fun _ _ _ => trivial
  rintro ⟨data, passed⟩ d₁ ⟨⟨x, htape, hpacket, hasked, hdata, hended⟩, hsame⟩
  refine ⟨?_, fun _ _ => trivial⟩
  rintro ⟨hpassed, hfull⟩
  dsimp only at hpassed hfull hdata hended
  subst hpassed
  exact ⟨hsame.blockSize, x, htape, hdata,
    delivered_of_ended hlba hcount hlen hpacket hasked hended (by rw [hdata, hasked]; exact hfull)⟩

/-- **A read that returns is made of exchanges**, one for each command of the cut, and what it
returns is what they delivered. -/
theorem delivered_readAlong (hp : Tape tape) {size most : Nat} (hmost : most < 65536)
    (hfit : ∀ count, count ≤ most → count * size < 4294967296) (hsize : d.blockSize = size)
    (lba count : Nat) :
    IoOn.Ends (readAlong (cut most lba count)) d
      (fun b d' => ∃ xs : List Exchange,
        tape d'.pipe = tape d.pipe ++ xs.flatMap Exchange.transfers ∧
        b = xs.flatMap Exchange.data ∧ ∀ x ∈ xs, x.Delivered size)
      fun _ _ => True := by
  fun_induction cut most lba count generalizing d with
  | case1 lba count hdone => exact ⟨[], by simp, rfl, by simp⟩
  | case2 lba count hmore ih =>
    rw [readAlong]
    by_cases hfar : 4294967296 ≤ lba
    · rw [if_pos hfar]
      trivial
    · rw [if_neg hfar]
      have hle : min most count ≤ most := Nat.min_le_left most count
      have hlen : min most count * d.blockSize < 4294967296 := hsize ▸ hfit _ hle
      refine ((delivered_readOnce hp (by omega) (by omega) hlen).mono ?_ fun _ _ h => h).bind
      rintro b d₁ ⟨hsize₁, x, htape, hdata, hx⟩
      refine ((ih (hsize₁.trans hsize)).mono ?_ fun _ _ h => h).bind
      rintro rest d₂ ⟨xs, htapes, hrest, hxs⟩
      refine ⟨x :: xs, ?_, ?_, ?_⟩
      · rw [htapes, htape, List.flatMap_cons, List.append_assoc]
      · rw [List.flatMap_cons, hdata, hrest]
      · intro y hy
        rcases List.mem_cons.mp hy with rfl | hy
        · exact hsize ▸ hx
        · exact hxs y hy

theorem delivered_readBlocks (hp : Tape tape) (hsmall : d.blockSize < 4294967296)
    {lba length : Nat} {b : Bytes} (h : readBlocks lba length d = .ok b d') :
    ∃ xs : List Exchange, tape d'.pipe = tape d.pipe ++ xs.flatMap Exchange.transfers ∧
      b = xs.flatMap Exchange.data ∧ ∀ x ∈ xs, x.Delivered d.blockSize := by
  rw [readBlocks_eq] at h
  split at h
  · cases h
  · next hwhole =>
    split at h
    · cases h
    · by_cases hpos : 0 < d.blockSize
      · obtain ⟨-, hmost, hfit⟩ := commandBlocks_bounds hpos hsmall
        exact (delivered_readAlong hp hmost hfit rfl _ _).ok h
      · -- a drive without a block size can be asked for nothing only
        have hnone : length / d.blockSize = 0 := by
          rw [Nat.eq_zero_of_not_pos hpos, Nat.div_zero]
        rw [hnone, cut, dif_pos (.inl rfl)] at h
        cases h
        exact ⟨[], by simp, rfl, by simp⟩

/-! ## Whole lives -/

/-- What can be asked of a drive. -/
inductive Request where
  | read (lba length : Nat)
  | close
  deriving DecidableEq, Repr

/-- The drive after a request, whatever came of it. -/
def served (d : Drive π) : Request → Drive π
  | .read lba length => ending (readBlocks lba length d)
  | .close => ending (close d)

/-- The drive after some requests. -/
def servedAll (d : Drive π) (requests : List Request) : Drive π := requests.foldl served d

/-- A drive is closed once. -/
theorem close_closed (hc : d.isOpen = false) : d.served .close = d := by
  show ending (close d) = d
  unfold close
  rw [IoOn.bind_get, hc]
  rfl

/-- Nothing is done on the pipe of a drive that was closed. -/
theorem servedAll_closed (hp : Tape tape) (hc : d.isOpen = false) (requests : List Request) :
    (d.servedAll requests).pipe = d.pipe := by
  induction requests generalizing d with
  | nil => rfl
  | cons r requests ih =>
    show ((d.served r).servedAll requests).pipe = d.pipe
    cases r with
    | close =>
      rw [close_closed hc]
      exact ih hc
    | read lba length =>
      have hwork : Works tape d (d.served (.read lba length)) :=
        onlyWorks_readBlocks hp lba length d
      exact (ih (hwork.isOpen.trans hc)).trans (hwork.closed hc)

/-- Closing a drive gives the pipe back, and transfers nothing. -/
theorem close_taped (hp : Tape tape) (hopen : d.isOpen = true) :
    (d.served .close).isOpen = false ∧ (d.served .close).nextTag = d.nextTag ∧
      (d.served .close).blockSize = d.blockSize ∧
      tape (d.served .close).pipe = tape d.pipe ++ [.released] := by
  have hrelease := hp.release d.pipe
  show (ending (close d)).isOpen = false ∧ (ending (close d)).nextTag = d.nextTag ∧
    (ending (close d)).blockSize = d.blockSize ∧ tape (ending (close d)).pipe = _
  unfold close
  simp only [IoOn.bind_get, hopen, if_true, IoOn.bind_set, onPipe, IoOn.zoom]
  cases hr : BulkPipe.release d.pipe with
  | ok u p =>
    rw [hr] at hrelease
    exact ⟨rfl, rfl, rfl, hrelease⟩
  | error e p =>
    rw [hr] at hrelease
    exact ⟨rfl, rfl, rfl, hrelease⟩

/-- **The conversation of a drive** since the tape was at `start`: every command sent since is
numbered, from one on, and the pipe was given back once if the drive is closed. -/
structure Conversed (tape : π → List Transfer) (start : List Transfer) (d : Drive π) : Prop where
  small : d.blockSize < 4294967296
  taped : ∃ new, tape d.pipe = start ++ new ∧ Numbered 1 (packets new) ∧
    d.nextTag = 1 + UInt32.ofNat (packets new).length ∧
    new.count .released = if d.isOpen then 0 else 1

variable {start : List Transfer}

omit [BulkPipe π] in
/-- Work goes on with the conversation. -/
theorem Conversed.works (h : Conversed tape start d) (hw : Works tape d d') :
    Conversed tape start d' := by
  obtain ⟨new, htape, hnumbered, htag, hcount⟩ := h.taped
  obtain ⟨new', htape', hheld', hnumbered', htag'⟩ := hw.taped
  refine ⟨hw.small h.small, new ++ new', ?_, ?_, ?_, ?_⟩
  · rw [htape', htape, List.append_assoc]
  · rw [packets_append]
    exact hnumbered.append (htag ▸ hnumbered')
  · rw [htag', htag, packets_append, List.length_append, UInt32.ofNat_add, UInt32.add_assoc]
  · rw [List.count_append, List.count_eq_zero_of_not_mem hheld', hw.isOpen, hcount, Nat.add_zero]

theorem conversed_ofPipe (hp : Tape tape) (p : π) :
    Conversed tape (tape p) (ofPipe p).2 ∧ (ofPipe p).2.isOpen = true := by
  have hnew : Conversed tape (tape p) ({ pipe := p } : Drive π) :=
    ⟨Nat.zero_lt_succ _, [], (List.append_nil _).symm, trivial, rfl, rfl⟩
  have hwork := onlyWorks_initDrive hp ({ pipe := p } : Drive π)
  unfold ofPipe
  rw [IoOn.outcome_snd]
  exact ⟨hnew.works hwork, hwork.isOpen⟩

/-- Each request goes on with the conversation, and only a request to close ends it. -/
theorem conversed_served (hp : Tape tape) (h : Conversed tape start d) (r : Request) :
    Conversed tape start (d.served r) ∧
      ((d.served r).isOpen = true ↔ d.isOpen = true ∧ r ≠ .close) := by
  cases r with
  | read lba length =>
    have hwork : Works tape d (d.served (.read lba length)) := onlyWorks_readBlocks hp lba length d
    refine ⟨h.works hwork, ?_⟩
    rw [hwork.isOpen]
    simp
  | close =>
    by_cases hopen : d.isOpen = true
    · obtain ⟨hclosed, htag', hsize, htape'⟩ := close_taped hp hopen
      obtain ⟨new, htape, hnumbered, htag, hcount⟩ := h.taped
      refine ⟨⟨?_, new ++ [.released], ?_, ?_, ?_, ?_⟩, ?_⟩
      · rw [hsize]
        exact h.small
      · rw [htape', htape, List.append_assoc]
      · rw [packets_released]
        exact hnumbered
      · rw [packets_released, htag', htag]
      · rw [List.count_append, hcount, hclosed, hopen]
        rfl
      · rw [hclosed]
        simp
    · rw [close_closed (Bool.eq_false_iff.mpr hopen)]
      exact ⟨h, fun h => absurd h hopen, fun h => h.1⟩

theorem conversed_servedAll (hp : Tape tape) (h : Conversed tape start d)
    (requests : List Request) :
    Conversed tape start (d.servedAll requests) ∧
      ((d.servedAll requests).isOpen = true ↔ d.isOpen = true ∧ .close ∉ requests) := by
  induction requests generalizing d with
  | nil => exact ⟨h, by simp [servedAll]⟩
  | cons r requests ih =>
    obtain ⟨hstep, hopen⟩ := conversed_served hp h r
    obtain ⟨hrest, hopen'⟩ := ih hstep
    refine ⟨hrest, hopen'.trans ?_⟩
    rw [hopen, List.mem_cons, not_or, and_assoc]
    exact and_congr_right fun _ => and_congr_left fun _ => ne_comm

/-- **Whatever the pipe does.**  After a drive was made usable over a pipe, or was not, and after
any requests: the commands sent so far are numbered from one on, modulo `2^32`, also those that
were lost.  A command that returns has made one exchange, ended by the status of this command, and
passed or failed as the status says.  A read that returns is made of exchanges for blocks that have
passed and brought all their bytes.  The pipe was given back once if the drive was closed, and not
else; and once the drive was closed, nothing more is done on the pipe. -/
theorem conversation_on_any_pipe (hp : Tape tape) (p : π) (requests : List Request) :
    let d := (ofPipe p).2.servedAll requests
    (∃ new, tape d.pipe = tape p ++ new ∧
      (∀ i packet, (packets new)[i]? = some packet →
        ∃ w, CommandWrapper.decode? packet = some w ∧ w.tag = UInt32.ofNat (i + 1)) ∧
      new.count .released = if .close ∈ requests then 1 else 0) ∧
    (∀ (d₀ d' : Drive π) cdb length data passed, 1 ≤ cdb.length → cdb.length ≤ 16 →
      command cdb length d₀ = .ok (data, passed) d' →
      ∃ x : Exchange, tape d'.pipe = tape d₀.pipe ++ x.transfers ∧ x.asked = length ∧
        x.data = data ∧ x.Ended d₀.nextTag (if passed then .passed else .failed)) ∧
    (∀ lba length data d', readBlocks lba length d = .ok data d' →
      ∃ xs : List Exchange, tape d'.pipe = tape d.pipe ++ xs.flatMap Exchange.transfers ∧
        data = xs.flatMap Exchange.data ∧ ∀ x ∈ xs, x.Delivered d.blockSize) ∧
    (.close ∈ requests → ∀ later, tape (d.servedAll later).pipe = tape d.pipe) := by
  intro d
  obtain ⟨hinit, hfirst⟩ := conversed_ofPipe hp p
  obtain ⟨hall, hopen⟩ := conversed_servedAll hp hinit requests
  have hclosed : d.isOpen = true ↔ .close ∉ requests := by
    rw [hopen, hfirst]
    simp
  obtain ⟨new, htape, hnumbered, -, hcount⟩ := hall.taped
  refine ⟨⟨new, htape, ?_, ?_⟩, ?_, ?_, ?_⟩
  · intro i packet hpacket
    obtain ⟨w, hw, htag⟩ := hnumbered.get hpacket
    refine ⟨w, hw, htag.trans ?_⟩
    rw [Nat.add_comm i 1, UInt32.ofNat_add]
    rfl
  · rw [hcount]
    by_cases hmem : .close ∈ requests
    · rw [if_pos hmem, if_neg (fun h => hclosed.mp h hmem)]
    · rw [if_neg hmem, if_pos (hclosed.mpr hmem)]
  · intro d₀ d' cdb length data passed hone hcdb hcommand
    have hne : cdb ≠ [] := List.length_pos_iff.mp hone
    obtain ⟨x, hx, -, hasked, hdata, hended⟩ := exchanged_command hp hne hcdb hcommand
    exact ⟨x, hx, hasked, hdata, hended⟩
  · intro lba length data d' hread
    exact delivered_readBlocks hp hall.small hread
  · intro hmem later
    have hshut : d.isOpen = false := by
      rw [← Bool.not_eq_true, hclosed]
      exact fun h => h hmem
    rw [servedAll_closed hp hshut]

/-- A line to four blocks of one byte, which brings nothing for a first read, the status of another
command for a second one, and two blocks for a third. -/
def moodyLine : Line where
  incoming :=
    [.data (List.replicate 36 0), .status 0 0 0, .status 0 0 0, .data [0, 0, 0, 3, 0, 0, 0, 1],
      .status 0 0 0, .fails Line.silent, .data [1, 2], .status 1 0 0, .data [7, 8], .status 0 0 0]

/-- Two reads fail; the five commands sent are numbered nevertheless, and a third read brings its
two blocks.  Closed after the first read, the drive gives the pipe back, and does nothing more. -/
theorem conversation_on_moody_line :
    Tape (Taped.tape : Taped Line → List Transfer) ∧
    (∃ d, d = (ofPipe (⟨moodyLine, []⟩ : Taped Line)).2.servedAll [.read 0 2, .read 0 2] ∧
      (∃ d', readBlocks 2 2 d = .ok [7, 8] d' ∧
        ∃ xs : List Exchange, d'.pipe.tape = d.pipe.tape ++ xs.flatMap Exchange.transfers ∧
          [7, 8] = xs.flatMap Exchange.data ∧ ∀ x ∈ xs, x.Delivered d.blockSize) ∧
      (packets d.pipe.tape).length = 5 ∧
      (∀ i packet, (packets d.pipe.tape)[i]? = some packet →
        ∃ w, CommandWrapper.decode? packet = some w ∧ w.tag = UInt32.ofNat (i + 1)) ∧
      d.pipe.tape.count .released = 0) ∧
    ∃ d, d = (ofPipe (⟨moodyLine, []⟩ : Taped Line)).2.servedAll [.read 0 2, .close] ∧
      d.pipe.tape.count .released = 1 ∧ ∀ later, (d.servedAll later).pipe.tape = d.pipe.tape := by
  have hrun : (IoOn.outcome (readBlocks 2 2)
        ((ofPipe (⟨moodyLine, []⟩ : Taped Line)).2.servedAll [.read 0 2, .read 0 2])).1.toOption
          = some [7, 8] ∧
      (packets ((ofPipe (⟨moodyLine, []⟩ : Taped Line)).2.servedAll
        [.read 0 2, .read 0 2]).pipe.tape).length = 5 := by decide +kernel
  obtain ⟨hread, hfive⟩ := hrun
  obtain ⟨⟨new, htape, hnumbered, hcount⟩, -, hdelivered, -⟩ :=
    conversation_on_any_pipe Taped.tape_tells (⟨moodyLine, []⟩ : Taped Line)
      [.read 0 2, .read 0 2]
  obtain ⟨⟨whole, htape', -, hcount'⟩, -, -, hlater⟩ :=
    conversation_on_any_pipe Taped.tape_tells (⟨moodyLine, []⟩ : Taped Line) [.read 0 2, .close]
  rw [List.nil_append] at htape htape'
  rw [← htape] at hnumbered hcount
  rw [← htape'] at hcount'
  have hok := IoOn.ok_of_toOption hread
  refine ⟨Taped.tape_tells, ⟨_, rfl, ⟨_, hok, hdelivered 2 2 _ _ hok⟩, hfive, hnumbered, hcount⟩,
    _, rfl, hcount', hlater (by decide)⟩

end Drive
end ThumbDrive

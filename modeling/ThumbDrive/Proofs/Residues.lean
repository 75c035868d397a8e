import ThumbDrive.Proofs.Transfers

/-! # Residues

A status names a residue: the number of bytes of the data phase that are missing or padding.  A
drive counts the bytes that came in by itself, and does not look at the residue.  So it finds out
what is missing, and it cannot find out what is padding.

This is said by having the residues told again.  `Retold` is a pipe that hands everything on as it
is, but for the residue in each status, which is up to `told`.  Nothing that a read does or returns
depends on it (`retold_readBlocks`): a read that returns on a pipe returns the same when the device
says of every command that some of it, or all of it, is padding. -/
namespace ThumbDrive

namespace StatusWrapper

/-- A status with its residue told again, by the tag of the command.  What is no status is left. -/
def retell (told : UInt32 → UInt32) (b : Bytes) : Bytes :=
  match decode b with
  | .ok w => encode { w with residue := told w.tag }
  | .error _ => b

theorem retell_encode (told : UInt32 → UInt32) (w : StatusWrapper) :
    retell told w.encode = encode { w with residue := told w.tag } := by
  unfold retell
  rw [decode_encode]

theorem retell_error {told : UInt32 → UInt32} {b : Bytes} {e : IoError} (h : decode b = .error e) :
    retell told b = b := by
  unfold retell
  rw [h]

end StatusWrapper

/-- The judgement of a status does not depend on its residue. -/
theorem Drive.verdict_retell (cdb : Bytes) (tag : UInt32) (told : UInt32 → UInt32) (b : Bytes) :
    verdict cdb tag (StatusWrapper.retell told b) = verdict cdb tag b := by
  cases hb : StatusWrapper.decode b with
  | error e => rw [StatusWrapper.retell_error hb]
  | ok w =>
    rw [StatusWrapper.eq_encode_of_decode hb, StatusWrapper.retell_encode]
    unfold verdict
    rw [StatusWrapper.decode_encode, StatusWrapper.decode_encode]

variable {π : Type} [BulkPipe π]

/-- A pipe whose statuses have their residues told again. -/
structure Retold (π : Type) where
  pipe : π
  told : UInt32 → UInt32
  /-- Whether data comes in before the next status. -/
  dataDue : Bool := false

namespace Retold

/-- A command announces whether there is data to come. -/
def bulkOut (b : Bytes) : IoOn (Retold π) Unit := fun x =>
  IoOn.zoom pipe (fun p x => { x with pipe := p }) (BulkPipe.bulkOut b)
    { x with dataDue := Bytes.word32 b 8 != 0 }

/-- Data is handed on as it is. -/
def bulkIn (n : Nat) : IoOn (Retold π) Bytes := fun x =>
  IoOn.zoom pipe (fun p x => { x with pipe := p, dataDue := false })
    (BulkPipe.bulkIn n >>= fun b =>
      pure (if x.dataDue then b else StatusWrapper.retell x.told b)) x

instance : BulkPipe (Retold π) where
  bulkOut := bulkOut
  bulkIn := bulkIn
  release := IoOn.zoom pipe (fun p x => { x with pipe := p }) BulkPipe.release

theorem ends_bulkOut (b : Bytes) (x : Retold π) :
    IoOn.Ends (BulkPipe.bulkOut b) x
      (fun _ y => y.told = x.told ∧ y.dataDue = (Bytes.word32 b 8 != 0) ∧
        BulkPipe.bulkOut b x.pipe = .ok () y.pipe)
      fun e y => BulkPipe.bulkOut b x.pipe = .error e y.pipe := by
  show IoOn.Ends (bulkOut b) x _ _
  unfold IoOn.Ends bulkOut IoOn.zoom
  dsimp only
  cases BulkPipe.bulkOut b x.pipe with
  | ok u p => exact ⟨rfl, rfl, rfl⟩
  | error e p => rfl

theorem ends_bulkIn (n : Nat) (x : Retold π) :
    IoOn.Ends (BulkPipe.bulkIn n) x
      (fun b y => y.told = x.told ∧ y.dataDue = false ∧ ∃ b₀,
        b = (if x.dataDue then b₀ else StatusWrapper.retell x.told b₀) ∧
        BulkPipe.bulkIn n x.pipe = .ok b₀ y.pipe)
      fun e y => BulkPipe.bulkIn n x.pipe = .error e y.pipe := by
  show IoOn.Ends (bulkIn n) x _ _
  unfold IoOn.Ends bulkIn IoOn.zoom
  cases hx : BulkPipe.bulkIn n x.pipe with
  | ok b p =>
    rw [IoOn.bind_ok hx]
    exact ⟨rfl, rfl, b, rfl, rfl⟩
  | error e p =>
    rw [IoOn.bind_error hx]

end Retold

namespace Drive

/-! ## What a drive does when residues are told again -/

/-- The drive on the pipe below. -/
def below (d : Drive (Taped (Retold π))) : Drive π where
  pipe := d.pipe.pipe.pipe
  nextTag := d.nextTag
  blockSize := d.blockSize
  blockCount := d.blockCount
  isOpen := d.isOpen
  log := d.log

/-- How residues are told to a drive. -/
def told (d : Drive (Taped (Retold π))) : UInt32 → UInt32 := d.pipe.pipe.told

/-- The transfers of a command are those on the pipe below, but for the residue. -/
theorem retold_exchange (x : Taped (Retold π)) {packet : Bytes} {length : Nat}
    (hdue : (Bytes.word32 packet 8 != 0) = (length != 0)) :
    IoOn.Ends (exchange packet length) x
      (fun r y => y.pipe.told = x.pipe.told ∧ ∃ answer,
        r.2 = StatusWrapper.retell x.pipe.told answer ∧
        exchange packet length x.pipe.pipe = .ok (r.1, answer) y.pipe.pipe)
      fun e y => exchange packet length x.pipe.pipe = .error e y.pipe.pipe := by
  have hout : IoOn.Ends (BulkPipe.bulkOut packet) x _ _ :=
    Taped.ends_pipe (Retold.ends_bulkOut packet x.pipe)
  refine (hout.mono ?_ ?_).bind
  · rintro - x₁ ⟨htold₁, hdue₁, hbelow₁⟩
    have hexchange : exchange packet length x.pipe.pipe = (do
        let data ← takeData length
        let answer ← BulkPipe.bulkIn StatusWrapper.size
        pure (data, answer)) x₁.pipe.pipe := IoOn.bind_ok hbelow₁
    have hdata : IoOn.Ends (takeData length) x₁
        (fun b x₂ => x₂.pipe.told = x.pipe.told ∧ x₂.pipe.dataDue = false ∧
          takeData length x₁.pipe.pipe = .ok b x₂.pipe.pipe)
        fun e x₂ => takeData length x₁.pipe.pipe = .error e x₂.pipe.pipe := by
      unfold takeData
      by_cases hnone : length = 0
      · rw [if_pos hnone, if_pos hnone]
        refine ⟨htold₁, ?_, rfl⟩
        rw [hdue₁, hdue, hnone]
        rfl
      · rw [if_neg hnone, if_neg hnone]
        have hin : IoOn.Ends (BulkPipe.bulkIn length) x₁ _ _ :=
          Taped.ends_pipe (Retold.ends_bulkIn length x₁.pipe)
        refine hin.mono ?_ fun _ _ h => h
        rintro b x₂ ⟨htold₂, hdue₂, b₀, hb, hbelow₂⟩
        rw [hdue₁, hdue, if_pos (bne_iff_ne.mpr hnone)] at hb
        exact ⟨htold₂.trans htold₁, hdue₂, hb ▸ hbelow₂⟩
    refine (hdata.mono ?_ ?_).bind
    · rintro b x₂ ⟨htold₂, hdue₂, hbelow₂⟩
      have hin : IoOn.Ends (BulkPipe.bulkIn StatusWrapper.size) x₂ _ _ :=
        Taped.ends_pipe (Retold.ends_bulkIn StatusWrapper.size x₂.pipe)
      refine (hin.mono ?_ ?_).bind
      · rintro s x₃ ⟨htold₃, -, answer, hs, hbelow₃⟩
        rw [hdue₂, htold₂] at hs
        refine ⟨htold₃.trans htold₂, answer, hs, ?_⟩
        rw [hexchange, IoOn.bind_ok hbelow₂, IoOn.bind_ok hbelow₃]
        rfl
      · intro e x₃ hbelow₃
        rw [hexchange, IoOn.bind_ok hbelow₂, IoOn.bind_error hbelow₃]
    · intro e x₂ hbelow₂
      exact hexchange.trans (IoOn.bind_error hbelow₂)
  · intro e x₁ hbelow₁
    exact IoOn.bind_error hbelow₁

omit [BulkPipe π] in
/-- The number of bytes that a command announces. -/
theorem word32_wrapper {d : Drive π} {cdb : Bytes} {length : Nat} (hlen : length < 4294967296) :
    Bytes.word32 (d.wrapper cdb length).encode 8 = length := by
  have hlt : (d.wrapper cdb length).transferLength.toNat < Bytes.limit 4 :=
    (d.wrapper cdb length).transferLength.toNat_lt
  have hword : Bytes.word32 (d.wrapper cdb length).encode 8 =
      (d.wrapper cdb length).transferLength.toNat % Bytes.limit 4 := Bytes.ofLittle_little 4 _
  rw [hword, Nat.mod_eq_of_lt hlt, transferLength_wrapper hlen]

section
variable {d : Drive π} {cdb : Bytes} {length : Nat} {p : π} {x : Bytes × Bytes} {e : IoError}

theorem command_lost (ho : d.isOpen = true)
    (hx : exchange (d.wrapper cdb length).encode length d.pipe = .error e p) :
    command cdb length d = .error e (d.after p) := by
  rw [command_eq ho, hx]

theorem command_judged (ho : d.isOpen = true) {passed : Bool}
    (hx : exchange (d.wrapper cdb length).encode length d.pipe = .ok x p)
    (hv : verdict cdb d.nextTag x.2 = .ok passed) :
    command cdb length d = .ok (x.1, passed) (d.after p) := by
  simp only [command_eq ho, hx, hv]

theorem command_misjudged (ho : d.isOpen = true)
    (hx : exchange (d.wrapper cdb length).encode length d.pipe = .ok x p)
    (hv : verdict cdb d.nextTag x.2 = .error e) : command cdb length d = .error e (d.after p) := by
  simp only [command_eq ho, hx, hv]

end

/-- A command ends as on the pipe below.  If it returns, the status has the residue that is told. -/
theorem retold_command (d : Drive (Taped (Retold π))) (cdb : Bytes) {length : Nat}
    (hlen : length < 4294967296) :
    IoOn.Ends (command cdb length) d
      (fun r d' => d'.told = d.told ∧ d'.blockSize = d.blockSize ∧
        command cdb length d.below = .ok r d'.below ∧
        ∃ status, r.2 = (status == .passed) ∧ d'.pipe.tape = d.pipe.tape ++ Exchange.transfers
          ⟨(d.wrapper cdb length).encode, length, r.1,
            StatusWrapper.encode ⟨d.nextTag, d.told d.nextTag, status⟩⟩ ∧
          (length = 0 → r.1 = []))
      fun e d' => command cdb length d.below = .error e d'.below := by
  by_cases hopen : d.isOpen = true
  · have hdue : (Bytes.word32 (d.wrapper cdb length).encode 8 != 0) = (length != 0) := by
      rw [word32_wrapper hlen]
    have hbelow : d.below.isOpen = true := hopen
    apply ends_command hopen
    refine ((ends_exchange Taped.tape_tells d.pipe _ length).and
      (retold_exchange d.pipe hdue)).mono ?_ ?_
    · rintro ⟨data, b⟩ p ⟨⟨htape, hnothing⟩, htold, answer, hb, hexchange⟩
      dsimp only at hb htape hexchange ⊢
      rw [hb, verdict_retell]
      constructor
      · intro passed hpassed
        obtain ⟨residue, status, hanswer, -, hstatus⟩ := verdict_eq_ok_iff.mp hpassed
        rw [hb, hanswer, StatusWrapper.retell_encode] at htape
        exact ⟨htold, rfl, command_judged hbelow hexchange hpassed, status, hstatus, htape,
          hnothing⟩
      · intro e he
        exact command_misjudged hbelow hexchange he
    · rintro e p ⟨-, hexchange⟩
      exact command_lost hbelow hexchange
  · have hclosed : d.isOpen = false := Bool.eq_false_iff.mpr hopen
    have hbelow : d.below.isOpen = false := hclosed
    unfold IoOn.Ends
    rw [command_closed hclosed]
    exact command_closed hbelow cdb length

/-- What becomes of the answer to a read of `length` bytes. -/
def accepted (lba length : Nat) (r : Bytes × Bool) : Except IoError Bytes :=
  if !r.2 then .error (.other ("READ(10) at LBA " ++ Decimal.write lba ++ " failed"))
  else if r.1.length ≠ length then
    .error ⟨.unexpectedEof, "READ(10) at LBA " ++ Decimal.write lba ++ " returned "
      ++ Decimal.write r.1.length ++ " of " ++ Decimal.write length ++ " bytes"⟩
  else .ok r.1

theorem accepted_eq_ok {lba length : Nat} {r : Bytes × Bool} {b : Bytes}
    (h : accepted lba length r = .ok b) : r.2 = true ∧ r.1.length = length ∧ r.1 = b := by
  obtain ⟨data, passed⟩ := r
  unfold accepted at h
  cases passed with
  | false => cases h
  | true =>
    rw [if_neg (by simp)] at h
    split at h
    · cases h
    · next hfull =>
      cases h
      exact ⟨rfl, Decidable.not_not.mp hfull, rfl⟩

theorem readOnce_eq (d : Drive π) (lba count : Nat) :
    readOnce lba count d =
      (command (readCommand lba count) (count * d.blockSize) >>= fun r =>
        IoOn.ofExcept (accepted lba (count * d.blockSize) r)) d := by
  unfold readOnce
  rw [IoOn.bind_get]
  refine congrFun (congrArg (bind (command (readCommand lba count) (count * d.blockSize))) ?_) d
  funext ⟨data, passed⟩
  unfold accepted
  cases passed with
  | false => rfl
  | true =>
    by_cases hfull : data.length = count * d.blockSize
    · simp only [hfull, ne_eq, not_true_eq_false, if_false, Bool.not_true, Bool.false_eq_true]
      rfl
    · simp only [hfull, ne_eq, not_false_eq_true, if_true, Bool.not_true, Bool.false_eq_true,
        if_false]
      rfl

theorem readAlong_cons {d : Drive π} {lba count : Nat} {commands : List (Nat × Nat)}
    (hlba : lba < 4294967296) :
    readAlong ((lba, count) :: commands) d =
      (readOnce lba count >>= fun data => readAlong commands >>= fun rest =>
        pure (data ++ rest)) d := by
  rw [readAlong, if_neg (by omega)]

/-- An exchange for blocks, passed and complete, whose status has the residue that is told. -/
structure DeliveredAs (told : UInt32 → UInt32) (blockSize : Nat) (x : Exchange) : Prop where
  delivered : x.Delivered blockSize
  residue : ∃ tag, StatusWrapper.decode x.answer = .ok ⟨tag, told tag, .passed⟩

/-- One read of a cut ends as on the pipe below. -/
theorem retold_readOnce (d : Drive (Taped (Retold π))) {lba count : Nat} (hlba : lba < 4294967296)
    (hcount : count < 65536) (hlen : count * d.blockSize < 4294967296) :
    IoOn.Ends (readOnce lba count) d
      (fun b d' => d'.told = d.told ∧ d'.blockSize = d.blockSize ∧
        readOnce lba count d.below = .ok b d'.below ∧ ∃ x : Exchange,
          d'.pipe.tape = d.pipe.tape ++ x.transfers ∧ x.data = b ∧
          DeliveredAs d.told d.blockSize x)
      fun e d' => readOnce lba count d.below = .error e d'.below := by
  have hbelow : readOnce lba count d.below =
      (command (readCommand lba count) (count * d.blockSize) >>= fun r =>
        IoOn.ofExcept (accepted lba (count * d.blockSize) r)) d.below :=
    readOnce_eq d.below lba count
  unfold IoOn.Ends
  rw [readOnce_eq, hbelow]
  refine ((retold_command d (readCommand lba count) hlen).mono ?_ ?_).bind
  · rintro r d₁ ⟨htold, hsize, hcommand, status, hstatus, htape, hnothing⟩
    rw [IoOn.bind_ok hcommand]
    cases haccepted : accepted lba (count * d.blockSize) r with
    | error e => rfl
    | ok b =>
      obtain ⟨hpassed, hfull, hdata⟩ := accepted_eq_ok haccepted
      obtain rfl : status = .passed := by
        rw [hpassed] at hstatus
        exact eq_of_beq hstatus.symm
      have hdecode := StatusWrapper.decode_encode ⟨d.nextTag, d.told d.nextTag, .passed⟩
      have hlength := StatusWrapper.length_encode ⟨d.nextTag, d.told d.nextTag, .passed⟩
      generalize StatusWrapper.encode ⟨d.nextTag, d.told d.nextTag, .passed⟩ = answer
        at htape hdecode hlength
      have hpacket : CommandWrapper.decode?
          (d.wrapper (readCommand lba count) (count * d.blockSize)).encode = some _ :=
        decode?_wrapper (readCommand_ne_nil lba count) (length_readCommand_le lba count)
      exact ⟨htold, hsize, rfl, _, htape, hdata,
        delivered_of_ended hlba hcount hlen rfl rfl
          ⟨⟨_, hpacket, rfl⟩, ⟨hlength, _, hdecode⟩, hnothing⟩ hfull, _, hdecode⟩
  · intro e d₁ hcommand
    exact IoOn.bind_error hcommand

/-- **A read ends as on the pipe below**, whatever is told, and the statuses it has accepted have
the residues that are told. -/
theorem retold_readAlong {size most : Nat} (hmost : most < 65536)
    (hfit : ∀ count, count ≤ most → count * size < 4294967296) (d : Drive (Taped (Retold π)))
    (hsize : d.blockSize = size) (lba count : Nat) :
    IoOn.Ends (readAlong (cut most lba count)) d
      (fun b d' => readAlong (cut most lba count) d.below = .ok b d'.below ∧
        ∃ xs : List Exchange, d'.pipe.tape = d.pipe.tape ++ xs.flatMap Exchange.transfers ∧
          b = xs.flatMap Exchange.data ∧ ∀ x ∈ xs, DeliveredAs d.told size x)
      fun e d' => readAlong (cut most lba count) d.below = .error e d'.below := by
  fun_induction cut most lba count generalizing d with
  | case1 lba count hdone => exact ⟨rfl, [], by simp, rfl, by simp⟩
  | case2 lba count hmore ih =>
    by_cases hfar : 4294967296 ≤ lba
    · rw [readAlong, readAlong, if_pos hfar, if_pos hfar]
      exact rfl
    · unfold IoOn.Ends
      rw [readAlong_cons (by omega), readAlong_cons (by omega)]
      have hle : min most count ≤ most := Nat.min_le_left most count
      have hlen : min most count * d.blockSize < 4294967296 := hsize ▸ hfit _ hle
      refine ((retold_readOnce d (by omega) (by omega) hlen).mono ?_ ?_).bind
      · rintro b d₁ ⟨htold, hsize₁, hfirst, x, htape, hdata, hx⟩
        rw [IoOn.bind_ok hfirst]
        refine ((ih d₁ (hsize₁.trans hsize)).mono ?_ ?_).bind
        · rintro rest d₂ ⟨hsecond, xs, htapes, hrest, hxs⟩
          refine ⟨by rw [IoOn.bind_ok hsecond]; rfl, x :: xs, ?_, ?_, ?_⟩
          · rw [htapes, htape, List.flatMap_cons, List.append_assoc]
          · rw [List.flatMap_cons, hdata, hrest]
          · intro y hy
            rcases List.mem_cons.mp hy with rfl | hy
            · exact hsize ▸ hx
            · exact htold ▸ hxs y hy
        · intro e d₂ hsecond
          exact IoOn.bind_error hsecond
      · intro e d₁ hfirst
        exact IoOn.bind_error hfirst

/-- The drive with every transfer written down, on a pipe that has the residues told again. -/
def retelling (d : Drive π) (told : UInt32 → UInt32) : Drive (Taped (Retold π)) where
  pipe := { pipe := { pipe := d.pipe, told } }
  nextTag := d.nextTag
  blockSize := d.blockSize
  blockCount := d.blockCount
  isOpen := d.isOpen
  log := d.log

/-- A read ends as on the pipe below. -/
theorem retold_readBlocks (d : Drive (Taped (Retold π))) (hpos : 0 < d.blockSize)
    (hsmall : d.blockSize < 4294967296) (lba length : Nat) :
    IoOn.Ends (readBlocks lba length) d
      (fun b d' => readBlocks lba length d.below = .ok b d'.below ∧
        ∃ xs : List Exchange, d'.pipe.tape = d.pipe.tape ++ xs.flatMap Exchange.transfers ∧
          b = xs.flatMap Exchange.data ∧ ∀ x ∈ xs, DeliveredAs d.told d.blockSize x)
      fun e d' => readBlocks lba length d.below = .error e d'.below := by
  obtain ⟨-, hmost, hfit⟩ := commandBlocks_bounds hpos hsmall
  have hbelow := readBlocks_eq d.below lba length
  rw [show d.below.blockSize = d.blockSize from rfl,
    show d.below.blockCount = d.blockCount from rfl] at hbelow
  unfold IoOn.Ends
  rw [readBlocks_eq]
  by_cases hwhole : length % d.blockSize ≠ 0
  · rw [if_pos hwhole] at hbelow ⊢
    exact hbelow
  · rw [if_neg hwhole] at hbelow ⊢
    by_cases hend : d.blockCount < lba + length / d.blockSize
    · rw [if_pos hend] at hbelow ⊢
      exact hbelow
    · rw [if_neg hend] at hbelow ⊢
      rw [hbelow]
      exact retold_readAlong hmost hfit d rfl lba (length / d.blockSize)

/-- **No residue is looked at.**  Take any pipe, and let the device tell any residues instead of
those it told.  A read ends as it did before, in the same data or the same error.  If it returns, it
has accepted a status with the residue that was told for every one of its commands; the number of
bytes it has received is right, and that is all: the residue is this number's shortfall only if it
is zero. -/
theorem no_residue_looked_at (d : Drive π) (hpos : 0 < d.blockSize)
    (hsmall : d.blockSize < 4294967296) (told : UInt32 → UInt32) (lba length : Nat) :
    (IoOn.outcome (readBlocks lba length) (d.retelling told)).1 =
        (IoOn.outcome (readBlocks lba length) d).1 ∧
      ∀ data d', readBlocks lba length d = .ok data d' → ∃ e' : Drive (Taped (Retold π)),
        readBlocks lba length (d.retelling told) = .ok data e' ∧ ∃ xs : List Exchange,
          e'.pipe.tape = xs.flatMap Exchange.transfers ∧ data = xs.flatMap Exchange.data ∧
          ∀ x ∈ xs, x.Delivered d.blockSize ∧ ∃ tag,
            StatusWrapper.decode x.answer = .ok ⟨tag, told tag, .passed⟩ ∧
            ((told tag).toNat = x.asked - x.data.length ↔ told tag = 0) := by
  have hends := retold_readBlocks (d.retelling told) hpos hsmall lba length
  have hbelow : (d.retelling told).below = d := rfl
  cases hrun : readBlocks lba length (d.retelling told) with
  | error e e' =>
    have hsame : readBlocks lba length d = .error e e'.below := hends.error hrun
    refine ⟨by rw [IoOn.outcome_error hrun, IoOn.outcome_error hsame], ?_⟩
    intro data d' hread
    cases hsame.symm.trans hread
  | ok b e' =>
    obtain ⟨hsame, xs, htape, hdata, hxs⟩ := hends.ok hrun
    rw [hbelow] at hsame
    refine ⟨by rw [IoOn.outcome_ok hrun, IoOn.outcome_ok hsame], ?_⟩
    intro data d' hread
    cases hsame.symm.trans hread
    refine ⟨e', rfl, xs, htape, hdata, fun x hx => ?_⟩
    obtain ⟨hdelivered, tag, hdecode⟩ := hxs x hx
    refine ⟨hdelivered, tag, hdecode, ?_⟩
    rw [hdelivered.complete, Nat.sub_self, ← UInt32.toNat_inj]
    rfl

/-- A line to four blocks of two bytes, which brings the second of them. -/
def pairLine : Line where
  incoming := [.data [7, 0], .status 0 0 0]

/-- The block is read although the device now tells that one of its two bytes is padding. -/
theorem no_residue_looked_at_padding :
    ∃ e' : Drive (Taped (Retold Line)),
      readBlocks 1 2 (({ pipe := pairLine, blockSize := 2, blockCount := 4 } : Drive Line).retelling
        fun _ => 1) = .ok [7, 0] e' ∧
      ∃ xs : List Exchange, e'.pipe.tape = xs.flatMap Exchange.transfers ∧
        [7, 0] = xs.flatMap Exchange.data ∧
        ∀ x ∈ xs, x.Delivered 2 ∧ ∃ tag, StatusWrapper.decode x.answer = .ok ⟨tag, 1, .passed⟩ := by
  have hread : (IoOn.outcome (readBlocks 1 2)
      ({ pipe := pairLine, blockSize := 2, blockCount := 4 } : Drive Line)).1.toOption =
        some [7, 0] := by decide +kernel
  obtain ⟨-, hreturns⟩ := no_residue_looked_at
    ({ pipe := pairLine, blockSize := 2, blockCount := 4 } : Drive Line) (by decide) (by decide)
    (fun _ => 1) 1 2
  obtain ⟨e', hrun, xs, htape, hdata, hxs⟩ := hreturns _ _ (IoOn.ok_of_toOption hread)
  refine ⟨e', hrun, xs, htape, hdata, fun x hx => ?_⟩
  obtain ⟨hdelivered, tag, hdecode, -⟩ := hxs x hx
  exact ⟨hdelivered, tag, hdecode⟩

end Drive
end ThumbDrive

import ThumbDrive.Proofs.Drive
import ThumbDrive.Proofs.Guards

/-! # Reads stay inside the partition

The capacity of a drive and the entries of its partition table are numbers that the device made up,
and a position in a file comes from an allocation table that it made up as well.  Still no read
leaves the partition that was found, and none is refused by the drive for what it asks for.

A drive that was made usable has at most `2^32` blocks, numbered with 32 bits (`Drive.Bounded`), and
a partition that is found on it has blocks and ends on the drive (`Partition.look_inside`).  A drive
is `Traced` to tell the calls made to it and the failures of its reads.  What reads inside a window
keep is that the drive has its capacity, was asked for nothing outside, and has refused nothing
(`Traced.Orderly`); `Guards` carries this through the session.

A failure of the pipe reaches the reader as it is.  So a pipe could fail in the words of a drive
that refuses a read, and `BulkPipe.Distinct` says of one that it does not. -/
namespace ThumbDrive

/-- How a drive refuses a read for what it asks for: no whole blocks, blocks past the end, or a
block that no command can name. -/
def Drive.refusals : List IoError :=
  [⟨.invalidInput, "read length is not a multiple of the block size"⟩,
    ⟨.unexpectedEof, "read past the end of the device"⟩,
    ⟨.invalidInput, "LBA beyond READ(10) range"⟩]

section
variable {π : Type} [BulkPipe π]

namespace BulkPipe

/-- A pipe whose failures, now and whatever is done to it, are not taken for refusals of a drive. -/
def Distinct (p : π) : Prop :=
  ∃ Sound : π → Prop, Sound p ∧ ∀ p, Sound p →
    (∀ b, IoOn.Ends (bulkOut b) p (fun _ p' => Sound p')
      fun e p' => Sound p' ∧ e ∉ Drive.refusals) ∧
    (∀ n, IoOn.Ends (bulkIn n) p (fun _ p' => Sound p')
      fun e p' => Sound p' ∧ e ∉ Drive.refusals) ∧
    Sound (ending (release p))

namespace Distinct
variable {p : π}

theorem bulkOut (h : Distinct p) (b : Bytes) :
    IoOn.Ends (bulkOut b) p (fun _ p' => Distinct p')
      fun e p' => Distinct p' ∧ e ∉ Drive.refusals := by
  obtain ⟨Sound, hp, hkeeps⟩ := h
  exact ((hkeeps p hp).1 b).mono (fun _ p' hp' => ⟨Sound, hp', hkeeps⟩)
    fun e p' hp' => ⟨⟨Sound, hp'.1, hkeeps⟩, hp'.2⟩

theorem bulkIn (h : Distinct p) (n : Nat) :
    IoOn.Ends (bulkIn n) p (fun _ p' => Distinct p')
      fun e p' => Distinct p' ∧ e ∉ Drive.refusals := by
  obtain ⟨Sound, hp, hkeeps⟩ := h
  exact ((hkeeps p hp).2.1 n).mono (fun _ p' hp' => ⟨Sound, hp', hkeeps⟩)
    fun e p' hp' => ⟨⟨Sound, hp'.1, hkeeps⟩, hp'.2⟩

theorem release (h : Distinct p) : Distinct (ending (BulkPipe.release p)) := by
  obtain ⟨Sound, hp, hkeeps⟩ := h
  exact ⟨Sound, (hkeeps p hp).2.2, hkeeps⟩

end Distinct
end BulkPipe

/-- A line with nothing laid down in advance fails only when there is nothing to receive. -/
theorem Line.distinct {l : Line} (hi : l.incoming = []) (ho : l.outgoing = []) :
    BulkPipe.Distinct l := by
  refine ⟨fun l => l.incoming = [] ∧ l.outgoing = [], ⟨hi, ho⟩, ?_⟩
  rintro l ⟨hi, ho⟩
  refine ⟨fun b => ?_, fun n => ?_, ?_⟩
  · show IoOn.Ends (Line.bulkOut b) l _ _
    unfold IoOn.Ends Line.bulkOut
    simp only [IoOn.bind_get, IoOn.bind_set, ho, List.tail_nil, List.headD_nil, IoOn.bind_modify]
    cases l.target with
    | none => exact ⟨hi, rfl⟩
    | some t => exact ⟨hi, rfl⟩
  · show IoOn.Ends (Line.bulkIn n) l _ _
    unfold IoOn.Ends
    rw [Line.bulkIn_eq hi]
    cases receive? n l.queue with
    | none =>
      -- nothing is queued, and the line times out
      exact ⟨⟨hi, ho⟩, by decide⟩
    | some taken => exact ⟨hi, ho⟩
  · show (ending (Line.release l)).incoming = [] ∧ (ending (Line.release l)).outgoing = []
    unfold Line.release
    simp only [IoOn.bind_modify, IoOn.bind_get]
    cases l.releaseError with
    | none => exact ⟨hi, ho⟩
    | some e => exact ⟨hi, ho⟩

namespace Drive
open BulkPipe (Distinct)

/-! Failures are told from refusals by their kind, but for one, which has a message of its own. -/

theorem not_refusal {e : IoError} (kind : IoError.Kind) (hkind : e.kind = kind)
    (hown : kind ≠ .invalidInput ∧ kind ≠ .unexpectedEof) : e ∉ refusals := by
  obtain ⟨hinput, hend⟩ := hown
  intro he
  simp only [refusals, List.mem_cons, List.not_mem_nil, or_false] at he
  rcases he with rfl | rfl | rfl
  · exact hinput hkind.symm
  · exact hend hkind.symm
  · exact hinput hkind.symm

theorem short_not_refusal (rest : String) :
    (⟨.unexpectedEof, "READ(10) at LBA " ++ rest⟩ : IoError) ∉ refusals := by
  intro he
  simp only [refusals, List.mem_cons, List.not_mem_nil, or_false, IoError.mk.injEq] at he
  rcases he with ⟨hkind, -⟩ | ⟨-, hmessage⟩ | ⟨hkind, -⟩
  · cases hkind
  · -- the messages differ in their first letter
    have hfirst := congrArg (fun m => m.toList.head?) hmessage
    simp at hfirst
  · cases hkind

theorem verdict_error_kind {cdb b : Bytes} {tag : UInt32} {e : IoError}
    (h : verdict cdb tag b = .error e) : e.kind = .invalidData := by
  unfold verdict StatusWrapper.decode at h
  grind [protocolError]

/-! ## What a command keeps -/

/-- The drive has its capacity, and its pipe can be told from it as before. -/
structure Same (d d' : Drive π) : Prop where
  blockSize : d'.blockSize = d.blockSize
  blockCount : d'.blockCount = d.blockCount
  pipe : Distinct d.pipe → Distinct d'.pipe

theorem Same.refl (d : Drive π) : Same d d := ⟨rfl, rfl, id⟩

theorem Same.trans {d d₁ d₂ : Drive π} (h : Same d d₁) (h' : Same d₁ d₂) : Same d d₂ :=
  ⟨h'.blockSize.trans h.blockSize, h'.blockCount.trans h.blockCount, fun hp => h'.pipe (h.pipe hp)⟩

theorem close_same (d : Drive π) : Same d (ending (close d)) := by
  by_cases ho : d.isOpen = true
  · have hrelease : Distinct d.pipe → Distinct (ending (BulkPipe.release d.pipe)) :=
      Distinct.release
    unfold close
    simp only [IoOn.bind_get, ho, if_true, IoOn.bind_set, onPipe, IoOn.zoom]
    cases hr : BulkPipe.release d.pipe with
    | ok u p =>
      rw [hr] at hrelease
      exact ⟨rfl, rfl, hrelease⟩
    | error e p =>
      rw [hr] at hrelease
      exact ⟨rfl, rfl, hrelease⟩
  · unfold close
    simp only [IoOn.bind_get, ho]
    exact .refl d

/-- A failure that leaves the drive the same and is no refusal. -/
def Excused (d : Drive π) (e : IoError) (d' : Drive π) : Prop :=
  Same d d' ∧ (Distinct d.pipe → e ∉ refusals)

theorem Excused.after {d d₁ d₂ : Drive π} {e : IoError} (h : Excused d₁ e d₂) (h' : Same d d₁) :
    Excused d e d₂ :=
  ⟨h'.trans h.1, fun hp => h.2 (h'.pipe hp)⟩

theorem exchange_distinct {p : π} (hp : Distinct p) (packet : Bytes) (length : Nat) :
    IoOn.Ends (exchange packet length) p (fun _ p' => Distinct p')
      fun e p' => Distinct p' ∧ e ∉ refusals := by
  refine ((hp.bulkOut packet).mono ?_ fun _ _ h => h).bind
  intro _ p₁ hp₁
  have hdata : IoOn.Ends (takeData length) p₁ (fun _ p' => Distinct p')
      fun e p' => Distinct p' ∧ e ∉ refusals := by
    unfold takeData
    by_cases hnone : length = 0
    · rw [if_pos hnone]
      exact hp₁
    · rw [if_neg hnone]
      exact hp₁.bulkIn length
  refine (hdata.mono ?_ fun _ _ h => h).bind
  intro data p₂ hp₂
  refine ((hp₂.bulkIn StatusWrapper.size).mono ?_ fun _ _ h => h).bind
  intro status p₃ hp₃
  exact hp₃

theorem command_same (d : Drive π) (cdb : Bytes) (length : Nat) :
    IoOn.Ends (command cdb length) d (fun _ d' => Same d d') (Excused d) := by
  by_cases ho : d.isOpen = true
  · apply ends_command ho
    refine (IoOn.Ends.of_imp fun hp => exchange_distinct hp _ _).mono ?_ ?_
    · intro x p hp
      have hsame : Same d (d.after p) := ⟨rfl, rfl, hp⟩
      refine ⟨fun _ _ => hsame, fun e he => ⟨hsame, fun _ => ?_⟩⟩
      exact not_refusal .invalidData (verdict_error_kind he) (by decide)
    · intro e p hp
      exact ⟨⟨rfl, rfl, fun h => (hp h).1⟩, fun h => (hp h).2⟩
  · unfold IoOn.Ends
    rw [command_closed (Bool.eq_false_iff.mpr ho)]
    exact ⟨.refl d, fun _ => not_refusal .notConnected rfl (by decide)⟩

theorem readOnce_same (d : Drive π) (lba count : Nat) :
    IoOn.Ends (readOnce lba count) d (fun _ d' => Same d d') (Excused d) := by
  unfold readOnce
  apply IoOn.Ends.get
  refine ((command_same d _ _).mono ?_ fun _ _ h => h).bind
  rintro ⟨data, passed⟩ d₁ hd₁
  cases passed with
  | false => exact ⟨hd₁, fun _ => not_refusal .other rfl (by decide)⟩
  | true =>
    by_cases hlen : data.length = count * d.blockSize
    · unfold IoOn.Ends
      simp only [hlen, ne_eq, not_true_eq_false, if_false, Bool.not_true, Bool.false_eq_true]
      exact hd₁
    · unfold IoOn.Ends
      simp only [hlen, ne_eq, not_false_eq_true, if_true, Bool.not_true, Bool.false_eq_true,
        if_false]
      refine ⟨hd₁, fun _ => ?_⟩
      simp only [String.append_assoc]
      exact short_not_refusal _

/-! ## Capacity -/

/-- Blocks have a size and there are some, each of them numbered with 32 bits. -/
structure Bounded (d : Drive π) : Prop where
  size_pos : 0 < d.blockSize
  size_small : d.blockSize < 4294967296
  count_pos : 0 < d.blockCount
  count_small : d.blockCount ≤ 4294967296

theorem Same.bounded {d d' : Drive π} (h : Same d d') (hb : d.Bounded) : d'.Bounded := by
  obtain ⟨hsize, hcount, -⟩ := h
  exact ⟨hsize ▸ hb.size_pos, hsize ▸ hb.size_small, hcount ▸ hb.count_pos, hcount ▸ hb.count_small⟩

theorem ends_capacity_small (d : Drive π) :
    IoOn.Ends capacity d (fun x _ => x.1 < 4294967296 ∧ x.2 < 4294967296) (fun _ _ => True) := by
  unfold capacity
  refine (IoOn.Ends.of_forall ?_ fun _ _ => trivial).bind
  rintro ⟨data, passed⟩ d₁
  by_cases hbad : (!passed || data.length != 8) = true
  · unfold IoOn.Ends
    simp only [hbad, if_true]
    trivial
  · have hlen : data.length = 8 := by
      rw [Bool.or_eq_true, not_or, bne_iff_ne] at hbad
      exact Decidable.not_not.mp hbad.2
    have hlast := Bytes.ofBig_lt (data.take 4)
    have hsize := Bytes.ofBig_lt (data.drop 4)
    rw [List.length_take, hlen] at hlast
    rw [List.length_drop, hlen] at hsize
    unfold IoOn.Ends
    simp only [hbad, if_false, Bool.false_eq_true]
    exact ⟨hlast, hsize⟩

/-- **A drive that was made usable** has blocks, whatever is at the other end of the pipe. -/
theorem bounded_ofPipe {p : π} {d : Drive π} (h : ofPipe p = (.ok (), d)) : d.Bounded := by
  have hends : IoOn.Ends initDrive ({ pipe := p } : Drive π) (fun _ d' => d'.Bounded)
      fun _ _ => True := by
    -- only the answer about the capacity counts, not what came before
    refine (IoOn.Ends.of_forall (fun _ d₁ => ?_) fun _ _ => trivial).bind
    refine (IoOn.Ends.of_forall (fun _ d₂ => ?_) fun _ _ => trivial).bind
    refine ((ends_capacity_small d₂).mono ?_ fun _ _ h => h).bind
    rintro ⟨last, size⟩ d₃ ⟨hlast, hsize⟩
    dsimp only at hlast hsize ⊢
    by_cases hzero : size = 0
    · rw [if_pos hzero]
      trivial
    · rw [if_neg hzero]
      exact ⟨Nat.pos_of_ne_zero hzero, hsize, Nat.succ_pos last, hlast⟩
  unfold ofPipe IoOn.outcome at h
  cases hr : (initDrive : IoOn (Drive π) Unit) { pipe := p } with
  | ok u d' =>
    rw [hr] at h
    cases h
    exact hends.ok hr
  | error e d' =>
    rw [hr] at h
    cases h

/-- Commands one after the other, none of which starts behind the last block that can be named. -/
theorem readAlong_same {most lba count : Nat} (hin : lba + count ≤ 4294967296) (d : Drive π) :
    IoOn.Ends (readAlong (cut most lba count)) d (fun _ d' => Same d d') (Excused d) := by
  fun_induction cut most lba count generalizing d with
  | case1 lba count hdone => exact .refl d
  | case2 lba count hmore ih =>
    -- there is a block to read at `lba`, so `lba` is not the bound itself
    have hlba : ¬ 4294967296 ≤ lba := by omega
    rw [readAlong, if_neg hlba]
    refine ((readOnce_same d lba (min most count)).mono ?_ fun _ _ h => h).bind
    intro b d₁ hd₁
    refine ((ih (by omega) d₁).mono ?_ fun _ _ h => h.after hd₁).bind
    intro rest d₂ hd₂
    exact hd₁.trans hd₂

/-- **Blocks of a drive are read without a refusal.** -/
theorem readBlocks_same {d : Drive π} (hb : d.Bounded) {lba length : Nat}
    (hin : Within d.blockSize 0 d.blockCount lba length) :
    IoOn.Ends (readBlocks lba length) d (fun _ d' => Same d d') (Excused d) := by
  have hend : lba + length / d.blockSize ≤ d.blockCount := by
    have hupper := hin.upper
    omega
  have hmod : ¬ length % d.blockSize ≠ 0 := by simp [Nat.mod_eq_zero_of_dvd hin.whole]
  unfold IoOn.Ends
  rw [readBlocks_eq, if_neg hmod, if_neg (Nat.not_lt.mpr hend)]
  exact readAlong_same (Nat.le_trans hend hb.count_small) d

/-! ## Drives that are watched -/

end Drive

/-- A drive with the calls made to it and with the failures of its reads. -/
abbrev Traced (π : Type) := Journaled (Logged (Drive π))

namespace Traced
open Drive (Same Excused)
open BulkPipe (Distinct)

theorem read_ok {x : Traced π} {lba length : Nat} {b : Bytes} {d : Drive π}
    (h : Drive.readBlocks lba length x.device.device = .ok b d) :
    BlockDevice.readBlocks lba length x =
      .ok b
        { device := { x.device with device := d }
          journal := .read lba length :: x.journal } := by
  show Journaled.call (.read lba length) (Logged.readBlocks lba length) x = _
  have hlogged : Logged.readBlocks lba length x.device = .ok b { x.device with device := d } := by
    unfold Logged.readBlocks
    rw [show BlockDevice.readBlocks lba length x.device.device = _ from h]
  unfold Journaled.call IoOn.zoom
  rw [hlogged]

theorem read_error {x : Traced π} {lba length : Nat} {e : IoError} {d : Drive π}
    (h : Drive.readBlocks lba length x.device.device = .error e d) :
    BlockDevice.readBlocks lba length x =
      .error e { device := { device := d, log := e :: x.device.log }
                 journal := .read lba length :: x.journal } := by
  show Journaled.call (.read lba length) (Logged.readBlocks lba length) x = _
  have hlogged : Logged.readBlocks lba length x.device =
      .error e { device := d, log := e :: x.device.log } := by
    unfold Logged.readBlocks
    rw [show BlockDevice.readBlocks lba length x.device.device = _ from h]
  unfold Journaled.call IoOn.zoom
  rw [hlogged]

theorem ending_close (x : Traced π) :
    ending (BlockDevice.close x) =
      { device := { x.device with device := ending (Drive.close x.device.device) }
        journal := .close :: x.journal } := by
  show ending (Journaled.call .close (IoOn.zoom Logged.device _ Drive.close) x) = _
  unfold Journaled.call IoOn.zoom
  cases Drive.close x.device.device <;> rfl

omit [BulkPipe π] in
/-- A drive that is watched from now on. -/
def ofDrive (d : Drive π) : Traced π := { device := { device := d } }

/-- **From `x` to `y`**, a drive with the capacity of `d` was asked for whole blocks among the
`count` from `first` on, and refused none of them. -/
structure Orderly (d : Drive π) (first count : Nat) (x y : Traced π) : Prop where
  drive : Same d y.device.device
  calls : ∃ later, y.journal = later ++ x.journal ∧
    ∀ lba length, .read lba length ∈ later → Within d.blockSize first count lba length
  failures : ∃ later, y.device.log = later ++ x.device.log ∧
    (Distinct d.pipe → ∀ e ∈ later, e ∉ Drive.refusals)

theorem Orderly.refl {d : Drive π} (first count : Nat) {x : Traced π} (h : Same d x.device.device) :
    Orderly d first count x x where
  drive := h
  calls := ⟨[], rfl, fun _ _ hmem => nomatch hmem⟩
  failures := ⟨[], rfl, fun _ _ hmem => nomatch hmem⟩

theorem Orderly.widen {d : Drive π} {first count total : Nat} {x y : Traced π}
    (h : Orderly d first count x y) (hend : first + count ≤ total) : Orderly d 0 total x y := by
  obtain ⟨later, hjournal, hall⟩ := h.calls
  exact ⟨h.drive, ⟨later, hjournal, fun lba length hmem => (hall lba length hmem).widen hend⟩,
    h.failures⟩

theorem Orderly.trans {d : Drive π} {first count : Nat} {x y z : Traced π}
    (h : Orderly d first count x y) (h' : Orderly d first count y z) :
    Orderly d first count x z := by
  obtain ⟨calls, hcalls, hreads⟩ := h.calls
  obtain ⟨calls', hcalls', hreads'⟩ := h'.calls
  obtain ⟨fails, hfails, hown⟩ := h.failures
  obtain ⟨fails', hfails', hown'⟩ := h'.failures
  refine ⟨h'.drive, ⟨calls' ++ calls, ?_, ?_⟩, ⟨fails' ++ fails, ?_, ?_⟩⟩
  · rw [hcalls', hcalls, List.append_assoc]
  · intro lba length hmem
    rcases List.mem_append.mp hmem with hlate | hearly
    · exact hreads' lba length hlate
    · exact hreads lba length hearly
  · rw [hfails', hfails, List.append_assoc]
  · intro hp e hmem
    rcases List.mem_append.mp hmem with hlate | hearly
    · exact hown' hp e hlate
    · exact hown hp e hearly

theorem Orderly.on_drive {d : Drive π} {y : Traced π}
    (h : Orderly d 0 d.blockCount (ofDrive d) y) (lba length : Nat)
    (hmem : .read lba length ∈ y.journal) :
    d.blockSize ∣ length ∧ lba + length / d.blockSize ≤ d.blockCount := by
  obtain ⟨later, hjournal, hall⟩ := h.calls
  have hlater : y.journal = later := hjournal.trans (List.append_nil later)
  obtain ⟨hwhole, -, hupper⟩ := hall lba length (hlater ▸ hmem)
  exact ⟨hwhole, by omega⟩

theorem Orderly.not_refused {d : Drive π} {first count : Nat} {y : Traced π}
    (h : Orderly d first count (ofDrive d) y) (hp : Distinct d.pipe) :
    ∀ e ∈ y.device.log, e ∉ Drive.refusals := by
  obtain ⟨later, hlog, hown⟩ := h.failures
  have hlater : y.device.log = later := hlog.trans (List.append_nil later)
  rw [hlater]
  exact hown hp

/-- A call leaves the calls in order if it is no read of other blocks. -/
theorem Orderly.call {d : Drive π} {first count : Nat} {x y : Traced π}
    (h : Orderly d first count x y) {c : Probe.Call}
    (hc : ∀ lba length, c = .read lba length → Within d.blockSize first count lba length) :
    ∃ later, c :: y.journal = later ++ x.journal ∧
      ∀ lba length, .read lba length ∈ later → Within d.blockSize first count lba length := by
  obtain ⟨later, hjournal, hall⟩ := h.calls
  refine ⟨c :: later, congrArg (c :: ·) hjournal, ?_⟩
  intro lba length hmem
  rcases List.mem_cons.mp hmem with heq | hlater
  · exact hc lba length heq.symm
  · exact hall lba length hlater

theorem Orderly.read {d : Drive π} (hb : d.Bounded) {first count : Nat}
    (hend : first + count ≤ d.blockCount) {x y : Traced π} (h : Orderly d first count x y)
    {lba length : Nat} (hin : Within d.blockSize first count lba length) :
    Orderly d first count x (ending (BlockDevice.readBlocks lba length y)) := by
  have hcalls := h.call (c := .read lba length) fun _ _ heq => by
    cases heq
    exact hin
  have hon : Within y.device.device.blockSize 0 y.device.device.blockCount lba length := by
    rw [h.drive.blockSize, h.drive.blockCount]
    exact hin.widen hend
  have hends := Drive.readBlocks_same (h.drive.bounded hb) hon
  cases hr : Drive.readBlocks lba length y.device.device with
  | ok b d' =>
    rw [read_ok hr]
    exact ⟨h.drive.trans (hends.ok hr), hcalls, h.failures⟩
  | error e d' =>
    rw [read_error hr]
    obtain ⟨hsame, he⟩ := (hends.error hr).after h.drive
    obtain ⟨later, hlog, hall⟩ := h.failures
    refine ⟨hsame, hcalls, e :: later, congrArg (e :: ·) hlog, ?_⟩
    intro hp e' hmem
    rcases List.mem_cons.mp hmem with rfl | hlater
    · exact he hp
    · exact hall hp e' hlater

theorem Orderly.close {d : Drive π} {first count : Nat} {x y : Traced π}
    (h : Orderly d first count x y) : Orderly d first count x (ending (BlockDevice.close y)) := by
  rw [ending_close]
  have hcalls := h.call (c := .close) fun _ _ heq => nomatch heq
  exact ⟨h.drive.trans (Drive.close_same y.device.device), hcalls, h.failures⟩

/-- Reads inside a window on the drive, from any moment on. -/
theorem guards {d : Drive π} (hb : d.Bounded) {first count : Nat}
    (hend : first + count ≤ d.blockCount) (x : Traced π) :
    Guards (Orderly d first count x) d.blockSize first count where
  positive := hb.size_pos
  blockSize h := h.drive.blockSize
  read h hin := h.read hb hend hin
  close h := h.close

/-! ## The search -/

/-- The search reads the first block, or nothing. -/
theorem orderly_find {d : Drive π} (hb : d.Bounded) :
    Orderly d 0 d.blockCount (ofDrive d) (ending (Partition.find (ofDrive d))) ∧
      ∀ c ∈ (ending (Partition.find (ofDrive d))).journal, c = .read 0 d.blockSize := by
  have hstart : Orderly d 0 d.blockCount (ofDrive d) (ofDrive d) := .refl 0 _ (.refl d)
  show Orderly d 0 d.blockCount (ofDrive d)
      (ending (Partition.look d.blockSize d.blockCount (ofDrive d))) ∧
    ∀ c ∈ (ending (Partition.look d.blockSize d.blockCount (ofDrive d))).journal, _
  unfold Partition.look
  by_cases hsmall : d.blockCount = 0 ∨ d.blockSize < BootSector.size
  · rw [if_pos hsmall]
    exact ⟨hstart, fun c hmem => nomatch hmem⟩
  · rw [if_neg hsmall, ending_bind]
    have hin : Within d.blockSize 0 d.blockCount 0 d.blockSize := by
      refine ⟨Nat.dvd_refl _, Nat.le_refl 0, ?_⟩
      rw [Nat.div_self hb.size_pos]
      omega
    have hread := hstart.read hb (Nat.le_of_eq (Nat.zero_add _)) hin
    have hjournal : (ending (BlockDevice.readBlocks 0 d.blockSize (ofDrive d))).journal =
        [.read 0 d.blockSize] := Journaled.journal_tells.read (ofDrive d) 0 d.blockSize
    have hall : ∀ c ∈ (ending (BlockDevice.readBlocks 0 d.blockSize (ofDrive d))).journal,
        c = .read 0 d.blockSize := by
      rw [hjournal]
      exact fun c hmem => List.mem_singleton.mp hmem
    cases hr : BlockDevice.readBlocks 0 d.blockSize (ofDrive d) with
    | ok b y =>
      rw [hr] at hread hall
      exact ⟨hread, hall⟩
    | error e y =>
      rw [hr] at hread hall
      exact ⟨hread, hall⟩

/-- A partition that is found has blocks, and they are on the drive. -/
theorem find_inside {d : Drive π} {f : Partition.Finding} {y : Traced π} {q : Partition}
    (hf : Partition.find (ofDrive d) = .ok f y) (hq : f.partition? = some q) :
    0 < q.blockCount ∧ q.firstLba + q.blockCount ≤ d.blockCount :=
  (Partition.look_inside hf hq).2

omit [BulkPipe π] in
/-- The first block of a partition is inside it. -/
theorem within_first_block {d : Drive π} (hb : d.Bounded) {q : Partition} (hq : 0 < q.blockCount) :
    Within d.blockSize q.firstLba q.blockCount q.firstLba d.blockSize := by
  refine ⟨Nat.dvd_refl _, Nat.le_refl _, ?_⟩
  rw [Nat.div_self hb.size_pos]
  omega

/-- The search ends without a partition, or goes on to its first block. -/
theorem findPartition_cases {d : Drive π} (hb : d.Bounded) :
    ((∃ e, Session.findPartition (ofDrive d) = .error e (ending (Partition.find (ofDrive d)))) ∨
      Session.findPartition (ofDrive d) = .ok none (ending (Partition.find (ofDrive d)))) ∨
    ∃ f y q, Partition.find (ofDrive d) = .ok f y ∧ f.partition? = some q ∧
      ((∃ e z, Session.findPartition (ofDrive d) = .error e z ∧
          Orderly d q.firstLba q.blockCount y z) ∨
        ∃ b z, Session.findPartition (ofDrive d) = .ok (some (q, b)) z ∧
          Orderly d q.firstLba q.blockCount y z) := by
  obtain ⟨hsearch, -⟩ := orderly_find hb
  cases hf : Partition.find (ofDrive d) with
  | error e y => exact .inl (.inl ⟨e, Session.findPartition_error hf⟩)
  | ok f y =>
    rw [hf] at hsearch
    have hsame : Same d y.device.device := hsearch.drive
    cases hq : f.partition? with
    | none => exact .inl (.inr (Session.findPartition_none hf hq))
    | some q =>
      obtain ⟨hblocks, hend⟩ := find_inside hf hq
      have hfirst := (Orderly.refl q.firstLba q.blockCount hsame).read hb hend
        (within_first_block hb hblocks)
      -- the size of a block is asked for again, and has not changed
      have hfind := Session.findPartition_some hf hq
      rw [show BlockDevice.blockSize y = d.blockSize from hsame.blockSize] at hfind
      refine .inr ⟨f, y, q, rfl, hq, ?_⟩
      cases hr : BlockDevice.readBlocks q.firstLba d.blockSize y with
      | error e z =>
        rw [hr] at hfirst
        rw [IoOn.bind_error hr] at hfind
        exact .inl ⟨e, z, hfind, hfirst⟩
      | ok b z =>
        rw [hr] at hfirst
        rw [IoOn.bind_ok hr] at hfind
        exact .inr ⟨b, z, hfind, hfirst⟩

/-! ## Streams and sessions -/

/-- However the stream on a partition is moved and read, its device is read inside the partition. -/
theorem covers_reached {d : Drive π} (hb : d.Bounded) {q : Partition} {b : Bytes} {z : Traced π}
    (hfind : Session.findPartition (ofDrive d) = .ok (some (q, b)) z) {s : BlockStream (Traced π)}
    (hr : BlockStream.Reaches
      { device := z, firstLba := q.firstLba, blockCount := q.blockCount } s) :
    ∃ f y, Partition.find (ofDrive d) = .ok f y ∧ f.partition? = some q ∧
      BlockStream.Covers (Orderly d q.firstLba q.blockCount y) q.firstLba q.blockCount s := by
  rcases findPartition_cases hb with
    (⟨e, he⟩ | hnone) | ⟨f, y, q', hf, hq, ⟨e, z', he, -⟩ | ⟨b', z', hsome, hz⟩⟩
  · cases he.symm.trans hfind
  · cases hnone.symm.trans hfind
  · cases he.symm.trans hfind
  · cases hsome.symm.trans hfind
    have hguards := guards hb (find_inside hf hq).2 y
    exact ⟨f, y, hf, hq, BlockStream.Covers.reaches hguards ⟨rfl, rfl, hz⟩ hr⟩

/-- **A whole session.**  Its device is closed after the search, or read inside the partition that
was found. -/
theorem orderly_lifetime {d : Drive π} (hb : d.Bounded) (name : String) (ops : List Session.Op) :
    ∃ x, Session.lifetime name true (.ok (ofDrive d)) ops = some x ∧
      (x = Session.closed (ending (Partition.find (ofDrive d))) ∨
        ∃ f y q, Partition.find (ofDrive d) = .ok f y ∧ f.partition? = some q ∧
          Orderly d q.firstLba q.blockCount y x) := by
  rcases findPartition_cases hb with hnone | ⟨f, y, q, hf, hq, hfound⟩
  · exact ⟨_, Session.lifetime_closed name ops hnone, .inl rfl⟩
  · have hguards := guards hb (find_inside hf hq).2 y
    rcases hfound with ⟨e, z, he, hz⟩ | ⟨b, z, hsome, hz⟩
    · have hend := Session.lifetime_closed name ops (.inl ⟨e, he⟩)
      exact ⟨_, hend, .inr ⟨f, y, q, hf, hq, Session.keeps_closed hguards hz⟩⟩
    · obtain ⟨x, hx, hall⟩ := Session.lifetime_keeps hguards hsome hz name ops
      exact ⟨x, hx, .inr ⟨f, y, q, hf, hq, hall⟩⟩

end Traced

namespace Session
open Traced (ofDrive Orderly)

/-- **No read leaves the partition.**  A drive that was made usable has at least one block and at
most `2^32`, and a partition that is found on it has blocks, all of them on the drive.  The search
reads the first block, or nothing; every read after it, in the whole life of the session, is for
whole blocks of the partition.  However the stream on the partition is moved and read, the numbers
worked out for a read have 64 bits.  And unless the pipe fails in the words of a drive, no failure
of a read is a refusal. -/
theorem reads_stay_inside {p : π} {d : Drive π} (hinit : Drive.ofPipe p = (.ok (), d))
    (name : String) (ops : List Op) :
    d.Bounded ∧
    (∀ f y q, Partition.find (ofDrive d) = .ok f y → f.partition? = some q →
      1 ≤ q.blockCount ∧ q.firstLba + q.blockCount ≤ d.blockCount) ∧
    (∀ q b z s, findPartition (ofDrive d) = .ok (some (q, b)) z →
      BlockStream.Reaches { device := z, firstLba := q.firstLba, blockCount := q.blockCount } s →
      s.Fits ∧ Orderly d q.firstLba q.blockCount (ending (Partition.find (ofDrive d))) s.device) ∧
    ∃ x later, lifetime name true (.ok (ofDrive d)) ops = some x ∧
      x.journal = later ++ (ending (Partition.find (ofDrive d))).journal ∧
      (∀ c ∈ (ending (Partition.find (ofDrive d))).journal, c = .read 0 d.blockSize) ∧
      (∀ lba length, .read lba length ∈ x.journal →
        d.blockSize ∣ length ∧ lba + length / d.blockSize ≤ d.blockCount) ∧
      (∀ lba length, .read lba length ∈ later →
        ∃ f y q, Partition.find (ofDrive d) = .ok f y ∧ f.partition? = some q ∧
          Within d.blockSize q.firstLba q.blockCount lba length) ∧
      (BulkPipe.Distinct d.pipe → ∀ e ∈ x.device.log, e ∉ Drive.refusals) := by
  have hb := Drive.bounded_ofPipe hinit
  obtain ⟨hsearch, hfirst⟩ := Traced.orderly_find hb
  refine ⟨hb, fun f y q hf hq => Traced.find_inside hf hq, ?_, ?_⟩
  · intro q b z s hfind hr
    obtain ⟨f, y, hf, hq, hs⟩ := Traced.covers_reached hb hfind hr
    obtain ⟨-, hend⟩ := Traced.find_inside hf hq
    have hsize := hs.blockSize_eq (Traced.guards hb hend y)
    refine ⟨BlockStream.fits (hsize ▸ hb.size_pos) (hsize ▸ hb.size_small) ?_, ?_⟩
    · rw [hs.firstLba, hs.blockCount]
      exact Nat.le_trans hend hb.count_small
    · rw [hf]
      exact hs.device
  · obtain ⟨x, hx, hcase⟩ := Traced.orderly_lifetime hb name ops
    rcases hcase with rfl | ⟨f, y, q, hf, hq, hall⟩
    · have hwhole := keeps_closed
        (Traced.guards hb (Nat.le_of_eq (Nat.zero_add d.blockCount)) (ofDrive d)) hsearch
      refine ⟨_, [.close], hx, calls_closed Journaled.journal_tells _, hfirst, hwhole.on_drive, ?_,
        hwhole.not_refused⟩
      intro lba length hmem
      cases List.mem_singleton.mp hmem
    · rw [hf] at hsearch hfirst ⊢
      have hwhole := Orderly.trans hsearch (hall.widen (Traced.find_inside hf hq).2)
      obtain ⟨later, hjournal, hinside⟩ := hall.calls
      refine ⟨x, later, hx, hjournal, hfirst, hwhole.on_drive, ?_, hwhole.not_refused⟩
      intro lba length hmem
      exact ⟨f, y, q, rfl, hq, hinside lba length hmem⟩

/-- A line to a drive with as many blocks as can be numbered, and a table whose partition starts
with the last one and claims `2^32 - 1`. -/
def farLine : Line where
  target := some
    { image := Image.zeros 2199023255552
        |>.overlay 446
          (.ofBytes [0, 0, 0, 0, 0x0C, 0, 0, 0, 255, 255, 255, 255, 255, 255, 255, 255])
        |>.overlay 510 (.ofBytes [0x55, 0xAA])
      lastLba := 4294967295 }

/-- The partition is cut off after its first block, which is read twice, by the search and by the
mount.  There is no filesystem in it, and nothing else is read. -/
theorem reads_stay_inside_last_block :
    let d := (Drive.ofPipe farLine).2
    let ops : List Op := [.task (.list "/"), .close]
    Drive.ofPipe farLine = (.ok (), d) ∧ d.blockCount = 4294967296 ∧
    BulkPipe.Distinct d.pipe ∧
    ∃ x, lifetime "stick" true (.ok (ofDrive d)) ops = some x ∧
      x.journal = [.close, .read 4294967295 512, .read 4294967295 512, .read 0 512] ∧
      (∀ lba length, .read lba length ∈ x.journal →
        d.blockSize ∣ length ∧ lba + length / d.blockSize ≤ d.blockCount) ∧
      ∀ e ∈ x.device.log, e ∉ Drive.refusals := by
  intro d ops
  have hinit : Drive.ofPipe farLine = (.ok (), (Drive.ofPipe farLine).2) :=
    IoOn.outcome_of_toOption (by decide +kernel)
  have hpipe : BulkPipe.Distinct (Drive.ofPipe farLine).2.pipe :=
    Line.distinct (List.isEmpty_iff.mp (by decide +kernel))
      (List.isEmpty_iff.mp (by decide +kernel))
  have hjournal : ((lifetime "stick" true (.ok (ofDrive (Drive.ofPipe farLine).2))
      [.task (.list "/"), .close]).map fun x => x.journal) =
      some [.close, .read 4294967295 512, .read 4294967295 512, .read 0 512] := by decide +kernel
  obtain ⟨-, -, -, x, later, hx, -, -, hon, -, hown⟩ :=
    reads_stay_inside hinit "stick" [.task (.list "/"), .close]
  rw [hx] at hjournal
  exact ⟨hinit, by decide +kernel, hpipe, x, hx, Option.some.inj hjournal, hon, hown hpipe⟩

end Session
end

end ThumbDrive

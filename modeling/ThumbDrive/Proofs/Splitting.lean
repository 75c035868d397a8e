import ThumbDrive.Proofs.Transfers

/-! # How a read is split into commands

A command has four bytes for its first block and two for the number of its blocks, and the wrapper
around it has four for the number of bytes.  What is asked of a drive may be more than fits in
either, so a read is split (`cut`).  Blocks of one byte are too many for one command before they
are too many bytes, and a block of more than 64 KiB is a command by itself.

A split is judged by what a target finds in the packets: the blocks that they name, one after the
other, are the blocks of the read, each once and in order (`named_cut`).  So no number was cut off
on its way into a packet.  All packets of a split are sent if none of them fails, and `Passes` says
of a pipe that none does. -/
namespace ThumbDrive

/-- A command for blocks of a device with `total` blocks of the given size, which asks for as many
bytes as these blocks have. -/
structure CommandWrapper.InRange (w : CommandWrapper) (size total : Nat) : Prop where
  plain : w.Plain
  blocks : ∃ lba count, w.blocks? = some (lba, count) ∧ lba + count ≤ total ∧
    w.transferLength.toNat = count * size

/-- The first block and the number of blocks that the packet of an exchange asks for. -/
def Exchange.blocks? (x : Exchange) : Option (Nat × Nat) :=
  (CommandWrapper.decode? x.packet).bind CommandWrapper.blocks?

/-- An exchange for blocks of the given size: at least one of them and no more than two bytes can
count, with as many bytes in the wrapper, asked for and received as these blocks have.  These are at
most 64 KiB, or one block. -/
structure Exchange.Measured (x : Exchange) (size : Nat) : Prop where
  blocks : ∃ w lba count, CommandWrapper.decode? x.packet = some w ∧ w.blocks? = some (lba, count) ∧
    1 ≤ count ∧ count ≤ 65535 ∧ w.transferLength.toNat = count * size ∧ x.asked = count * size ∧
    x.data.length = count * size
  bounded : x.asked ≤ max 65536 size

variable {π : Type} [BulkPipe π]

/-- **A pipe that passes every command** for blocks of the device: nothing fails on the way, and
what comes in is all the data, and a status of this command that says so. -/
def BulkPipe.Passes (size total : Nat) (Sound : π → Prop) : Prop :=
  ∀ {p b w}, Sound p → CommandWrapper.decode? b = some w → w.InRange size total →
    IoOn.Ends (Drive.exchange b w.transferLength.toNat) p
      (fun x p' => Sound p' ∧ x.1.length = w.transferLength.toNat ∧
        ∃ residue, x.2 = StatusWrapper.encode ⟨w.tag, residue, .passed⟩)
      fun _ _ => False

namespace Drive

/-! ## The blocks of a split -/

/-- The blocks that some commands name, one after the other. -/
def named (commands : List (Nat × Nat)) : List Nat :=
  commands.flatMap fun c => List.range' c.1 c.2

/-- **A split names every block once and in order.** -/
theorem named_cut {most : Nat} (hmost : 0 < most) (lba count : Nat) :
    named (cut most lba count) = List.range' lba count := by
  fun_induction cut most lba count with
  | case1 lba count hdone =>
    obtain rfl : count = 0 := by omega
    rfl
  | case2 lba count hmore ih =>
    show List.range' lba (min most count) ++ named _ = _
    rw [ih, List.range'_append_1]
    congr 1
    omega

/-- A command of 64 KiB or of one block. -/
theorem mul_le_of_commandBlocks {size count : Nat} (hcount : count ≤ commandBlocks size) :
    count * size ≤ max 65536 size := by
  unfold commandBlocks transferLimit at hcount
  by_cases hone : count ≤ 1
  · have hle := Nat.mul_le_mul_right size hone
    omega
  · have hfull : 65536 / size * size ≤ 65536 := Nat.div_mul_le_self 65536 size
    have hle := Nat.mul_le_mul_right size (show count ≤ 65536 / size by omega)
    omega

/-! ## Reading along a split -/

variable {tape : π → List Transfer} {Sound : π → Prop} {size total : Nat}

/-- An open drive with blocks of the given size, on a pipe that passes commands. -/
structure Served (size : Nat) (Sound : π → Prop) (d : Drive π) : Prop where
  isOpen : d.isOpen = true
  blockSize : d.blockSize = size
  sound : Sound d.pipe

/-- One command of a split is sent as it is meant, and passes. -/
theorem measured_readOnce (hp : Tape tape) (hq : BulkPipe.Passes size total Sound)
    (hsmall : size < 4294967296) (htotal : total ≤ 4294967296) {d : Drive π}
    (hd : Served size Sound d) {lba count : Nat} (hone : 1 ≤ count)
    (hcount : count ≤ commandBlocks size) (hin : lba + count ≤ total) :
    IoOn.Ends (readOnce lba count) d
      (fun b d' => Served size Sound d' ∧ ∃ x : Exchange,
        tape d'.pipe = tape d.pipe ++ x.transfers ∧ x.data = b ∧ x.blocks? = some (lba, count) ∧
        x.Measured size)
      fun _ _ => False := by
  have hfew : count < 65536 := by
    unfold commandBlocks at hcount
    omega
  have hbounded := mul_le_of_commandBlocks hcount
  have hlen : count * size < 4294967296 := by omega
  -- the command as a target reads it
  have hblocks : (d.wrapper (readCommand lba count) (count * size)).blocks? = some (lba, count) :=
    blocks?_readCommand (by omega) hfew rfl
  have hdecode : CommandWrapper.decode? (d.wrapper (readCommand lba count) (count * size)).encode =
      some (d.wrapper (readCommand lba count) (count * size)) :=
    decode?_wrapper (readCommand_ne_nil lba count) (length_readCommand_le lba count)
  have htransfer : (d.wrapper (readCommand lba count) (count * size)).transferLength.toNat =
      count * size := transferLength_wrapper hlen
  have hexchange := hq hd.sound hdecode
    ⟨plain_wrapper hlen, lba, count, hblocks, hin, htransfer⟩
  rw [htransfer] at hexchange
  apply ends_readOnce
  rw [hd.blockSize]
  apply ends_command hd.isOpen
  refine ((ends_exchange hp d.pipe _ _).and hexchange).mono ?_ fun _ _ h => h.2
  rintro ⟨data, answer⟩ p ⟨⟨htape, -⟩, hsound, hfull, residue, hstatus⟩
  dsimp only at htape hfull hstatus ⊢
  have hverdict : verdict (readCommand lba count) d.nextTag answer = .ok true :=
    verdict_eq_ok_iff.mpr ⟨residue, .passed, hstatus, nofun, rfl⟩
  constructor
  · intro passed hpassed
    obtain rfl : true = passed := Except.ok.inj (hverdict.symm.trans hpassed)
    refine ⟨fun _ => ⟨⟨hd.isOpen, hd.blockSize, hsound⟩, _, htape, rfl, ?_, ?_, hbounded⟩,
      fun hbad => absurd ⟨rfl, hfull⟩ hbad⟩
    · unfold Exchange.blocks?
      rw [hdecode]
      exact hblocks
    · exact ⟨_, lba, count, hdecode, hblocks, hone, by omega, htransfer, rfl, hfull⟩
  · intro e he
    cases hverdict.symm.trans he

/-- **All commands of a split are sent**, if the pipe passes them. -/
theorem measured_readAlong (hp : Tape tape) (hq : BulkPipe.Passes size total Sound)
    (hsmall : size < 4294967296) (htotal : total ≤ 4294967296) {d : Drive π}
    (hd : Served size Sound d) {lba count : Nat} (hin : lba + count ≤ total) :
    IoOn.Ends (readAlong (cut (commandBlocks size) lba count)) d
      (fun b d' => ∃ xs : List Exchange,
        tape d'.pipe = tape d.pipe ++ xs.flatMap Exchange.transfers ∧
        b = xs.flatMap Exchange.data ∧
        xs.filterMap Exchange.blocks? = cut (commandBlocks size) lba count ∧
        ∀ x ∈ xs, x.Measured size)
      fun _ _ => False := by
  have hmost : 0 < commandBlocks size := by
    unfold commandBlocks
    omega
  fun_induction cut (commandBlocks size) lba count generalizing d with
  | case1 lba count hdone => exact ⟨[], by simp, rfl, rfl, by simp⟩
  | case2 lba count hmore ih =>
    rw [readAlong, if_neg (by omega)]
    have hfirst : lba + min (commandBlocks size) count ≤ total := by omega
    refine ((measured_readOnce hp hq hsmall htotal hd (by omega) (Nat.min_le_left _ count)
      hfirst).mono ?_ fun _ _ h => h).bind
    rintro b d₁ ⟨hd₁, x, htape, hdata, hblocks, hx⟩
    refine ((ih hd₁ (by omega)).mono ?_ fun _ _ h => h).bind
    rintro rest d₂ ⟨xs, htapes, hrest, hnamed, hxs⟩
    refine ⟨x :: xs, ?_, ?_, ?_, ?_⟩
    · rw [htapes, htape, List.flatMap_cons, List.append_assoc]
    · rw [List.flatMap_cons, hdata, hrest]
    · rw [List.filterMap_cons_some hblocks, hnamed]
    · intro y hy
      rcases List.mem_cons.mp hy with rfl | hy
      · exact hx
      · exact hxs y hy

/-- **A read is split without loss.**  On any pipe that passes every command, a read of blocks that
are there returns.  It has made exchanges only, whose data is what it returns.  The blocks that
their packets name, one after the other, are the blocks of the read, each once and in order; and
every packet says in its own numbers, of two and of four bytes, what was meant. -/
theorem splits_into_measured_exchanges (hp : Tape tape) {d : Drive π} (hopen : d.isOpen = true)
    (hpos : 0 < d.blockSize) (hsmall : d.blockSize < 4294967296)
    (hcountable : d.blockCount ≤ 4294967296)
    (hq : BulkPipe.Passes d.blockSize d.blockCount Sound) (hsound : Sound d.pipe) {lba n : Nat}
    (hin : lba + n ≤ d.blockCount) :
    ∃ data d', ∃ xs : List Exchange, readBlocks lba (n * d.blockSize) d = .ok data d' ∧
      tape d'.pipe = tape d.pipe ++ xs.flatMap Exchange.transfers ∧
      data = xs.flatMap Exchange.data ∧
      named (xs.filterMap Exchange.blocks?) = List.range' lba n ∧
      ∀ x ∈ xs, x.Measured d.blockSize := by
  have hdiv : n * d.blockSize / d.blockSize = n := Nat.mul_div_cancel n hpos
  obtain ⟨data, d', hread, xs, htape, hdata, hblocks, hxs⟩ :=
    (measured_readAlong hp hq hsmall hcountable ⟨hopen, rfl, hsound⟩ hin).exists_ok
  refine ⟨data, d', xs, ?_, htape, hdata, ?_, hxs⟩
  · rw [readBlocks_eq, if_neg (by simp), hdiv, if_neg (by omega)]
    exact hread
  · rw [hblocks]
    exact named_cut (commandBlocks_bounds hpos hsmall).1 lba n

end Drive

/-! ## Pipes that pass every command -/

/-- A pipe that tells its transfers still answers in order. -/
theorem Taped.fifo {Faults : Prop} {Answers : CommandWrapper → Bytes → CommandStatus → Prop}
    {Sound : π → Prop} {queue sent : π → List Bytes} (hf : Fifo Faults Answers Sound queue sent) :
    Fifo Faults Answers (fun x : Taped π => Sound x.pipe) (fun x => queue x.pipe)
      fun x => sent x.pipe where
  fits := hf.fits
  orderly := hf.orderly
  sends hs hw hplain := ends_pipe (hf.sends hs hw hplain)
  receives hs := ends_pipe (hf.receives hs)

/-- A conforming target passes every command for blocks that it has. -/
theorem Fifo.passes {k : Disk} {Sound : π → Prop} {queue sent : π → List Bytes}
    (hf : Fifo False k.Conforms Sound queue sent) :
    BulkPipe.Passes k.blockSize (BlockDevice.blockCount k) fun p : π => Sound p ∧ queue p = [] := by
  rintro p b w ⟨hs, hempty⟩ hw ⟨hplain, lba, count, hblocks, hin, hlen⟩
  refine (Drive.exchange_idle hf hs hempty hw hplain rfl).mono ?_ fun _ _ h => h
  rintro ⟨data, answer⟩ p' ⟨hs', hstatus⟩
  obtain ⟨hempty', residue, status, hanswer, hconforms⟩ := hstatus.resolve_right And.left
  obtain ⟨rfl, hdata⟩ := hconforms.blocks hblocks hin hlen
  refine ⟨⟨hs', hempty'⟩, ?_, residue, hanswer⟩
  rw [hdata, hlen, Image.length_slice]

namespace Drive

/-- A drive on a line to a disk, the transfers of which are written down. -/
def tapedOddDisk : Drive (Taped Line) where
  pipe := { pipe := Line.serving oddDisk 0 }
  blockSize := 3
  blockCount := 4294967296

/-- The last 21846 of as many blocks as can be numbered are more than one command can bring. -/
theorem splits_last_blocks :
    ∃ data d', ∃ xs : List Exchange, readBlocks 4294945450 65538 tapedOddDisk = .ok data d' ∧
      d'.pipe.tape = xs.flatMap Exchange.transfers ∧ data = xs.flatMap Exchange.data ∧
      named (xs.filterMap Exchange.blocks?) = List.range' 4294945450 21846 ∧
      ∀ x ∈ xs, x.Measured 3 := by
  have hin : 4294945450 + 21846 ≤ tapedOddDisk.blockCount := by decide
  exact splits_into_measured_exchanges Taped.tape_tells (d := tapedOddDisk) rfl (by decide)
    (by decide) (by decide) (Taped.fifo (Line.fifo_conforms oddDisk)).passes
    ⟨Line.connects_serving addressable_oddDisk 0, rfl⟩ hin

end Drive
end ThumbDrive

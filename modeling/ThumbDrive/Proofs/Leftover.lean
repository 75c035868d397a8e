import ThumbDrive.Proofs.Drive

/-! # Answers left over from failed commands

A transfer that fails leaves the host and the target out of step: the answer to the failed command
stays in the queue, and there is no reset.  The next command finds it in front of its own answer.
What it takes for its data is then wrong, and only what it takes for its status can tell.

`Leftover` says what can be in the queue: data from the disk, statuses of past commands, and pieces
of packets that are too short for a status.  A status of a past command has another tag, as long as
the tags have not come round.  So a command that succeeds with leftovers in front of it has taken
*data from the disk* for its status (`exchange_stale`): thirteen bytes of the disk spell a status
that says that this very command has passed.

That can happen (`wrong_blocks_delivered`).  It is the only way to deliver wrong blocks
(`delivered_or_forged`). -/
namespace ThumbDrive

/-- The bytes stand somewhere in the image. -/
def Image.Spells (m : Image) (b : Bytes) : Prop :=
  ∃ start, start + b.length ≤ m.size ∧ m.slice start b.length = b

theorem Image.drop_slice (m : Image) (start n count : Nat) :
    (m.slice start n).drop count = m.slice (start + count) (n - count) := by
  apply List.ext_getElem
  · simp
  · intro i _ _
    simp [slice, Nat.add_assoc]

/-! ## Tags -/

/-- The tag is one of the first `n` from `first` on. -/
def PastTag (first : UInt32) (n : Nat) (tag : UInt32) : Prop :=
  ∃ i < n, tag = first + UInt32.ofNat i

/-- The next tag is new as long as the tags have not come round. -/
theorem not_pastTag {first : UInt32} {n : Nat} (hn : n < 4294967296) :
    ¬ PastTag first n (first + UInt32.ofNat n) := by
  rintro ⟨i, hi, heq⟩
  have hsame : UInt32.ofNat n = UInt32.ofNat i := by
    rwa [UInt32.add_right_inj] at heq
  have hnat := congrArg UInt32.toNat hsame
  rw [UInt32.toNat_ofNat', UInt32.toNat_ofNat'] at hnat
  omega

/-! ## What can be left in a queue -/

/-- A packet that was not queued for the current command: data from the image, a status of a past
command, or a piece of a packet that is too short for a status. -/
inductive Leftover (m : Image) (Past : UInt32 → Prop) : Bytes → Prop where
  | data (start n : Nat) (h : 0 < n → start + n ≤ m.size) : Leftover m Past (m.slice start n)
  | status (w : StatusWrapper) (h : Past w.tag) : Leftover m Past w.encode
  | scrap {b : Bytes} (h : b.length < StatusWrapper.size) : Leftover m Past b

namespace Leftover
variable {m : Image} {Past Past' : UInt32 → Prop} {b : Bytes}

theorem mono (hpast : ∀ t, Past t → Past' t) (h : Leftover m Past b) : Leftover m Past' b := by
  cases h with
  | data start n h => exact .data start n h
  | status w h => exact .status w (hpast _ h)
  | scrap h => exact .scrap h

/-- What is left of a leftover is one. -/
theorem drop (h : Leftover m Past b) (n : Nat) : Leftover m Past (b.drop n) := by
  cases h with
  | data start count h =>
    rw [Image.drop_slice]
    refine .data _ _ fun hpos => ?_
    have := h (by omega)
    omega
  | status w h =>
    cases n with
    | zero => exact .status w h
    | succ n =>
      refine .scrap ?_
      rw [List.length_drop, StatusWrapper.length_encode]
      exact Nat.sub_lt (by decide) (Nat.succ_pos n)
  | scrap h =>
    refine .scrap ?_
    rw [List.length_drop]
    omega

/-- **A leftover that is taken for a status of a new command is data from the disk.** -/
theorem spells (h : Leftover m Past b) {w : StatusWrapper} (hnew : ¬ Past w.tag)
    (hw : b.take StatusWrapper.size = w.encode) : m.Spells w.encode := by
  have hlen : StatusWrapper.size ≤ b.length := by
    have hlength := congrArg List.length hw
    rw [List.length_take, StatusWrapper.length_encode] at hlength
    omega
  cases h with
  | data start n h =>
    rw [Image.length_slice] at hlen
    rw [Image.take_slice, Nat.min_eq_left hlen] at hw
    refine ⟨start, ?_, ?_⟩
    · have := h (Nat.lt_of_lt_of_le (by decide) hlen)
      rw [StatusWrapper.length_encode]
      omega
    · rw [StatusWrapper.length_encode]
      exact hw
  | status w' h =>
    rw [List.take_of_length_le (Nat.le_of_eq w'.length_encode)] at hw
    rw [StatusWrapper.encode_inj.mp hw] at h
    exact absurd h hnew
  | scrap h => omega

end Leftover

/-- Receiving takes a part of the first packet, and nothing new gets into the queue. -/
theorem receive?_stale {P : Bytes → Prop} (hdrop : ∀ {b}, P b → ∀ n, P (b.drop n)) {n : Nat}
    {stale fresh queue : List Bytes} {b : Bytes} (hstale : ∀ x ∈ stale, P x) (hne : stale ≠ [])
    (h : receive? n (stale ++ fresh) = some (b, queue)) :
    (∃ x, P x ∧ b = x.take n) ∧
      ∃ stale', queue = stale' ++ fresh ∧ (∀ x ∈ stale', P x) ∧
        stale.length ≤ stale'.length + 1 := by
  cases stale with
  | nil => exact absurd rfl hne
  | cons packet stale =>
    have hpacket : P packet := hstale packet List.mem_cons_self
    have hrest : ∀ x ∈ stale, P x := fun x hx => hstale x (List.mem_cons_of_mem _ hx)
    simp only [List.cons_append, receive?, Option.some.injEq, Prod.mk.injEq] at h
    obtain ⟨rfl, hqueue⟩ := h
    refine ⟨⟨packet, hpacket, rfl⟩, ?_⟩
    split at hqueue
    · exact ⟨stale, hqueue.symm, hrest, Nat.le_refl _⟩
    · refine ⟨packet.drop n :: stale, hqueue.symm, ?_, Nat.le_succ _⟩
      intro x hx
      rcases List.mem_cons.mp hx with rfl | hx
      · exact hdrop hpacket n
      · exact hrest x hx

/-- What holds of all packets in a queue holds of them after some were received. -/
theorem receive?_keeps {P : Bytes → Prop} (hdrop : ∀ {b}, P b → ∀ n, P (b.drop n)) {n : Nat}
    {queue queue' : List Bytes} {b : Bytes} (hqueue : ∀ x ∈ queue, P x)
    (h : receive? n queue = some (b, queue')) : ∀ x ∈ queue', P x := by
  have hne : queue ≠ [] := by
    rintro rfl
    cases h
  rw [← List.append_nil queue] at h
  obtain ⟨-, stale', rfl, hstale', -⟩ := receive?_stale hdrop hqueue hne h
  rwa [List.append_nil]

namespace Drive
variable {π : Type} [BulkPipe π] {k : Disk} {Faults : Prop} {Sound : π → Prop}
  {queue sent : π → List Bytes}

/-! ## Commands out of step -/

/-- **The transfers of a read with leftovers in front of it.**  Whatever becomes of them, leftovers
are all that is in the queue afterwards.  If there were any before, what came in for a status is
the beginning of a leftover, or says that the read has failed. -/
theorem exchange_stale (hf : Fifo Faults k.Serves Sound queue sent) {p : π} {b : Bytes}
    {w : CommandWrapper} {length lba count : Nat} (hs : Sound p)
    (hw : CommandWrapper.decode? b = some w) (hplain : w.Plain)
    (hlen : w.transferLength.toNat = length) (hpos : 0 < length)
    (hblocks : w.blocks? = some (lba, count)) {Past : UInt32 → Prop}
    (hq : ∀ x ∈ queue p, Leftover k.image Past x) :
    let Left (p' : π) : Prop := Sound p' ∧ sent p' = b :: sent p ∧
      ∀ x ∈ queue p', Leftover k.image (fun t => Past t ∨ t = w.tag) x
    IoOn.Ends (exchange b length) p
      (fun x p' => Left p' ∧ (queue p ≠ [] →
        (∃ y, Leftover k.image Past y ∧ x.2 = y.take StatusWrapper.size) ∨
        ∃ residue status, x.2 = StatusWrapper.encode ⟨w.tag, residue, status⟩ ∧
          status ≠ .passed))
      (fun _ p' => Left p') := by
  intro Left
  have hwiden : ∀ {x}, Leftover k.image Past x →
      Leftover k.image (fun t => Past t ∨ t = w.tag) x := fun h => h.mono fun _ => .inl
  refine ((hf.sends hs hw hplain).mono ?_ ?_).bind
  · rintro - p₁ ⟨hs₁, hsent₁, data, residue, status, packets, hanswer, hqueues, hq₁⟩
    -- the answer to this command comes after the leftovers, its data being one more of them
    have hdata : Leftover k.image Past data := by
      obtain ⟨hslice, hin⟩ := hanswer.blocks hblocks
      rw [hslice]
      exact .data _ _ hin
    have hasks : w.transferLength ≠ 0 := by
      intro hzero
      rw [hzero] at hlen
      exact absurd hlen (Nat.ne_of_lt hpos)
    obtain ⟨more, rfl, hmore, hnone⟩ := hqueues.eq_append hasks
    rw [← List.append_assoc] at hq₁
    have hstale : ∀ x ∈ queue p ++ more, Leftover k.image Past x := by
      intro x hx
      rcases List.mem_append.mp hx with hx | hx
      · exact hq x hx
      · exact hmore x hx ▸ hdata
    have hleft₁ : ∀ x ∈ queue p₁, Leftover k.image (fun t => Past t ∨ t = w.tag) x := by
      intro x hx
      rw [hq₁] at hx
      rcases List.mem_append.mp hx with hx | hx
      · exact hwiden (hstale x hx)
      · exact List.mem_singleton.mp hx ▸ .status _ (.inr rfl)
    have htake : takeData length = (BulkPipe.bulkIn length : IoOn π Bytes) :=
      if_neg (Nat.ne_of_gt hpos)
    rw [htake]
    refine ((hf.receives hs₁).mono ?_ ?_).bind
    · rintro got p₂ ⟨hs₂, hsent₂, hreceive₂⟩
      have hleft₂ := receive?_keeps Leftover.drop hleft₁ hreceive₂
      refine ((hf.receives hs₂).mono ?_ ?_).bind
      · rintro s p₃ ⟨hs₃, hsent₃, hreceive₃⟩
        have hleft₃ := receive?_keeps Leftover.drop hleft₂ hreceive₃
        refine ⟨⟨hs₃, hsent₃.trans (hsent₂.trans hsent₁), hleft₃⟩, fun hne => ?_⟩
        -- each reception takes one packet at most of those in front of the status
        rw [hq₁] at hreceive₂
        obtain ⟨-, stale, hq₂, hstale₂, hmany⟩ :=
          receive?_stale Leftover.drop hstale (List.append_ne_nil_of_left_ne_nil hne _) hreceive₂
        rw [hq₂] at hreceive₃
        by_cases hlast : stale = []
        · -- there was one leftover, and no data
          have hfew : more = [] := by
            have hfirst := List.length_pos_iff.mpr hne
            rw [hlast, List.length_append, List.length_nil] at hmany
            exact List.length_eq_zero_iff.mp (by omega)
          rw [hlast, List.nil_append, receive?_whole (by simp)] at hreceive₃
          obtain ⟨hstatus, -⟩ := Prod.mk.inj (Option.some.inj hreceive₃)
          exact .inr ⟨residue, status, hstatus.symm, hnone hfew⟩
        · exact .inl (receive?_stale Leftover.drop hstale₂ hlast hreceive₃).1
      · rintro e p₃ ⟨-, hs₃, hsent₃, hq₃⟩
        exact ⟨hs₃, hsent₃.trans (hsent₂.trans hsent₁), hq₃ ▸ hleft₂⟩
    · rintro e p₂ ⟨-, hs₂, hsent₂, hq₂⟩
      exact ⟨hs₂, hsent₂.trans hsent₁, hq₂ ▸ hleft₁⟩
  · rintro e p₁ ⟨-, hs₁, hsent₁, hq₁⟩
    refine ⟨hs₁, hsent₁, fun x hx => hwiden (hq x ?_)⟩
    rwa [← hq₁]

/-- **A drive `n` commands after it was in the state `start`.**  Its tag has moved on as often, and
all that is in the queue is left over from these commands. -/
structure Trail (k : Disk) (Sound : π → Prop) (queue sent : π → List Bytes) (start : Drive π)
    (n : Nat) (d : Drive π) : Prop where
  isOpen : d.isOpen = true
  sound : Sound d.pipe
  blockSize : d.blockSize = k.blockSize
  nextTag : d.nextTag = start.nextTag + UInt32.ofNat n
  sent : (sent d.pipe).length = (sent start.pipe).length + n
  leftover : ∀ x ∈ queue d.pipe, Leftover k.image (PastTag start.nextTag n) x

omit [BulkPipe π] in
theorem Trail.after {start d : Drive π} {n : Nat} (h : Trail k Sound queue sent start n d) {p : π}
    {b : Bytes} (hs : Sound p) (hsent : sent p = b :: sent d.pipe)
    (hq : ∀ x ∈ queue p,
      Leftover k.image (fun t => PastTag start.nextTag n t ∨ t = d.nextTag) x) :
    Trail k Sound queue sent start (n + 1) (d.after p) where
  isOpen := h.isOpen
  sound := hs
  blockSize := h.blockSize
  nextTag := by
    show d.nextTag + 1 = start.nextTag + UInt32.ofNat (n + 1)
    rw [h.nextTag, UInt32.ofNat_add, UInt32.add_assoc]
    rfl
  sent := by
    show (sent p).length = _
    rw [hsent, List.length_cons, h.sent, Nat.add_assoc]
  leftover := by
    intro x hx
    refine (hq x hx).mono ?_
    rintro t (⟨i, hi, rfl⟩ | rfl)
    · exact ⟨i, Nat.lt_succ_of_lt hi, rfl⟩
    · exact ⟨n, Nat.lt_succ_self n, h.nextTag⟩

/-- The disk spells a status which says that one of the commands in `packets` has passed. -/
def Forged (m : Image) (packets : List Bytes) : Prop :=
  ∃ (w : CommandWrapper) (residue : UInt32), w.encode ∈ packets ∧
    m.Spells (StatusWrapper.encode ⟨w.tag, residue, .passed⟩)

theorem Forged.mono {m : Image} {packets packets' : List Bytes} (h : Forged m packets)
    (hsub : packets ⊆ packets') : Forged m packets' := by
  obtain ⟨w, residue, hw, hspells⟩ := h
  exact ⟨w, residue, hsub hw, hspells⟩

/-- One command.  It delivers its blocks, or there were leftovers and the disk has forged its
status, if the tags have not come round.  A drive that was in step is in step afterwards. -/
theorem trail_readOnce (hf : Fifo Faults k.Serves Sound queue sent) {start d : Drive π} {n : Nat}
    (hd : Trail k Sound queue sent start n d) {lba count : Nat} (hlba : lba < 4294967296)
    (hcount : count < 65536) (hpos : 0 < count * k.blockSize)
    (hlen : count * k.blockSize < 4294967296) :
    IoOn.Ends (readOnce lba count) d
      (fun b d' => Trail k Sound queue sent start (n + 1) d' ∧
        ∃ packet, sent d'.pipe = packet :: sent d.pipe ∧
          (queue d.pipe = [] → queue d'.pipe = []) ∧
          (b = k.image.slice (lba * k.blockSize) (count * k.blockSize) ∨
            queue d.pipe ≠ [] ∧ (n < 4294967296 → Forged k.image [packet])))
      (fun _ d' => Trail k Sound queue sent start (n + 1) d') := by
  have hdecode : CommandWrapper.decode?
      (d.wrapper (readCommand lba count) (count * k.blockSize)).encode = some _ :=
    decode?_wrapper (readCommand_ne_nil lba count) (length_readCommand_le lba count)
  have hblocks := blocks?_readCommand hlba hcount
    (w := d.wrapper (readCommand lba count) (count * k.blockSize)) rfl
  have hstale := exchange_stale hf hd.sound hdecode (plain_wrapper hlen)
    (transferLength_wrapper hlen) hpos hblocks hd.leftover
  apply ends_readOnce
  rw [hd.blockSize]
  apply ends_command hd.isOpen
  by_cases hidle : queue d.pipe = []
  · have hstep := exchange_idle hf hd.sound hidle hdecode (plain_wrapper hlen)
      (transferLength_wrapper hlen)
    refine (hstep.and hstale).mono ?_ fun e p h => hd.after h.2.1 h.2.2.1 h.2.2.2
    rintro ⟨data, s⟩ p ⟨⟨-, hstatus⟩, ⟨hs, hsent, hleft⟩, -⟩
    have htrail := hd.after hs hsent hleft
    refine ⟨fun passed hpassed => ⟨?_, fun _ _ => htrail⟩, fun _ _ => htrail⟩
    rintro ⟨-, hfull⟩
    obtain ⟨hq, residue, status, -, hanswer⟩ :=
      hstatus.resolve_right fun h => absurd hpassed (verdict_ne_ok h.2)
    refine ⟨htrail, _, hsent, fun _ => hq, .inl ?_⟩
    obtain ⟨hslice, -⟩ := hanswer.blocks hblocks
    dsimp only at hslice hfull ⊢
    rw [hfull] at hslice
    exact hslice
  · refine hstale.mono ?_ fun e p h => hd.after h.1 h.2.1 h.2.2
    rintro ⟨data, s⟩ p ⟨⟨hs, hsent, hleft⟩, hforeign⟩
    have htrail := hd.after hs hsent hleft
    refine ⟨fun passed hpassed => ⟨?_, fun _ _ => htrail⟩, fun _ _ => htrail⟩
    rintro ⟨hpass, -⟩
    refine ⟨htrail, _, hsent, fun h => absurd h hidle, .inr ⟨hidle, fun hn => ?_⟩⟩
    obtain ⟨residue, status, hs, -, rfl⟩ := verdict_eq_ok_iff.mp hpassed
    obtain rfl : status = .passed := beq_iff_eq.mp hpass
    rcases hforeign hidle with ⟨y, hy, hsy⟩ | ⟨residue', status', hs', hfailed⟩
    · refine ⟨_, residue, List.mem_singleton.mpr rfl, hy.spells ?_ (hsy.symm.trans hs)⟩
      show ¬ PastTag start.nextTag n d.nextTag
      rw [hd.nextTag]
      exact not_pastTag hn
    · cases StatusWrapper.encode_inj.mp (hs.symm.trans hs')
      exact absurd rfl hfailed

/-! ## Reads out of step -/

/-- A drive in the middle of a read that has begun in the state `before`.  As long as the commands
of the read succeed, a drive that was in step stays so. -/
def Underway (k : Disk) (Sound : π → Prop) (queue sent : π → List Bytes)
    (start before d : Drive π) : Prop :=
  (queue before.pipe = [] → queue d.pipe = []) ∧
    ∃ n new, Trail k Sound queue sent start n d ∧ sent d.pipe = new ++ sent before.pipe

/-- A read that has begun in the state `before` was misled: there were leftovers then, and the disk
has forged a status of one of its commands, if the tags have not come round since `start`. -/
def Misled (k : Disk) (queue sent : π → List Bytes) (start before d : Drive π) : Prop :=
  queue before.pipe ≠ [] ∧ ∃ new, sent d.pipe = new ++ sent before.pipe ∧
    ((sent d.pipe).length ≤ (sent start.pipe).length + 4294967296 → Forged k.image new)

omit [BulkPipe π] in
theorem Misled.later {start before d d' : Drive π} {packet : Bytes}
    (h : Misled k queue sent start before d) (hsent : sent d'.pipe = packet :: sent d.pipe) :
    Misled k queue sent start before d' := by
  obtain ⟨hqueue, new, hnew, hforged⟩ := h
  refine ⟨hqueue, packet :: new, ?_, ?_⟩
  · rw [hsent, hnew, List.cons_append]
  · intro hfew
    rw [hsent, List.length_cons] at hfew
    exact (hforged (by omega)).mono (List.subset_cons_self packet new)

/-- A command in the middle of a read. -/
theorem underway_readOnce (hf : Fifo Faults k.Serves Sound queue sent)
    {start before d : Drive π} (hd : Underway k Sound queue sent start before d) {lba count : Nat}
    (hlba : lba < 4294967296) (hcount : count < 65536) (hpos : 0 < count * k.blockSize)
    (hlen : count * k.blockSize < 4294967296) :
    IoOn.Ends (readOnce lba count) d
      (fun b d' => Underway k Sound queue sent start before d' ∧
        (Misled k queue sent start before d → Misled k queue sent start before d') ∧
        (b = k.image.slice (lba * k.blockSize) (count * k.blockSize) ∨
          Misled k queue sent start before d'))
      (fun _ d' => ∃ n, Trail k Sound queue sent start n d') := by
  obtain ⟨hstep, n, new, htrail, hnew⟩ := hd
  refine (trail_readOnce hf htrail hlba hcount hpos hlen).mono ?_ fun _ _ h => ⟨n + 1, h⟩
  rintro b d' ⟨htrail', packet, hsent, hqueue, hb⟩
  have hnew' : sent d'.pipe = (packet :: new) ++ sent before.pipe := by
    rw [hsent, hnew, List.cons_append]
  refine ⟨⟨fun h => hqueue (hstep h), n + 1, packet :: new, htrail', hnew'⟩,
    fun h => h.later hsent, hb.imp_right ?_⟩
  rintro ⟨hne, hforged⟩
  refine ⟨mt hstep hne, packet :: new, hnew', fun hfew => ?_⟩
  have hcommands := htrail'.sent
  refine (hforged (by omega)).mono ?_
  exact List.cons_subset_cons packet (List.nil_subset new)

/-- A read brings what it was asked for, or it was misled.  If it fails, its commands and the
earlier ones may have left something over. -/
theorem underway_readBlocks (hf : Fifo Faults k.Serves Sound queue sent) (hsize : 0 < k.blockSize)
    (hsmall : k.blockSize < 4294967296) {start d : Drive π} {n : Nat}
    (hd : Trail k Sound queue sent start n d) (lba length : Nat) :
    IoOn.Ends (readBlocks lba length) d
      (fun b d' => Underway k Sound queue sent start d d' ∧
        (b = k.image.slice (lba * k.blockSize) length ∨ Misled k queue sent start d d'))
      (fun _ d' => ∃ n, Trail k Sound queue sent start n d') := by
  obtain ⟨hmost, hfew, hbytes⟩ := commandBlocks_bounds hsize hsmall
  have hread : IoOn.Ends
      (readAlong (cut (commandBlocks k.blockSize) lba (length / k.blockSize))) d
      (fun b d' => Underway k Sound queue sent start d d' ∧
        (Misled k queue sent start d d → Misled k queue sent start d d') ∧
        (b = k.image.slice (lba * k.blockSize) (length / k.blockSize * k.blockSize) ∨
          Misled k queue sent start d d'))
      (fun _ d' => ∃ n, Trail k Sound queue sent start n d') := by
    refine ends_readAlong (Misled k queue sent start d) hmost ?_ ?_ ⟨id, n, [], hd, rfl⟩
      (Nat.le_refl _)
    · rintro d₁ lba e ⟨-, n₁, -, htrail, -⟩ - -
      exact ⟨n₁, htrail⟩
    · intro d₁ lba count hd₁ hpos hcount _ hlba
      exact underway_readOnce hf hd₁ hlba (by omega) (Nat.mul_pos hpos hsize) (hbytes count hcount)
  unfold IoOn.Ends
  rw [readBlocks_eq, hd.blockSize]
  by_cases hwhole : length % k.blockSize ≠ 0
  · rw [if_pos hwhole]
    exact ⟨n, hd⟩
  · rw [if_neg hwhole]
    by_cases hend : d.blockCount < lba + length / k.blockSize
    · rw [if_pos hend]
      exact ⟨n, hd⟩
    · rw [if_neg hend]
      have hlength : length / k.blockSize * k.blockSize = length :=
        Nat.div_mul_cancel (Nat.dvd_of_mod_eq_zero (Decidable.not_not.mp hwhole))
      rw [hlength] at hread
      exact hread.mono (fun b d' h => ⟨h.1, h.2.2⟩) fun _ _ h => h

theorem trail_after (hf : Fifo Faults k.Serves Sound queue sent) (hsize : 0 < k.blockSize)
    (hsmall : k.blockSize < 4294967296) {start : Drive π} (d : Drive π) (lba length : Nat)
    (hd : ∃ n, Trail k Sound queue sent start n d) :
    ∃ n, Trail k Sound queue sent start n (IoOn.outcome (readBlocks lba length) d).2 := by
  obtain ⟨n, hd⟩ := hd
  have hends := underway_readBlocks hf hsize hsmall hd lba length
  cases hr : readBlocks lba length d with
  | ok b d' =>
    obtain ⟨⟨-, n', -, htrail, -⟩, -⟩ := hends.ok hr
    rw [IoOn.outcome_ok hr]
    exact ⟨n', htrail⟩
  | error e d' =>
    rw [IoOn.outcome_error hr]
    exact hends.error hr

/-- A drive that was made usable is at the start of a trail. -/
theorem trail_ofPipe (hf : Fifo Faults k.Serves Sound queue sent) {p : π} (hs : Sound p)
    (hq : queue p = []) {d : Drive π} (h : ofPipe p = (.ok (), d)) :
    0 < k.blockSize ∧ k.blockSize < 4294967296 ∧ Trail k Sound queue sent d 0 d := by
  have hidle : Idle Sound queue ({ pipe := p } : Drive π) := ⟨rfl, hs, hq⟩
  have hends := ends_initDrive hf hidle
  unfold ofPipe at h
  cases hr : initDrive ({ pipe := p } : Drive π) with
  | error e d' =>
    rw [IoOn.outcome_error hr] at h
    cases h
  | ok u d' =>
    rw [IoOn.outcome_ok hr] at h
    cases h
    obtain ⟨hd, data, ⟨w, hasks, -, hanswer⟩, hlen, hzero, hsize, -⟩ := hends.ok hr
    have hsize' : d.blockSize = k.blockSize := hsize.trans (hanswer.capacity hasks hlen)
    have hbound : Bytes.ofBig (data.drop 4) < 4294967296 := by
      have hlt := Bytes.ofBig_lt (data.drop 4)
      rwa [List.length_drop, hlen] at hlt
    refine ⟨Nat.pos_of_ne_zero (hsize' ▸ hzero), hsize'.symm.trans hsize ▸ hbound, ?_⟩
    refine ⟨hd.isOpen, hd.sound, hsize', ?_, rfl, ?_⟩
    · exact (UInt32.add_zero d.nextTag).symm
    · intro x hx
      rw [hd.empty] at hx
      cases hx

/-- **Wrong blocks are delivered only if the disk spells a status.**  Over any pipe that answers in
order, whatever transfers fail, and after any reads, a read that succeeds has brought the blocks it
was asked for.  The only exception: when it began, answers to earlier commands were left over, and
somewhere on the disk stand the thirteen bytes of a status which says that one of the commands of
this read has passed.  Tags come round after 4294967296 commands, and nothing is said of a drive
with more of them. -/
theorem delivered_or_forged (hf : Fifo Faults k.Serves Sound queue sent) {p : π} (hs : Sound p)
    (hq : queue p = []) {d : Drive π} (hinit : ofPipe p = (.ok (), d)) (earlier : List (Nat × Nat))
    {lba length : Nat} {b : Bytes} {d' : Drive π}
    (hread : readBlocks lba length (d.afterReads earlier) = .ok b d')
    (hfew : (sent d'.pipe).length ≤ (sent d.pipe).length + 4294967296) :
    b = k.image.slice (lba * k.blockSize) length ∨
      (queue (d.afterReads earlier).pipe ≠ [] ∧
        ∃ new, sent d'.pipe = new ++ sent (d.afterReads earlier).pipe ∧ Forged k.image new) := by
  obtain ⟨hsize, hsmall, htrail⟩ := trail_ofPipe hf hs hq hinit
  obtain ⟨n, hd⟩ := afterReads_keeps (trail_after hf hsize hsmall) ⟨0, htrail⟩ earlier
  obtain ⟨-, hb⟩ := (underway_readBlocks hf hsize hsmall hd lba length).ok hread
  refine hb.imp_right ?_
  rintro ⟨hne, new, hnew, hforged⟩
  exact ⟨hne, new, hnew, hforged hfew⟩

/-! ## A disk that forges a status -/

/-- Four blocks.  The first is filled with one byte, and the second begins with a status which says
that the command with the tag 5 has passed. -/
def forgingDisk : Disk where
  image.size := 2048
  image.byte i := if i < 512 then 0xAA else (StatusWrapper.encode ⟨5, 0, .passed⟩).getD (i - 512) 0

/-- A pipe to that disk.  The first reception after the drive was made usable fails. -/
def stalledPipe : Faulty Line where
  pipe := .serving forgingDisk 0
  incoming := [none, none, none, none, none, some ⟨.timedOut, "stalled"⟩]

/-- A pipe to that disk.  The first command after the drive was made usable is lost. -/
def lossyPipe : Faulty Line where
  pipe := .serving forgingDisk 0
  outgoing := [none, none, none, some ⟨.brokenPipe, "lost"⟩]

theorem fifo_forgingDisk :
    Fifo True forgingDisk.Serves (fun x : Faulty Line => x.pipe.Connects (Target.Holds forgingDisk))
      (fun x => x.pipe.queue) Faulty.sent :=
  Faulty.fifo (Line.fifo_serves forgingDisk)

theorem connects_forgingDisk :
    (Line.serving forgingDisk 0).Connects (Target.Holds forgingDisk) := by
  have hk : forgingDisk.Addressable := ⟨by decide, by decide, by decide, by decide⟩
  obtain ⟨⟨t, ht, hoffers⟩, hin, hout⟩ := Line.connects_serving hk 0
  exact ⟨⟨t, ht, hoffers.toHolds⟩, hin, hout⟩

/-- **Wrong blocks are delivered.**  The first read fails, because its data cannot be received.  The
second read asks for the third block and succeeds with the bytes of the first one, for the second
one, left over from the first read, spells the status it waits for. -/
theorem wrong_blocks_delivered :
    Fifo True forgingDisk.Serves (fun x : Faulty Line => x.pipe.Connects (Target.Holds forgingDisk))
      (fun x => x.pipe.queue) Faulty.sent ∧
    stalledPipe.pipe.Connects (Target.Holds forgingDisk) ∧ stalledPipe.pipe.queue = [] ∧
    ∃ d b d', ofPipe stalledPipe = (.ok (), d) ∧
      readBlocks 2 512 (d.afterReads [(0, 1024)]) = .ok b d' ∧
      d'.pipe.sent.length = d.pipe.sent.length + 2 ∧
      b = List.replicate 512 0xAA ∧
      forgingDisk.image.slice (2 * forgingDisk.blockSize) 512 = List.replicate 512 0 := by
  have hrun : (ofPipe stalledPipe).1.toOption = some () ∧
      (IoOn.outcome (readBlocks 2 512)
        ((ofPipe stalledPipe).2.afterReads [(0, 1024)])).1.toOption =
          some (List.replicate 512 0xAA) ∧
      (IoOn.outcome (readBlocks 2 512)
        ((ofPipe stalledPipe).2.afterReads [(0, 1024)])).2.pipe.sent.length =
          (ofPipe stalledPipe).2.pipe.sent.length + 2 := by decide +kernel
  obtain ⟨hinit, hread, hsent⟩ := hrun
  exact ⟨fifo_forgingDisk, connects_forgingDisk, rfl, _, _, _,
    IoOn.outcome_of_toOption hinit, IoOn.ok_of_toOption hread, hsent, rfl, by decide +kernel⟩

/-- The command of the first read is lost.  The second read brings the third block. -/
theorem delivered_or_forged_recovered :
    lossyPipe.pipe.Connects (Target.Holds forgingDisk) ∧ lossyPipe.pipe.queue = [] ∧
    ∃ d b d', ofPipe lossyPipe = (.ok (), d) ∧
      (IoOn.outcome (readBlocks 0 1024) d).1.toOption = none ∧
      readBlocks 2 512 (d.afterReads [(0, 1024)]) = .ok b d' ∧
      d'.pipe.sent.length ≤ d.pipe.sent.length + 4294967296 ∧
      b = forgingDisk.image.slice (2 * forgingDisk.blockSize) 512 := by
  have hrun : (ofPipe lossyPipe).1.toOption = some () ∧
      (IoOn.outcome (readBlocks 0 1024) (ofPipe lossyPipe).2).1.toOption = none ∧
      (IoOn.outcome (readBlocks 2 512)
        ((ofPipe lossyPipe).2.afterReads [(0, 1024)])).1.toOption = some (List.replicate 512 0) ∧
      (IoOn.outcome (readBlocks 2 512)
        ((ofPipe lossyPipe).2.afterReads [(0, 1024)])).2.pipe.sent.length ≤
          (ofPipe lossyPipe).2.pipe.sent.length + 4294967296 ∧
      ((ofPipe lossyPipe).2.afterReads [(0, 1024)]).pipe.pipe.queue = [] := by decide +kernel
  obtain ⟨hinit, hlost, hread, hfew, hqueue⟩ := hrun
  have hdelivered := delivered_or_forged fifo_forgingDisk connects_forgingDisk rfl
    (IoOn.outcome_of_toOption hinit) [(0, 1024)] (IoOn.ok_of_toOption hread) hfew
  refine ⟨connects_forgingDisk, rfl, _, _, _, IoOn.outcome_of_toOption hinit, hlost,
    IoOn.ok_of_toOption hread, hfew, ?_⟩
  exact hdelivered.resolve_right fun h => h.1 hqueue

end Drive
end ThumbDrive

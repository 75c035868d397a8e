import ThumbDrive.BulkOnly.Wrapper

/-! # Wrappers as the other side reads them

A command wrapper is written by the host and read by the target, a status wrapper the other way
round.  `CommandWrapper.decode?` is the target's side.  Nothing but the high bits of the unit is
lost on the way (`CommandWrapper.decode?_encode`), so a target knows the tag it has to answer with,
how much it is asked for, and the command.

A string of bytes is read as a status only if it is the very string that is written for it
(`StatusWrapper.decode_eq_ok_iff`).  That is all a host has to tell a status from other bytes. -/
namespace ThumbDrive

namespace CommandWrapper

/-- Bytes in a command wrapper. -/
def size : Nat := 31

/-- The wrapper in a packet, as a target reads it. -/
def decode? (b : Bytes) : Option CommandWrapper :=
  if b.length = size ∧ Bytes.word32 b 0 = signature ∧ 1 ≤ Bytes.byteAt b 14 ∧
      Bytes.byteAt b 14 ≤ commandLimit then
    some
      { tag := UInt32.ofNat (Bytes.word32 b 4)
        transferLength := UInt32.ofNat (Bytes.word32 b 8)
        dataIn := Bytes.byteAt b 12 == 0x80
        lun := b.getD 13 0
        command := Bytes.slice b 15 (Bytes.byteAt b 14) }
  else none

/-- A number of 32 bits written in four bytes is read back. -/
theorem ofLittle_little_toNat (n : UInt32) :
    UInt32.ofNat (Bytes.ofLittle (Bytes.little 4 n.toNat)) = n := by
  have hn : n.toNat < Bytes.limit 4 := n.toNat_lt
  rw [Bytes.ofLittle_little, Nat.mod_eq_of_lt hn, UInt32.ofNat_toNat]

theorem fits_iff (w : CommandWrapper) :
    w.fits = true ↔ 1 ≤ w.command.length ∧ w.command.length ≤ commandLimit := by
  simp [fits, Nat.one_le_iff_ne_zero]

theorem length_encode_of_fits {w : CommandWrapper} (hf : w.fits = true) :
    w.encode.length = size := by
  have hlen := w.fits_iff.mp hf
  simp only [encode, List.length_append, Bytes.length_little, List.length_cons,
    List.length_nil, List.length_replicate, size, commandLimit] at hlen ⊢
  omega

/-- From the command on: the command, and zeros up to the longest there may be. -/
theorem drop_encode (w : CommandWrapper) : w.encode.drop 15 =
    w.command ++ List.replicate (commandLimit - w.command.length) 0 := rfl

/-- **A target reads what the host has written**, if the command fits.  Of the unit it learns the
low four bits. -/
theorem decode?_encode {w : CommandWrapper} (hf : w.fits = true) :
    decode? w.encode = some { w with lun := w.lun % 16 } := by
  have hlen := w.fits_iff.mp hf
  -- the fields stand at fixed places, each after those before it
  have hmark : Bytes.word32 w.encode 0 = signature := Bytes.ofLittle_little 4 signature
  have htag : UInt32.ofNat (Bytes.word32 w.encode 4) = w.tag := ofLittle_little_toNat w.tag
  have hlength : UInt32.ofNat (Bytes.word32 w.encode 8) = w.transferLength :=
    ofLittle_little_toNat w.transferLength
  have hflag : (Bytes.byteAt w.encode 12 == 0x80) = w.dataIn := by
    have hbyte : Bytes.byteAt w.encode 12 = (if w.dataIn then 0x80 else 0 : UInt8).toNat := rfl
    rw [hbyte]
    cases w.dataIn <;> rfl
  have hlun : w.encode.getD 13 0 = w.lun % 16 := rfl
  have hcount : Bytes.byteAt w.encode 14 = w.command.length := by
    have hbyte : Bytes.byteAt w.encode 14 = (UInt8.ofNat w.command.length).toNat := rfl
    rw [hbyte, UInt8.toNat_ofNat']
    unfold commandLimit at hlen
    omega
  have hcommand : Bytes.slice w.encode 15 w.command.length = w.command := by
    rw [Bytes.slice, drop_encode, List.take_left]
  unfold decode?
  rw [hcount, htag, hlength, hflag, hlun, hcommand,
    if_pos ⟨length_encode_of_fits hf, hmark, hlen⟩]

/-- **The bytes of a wrapper determine all of it but the high bits of the unit**, which are not
written. -/
theorem encode_eq_iff {w w' : CommandWrapper} (hf : w.fits = true) (hf' : w'.fits = true) :
    w.encode = w'.encode ↔ w.tag = w'.tag ∧ w.transferLength = w'.transferLength ∧
      w.dataIn = w'.dataIn ∧ w.lun % 16 = w'.lun % 16 ∧ w.command = w'.command := by
  constructor
  · intro h
    have hback := decode?_encode hf
    rw [h, decode?_encode hf', Option.some.injEq, CommandWrapper.mk.injEq] at hback
    obtain ⟨htag, hlength, hflag, hlun, hcommand⟩ := hback
    exact ⟨htag.symm, hlength.symm, hflag.symm, hlun.symm, hcommand.symm⟩
  · rintro ⟨htag, hlength, hflag, hlun, hcommand⟩
    simp only [encode, htag, hlength, hflag, hlun, hcommand]

end CommandWrapper

namespace CommandStatus

theorem ofCode?_code (s : CommandStatus) : ofCode? s.code = some s := by
  cases s <;> rfl

theorem code_of_ofCode? {c : UInt8} {s : CommandStatus} (h : ofCode? c = some s) : s.code = c := by
  unfold ofCode? at h
  split at h <;> cases h <;> rfl

/-- The status bytes, in a table. -/
theorem mem_codes_iff {c : UInt8} {s : CommandStatus} :
    (c, s) ∈ [(0, passed), (1, failed), (2, phaseError)] ↔ c = s.code := by
  cases s <;> simp [code]

end CommandStatus

namespace StatusWrapper

@[simp] theorem length_encode (w : StatusWrapper) : w.encode.length = size := by
  simp [encode, encodeWith, size]

theorem decode_encode (w : StatusWrapper) : decode w.encode = .ok w := by
  have hmark : Bytes.word32 w.encode 0 = signature := Bytes.ofLittle_little 4 signature
  have htag : UInt32.ofNat (Bytes.word32 w.encode 4) = w.tag :=
    CommandWrapper.ofLittle_little_toNat w.tag
  have hresidue : UInt32.ofNat (Bytes.word32 w.encode 8) = w.residue :=
    CommandWrapper.ofLittle_little_toNat w.residue
  have hstatus : CommandStatus.ofCode? (w.encode.getD 12 0) = some w.status :=
    CommandStatus.ofCode?_code w.status
  simp only [decode, length_encode, hmark, hstatus, htag, hresidue, ne_eq, not_true_eq_false,
    if_false]

/-- What is read as a status was written for it. -/
theorem eq_encode_of_decode {b : Bytes} {w : StatusWrapper} (h : decode b = .ok w) :
    b = w.encode := by
  simp only [decode] at h
  split at h
  · cases h
  · next hsize =>
    split at h
    · cases h
    · next hmark =>
      split at h
      · cases h
      · next status hstatus =>
        cases h
        have hlen : b.length = 13 := Decidable.not_not.mp hsize
        have hcode := CommandStatus.code_of_ofCode? hstatus
        have hnat : ∀ i, (UInt32.ofNat (Bytes.word32 b i)).toNat = Bytes.word32 b i := by
          intro i
          rw [UInt32.toNat_ofNat', Nat.mod_eq_of_lt (Bytes.word32_lt b i)]
        have hlast : b.drop 12 = [b.getD 12 0] := by
          rw [List.drop_eq_getElem_cons (by omega), List.drop_eq_nil_of_le (by omega)]
          simp [hlen]
        have hfirst : b.take 8 = Bytes.slice b 0 4 ++ Bytes.slice b 4 4 :=
          List.take_add (i := 4) (j := 4)
        have hthree : b.take 12 = b.take 8 ++ Bytes.slice b 8 4 := List.take_add (i := 8) (j := 4)
        show b = encodeWith _ _ _
        calc b = b.take 12 ++ b.drop 12 := (List.take_append_drop 12 b).symm
          _ = Bytes.slice b 0 4 ++ Bytes.slice b 4 4 ++ Bytes.slice b 8 4 ++ b.drop 12 := by
            rw [hthree, hfirst]
          _ = encodeWith _ _ _ := by
            rw [encodeWith, hnat, hnat, ← Decidable.not_not.mp hmark,
              Bytes.little_word32 (by omega), Bytes.little_word32 (by omega),
              Bytes.little_word32 (by omega), hcode, hlast]

/-- **The bytes of a status are those written for it, and no others.** -/
theorem decode_eq_ok_iff {b : Bytes} {w : StatusWrapper} : decode b = .ok w ↔ b = w.encode :=
  ⟨eq_encode_of_decode, fun h => h ▸ decode_encode w⟩

theorem encode_inj {w w' : StatusWrapper} : w.encode = w'.encode ↔ w = w' := by
  constructor
  · intro h
    have hback := decode_encode w
    rw [h, decode_encode] at hback
    exact (Except.ok.inj hback).symm
  · exact congrArg encode

/-- The marks of a status are the letters `USBS`, and its last byte is one of three. -/
theorem eq_encode_iff {b : Bytes} {w : StatusWrapper} :
    b = w.encode ↔ ∃ code, (code, w.status) ∈
        [(0, CommandStatus.passed), (1, .failed), (2, .phaseError)] ∧
      b = Bytes.ofAscii "USBS" ++ Bytes.little 4 w.tag.toNat ++ Bytes.little 4 w.residue.toNat
        ++ [code] := by
  have hmark : Bytes.ofAscii "USBS" = Bytes.little 4 signature := by decide
  simp only [CommandStatus.mem_codes_iff, exists_eq_left, hmark]
  rfl

/-- Whatever is refused is refused as a breach of the protocol. -/
theorem kind_of_decode_error {b : Bytes} {e : IoError} (h : decode b = .error e) :
    e.kind = .invalidData := by
  simp only [decode] at h
  split at h
  · cases h
    rfl
  · split at h
    · cases h
      rfl
    · split at h <;> cases h
      rfl

end StatusWrapper

/-! ## Nothing is lost -/

/-- **The wrappers lose nothing.**  A command of 1 to 16 bytes is wrapped in 31, zeros after the
command, and these determine the tag, the length, the direction, the low four bits of the unit and
the command.  A string of bytes of any length is a status exactly if it is `USBS`, the tag, the
residue and one of three status bytes; every other string is refused for its data. -/
theorem wrappers_lossless :
    (∀ w : CommandWrapper, 1 ≤ w.command.length → w.command.length ≤ 16 →
      ∃ b, w.encode? = some b ∧ b.length = 31 ∧
        b.drop 15 = w.command ++ List.replicate (16 - w.command.length) 0 ∧
        ∀ w' : CommandWrapper, 1 ≤ w'.command.length → w'.command.length ≤ 16 →
          (w'.encode? = some b ↔ w.tag = w'.tag ∧ w.transferLength = w'.transferLength ∧
            w.dataIn = w'.dataIn ∧ w.lun % 16 = w'.lun % 16 ∧ w.command = w'.command)) ∧
    ∀ b : Bytes,
      (∀ tag residue status, StatusWrapper.decode b = .ok ⟨tag, residue, status⟩ ↔
        ∃ code, (code, status) ∈ [(0, CommandStatus.passed), (1, .failed), (2, .phaseError)] ∧
          b = Bytes.ofAscii "USBS" ++ Bytes.little 4 tag.toNat ++ Bytes.little 4 residue.toNat
            ++ [code]) ∧
      ∀ e, StatusWrapper.decode b = .error e → e.kind = .invalidData := by
  refine ⟨?_, ?_⟩
  · intro w hne hlimit
    have hf : w.fits = true := w.fits_iff.mpr ⟨hne, hlimit⟩
    refine ⟨w.encode, if_pos hf, CommandWrapper.length_encode_of_fits hf, w.drop_encode, ?_⟩
    intro w' hne' hlimit'
    have hf' : w'.fits = true := w'.fits_iff.mpr ⟨hne', hlimit'⟩
    have hwrapped : w'.encode? = some w'.encode := if_pos hf'
    rw [hwrapped, Option.some.injEq, eq_comm, CommandWrapper.encode_eq_iff hf hf']
  · intro b
    refine ⟨?_, fun e => StatusWrapper.kind_of_decode_error⟩
    intro tag residue status
    exact StatusWrapper.decode_eq_ok_iff.trans StatusWrapper.eq_encode_iff

/-- Units 3 and 19 are written alike, the two directions are not.  A status is not one any more if
its last byte is missing. -/
theorem wrappers_lossless_at_unit :
    let w : CommandWrapper := ⟨0x01020304, 512, true, 3, [0x28, 0, 0, 0, 0, 8, 0, 0, 1, 0]⟩
    let status : Bytes := [0x55, 0x53, 0x42, 0x53, 4, 3, 2, 1, 0, 1, 0, 0, 2]
    (∃ b, w.encode? = some b ∧ { w with lun := 19 }.encode? = some b ∧
      { w with dataIn := false }.encode? ≠ some b) ∧
    StatusWrapper.decode status = .ok ⟨0x01020304, 256, .phaseError⟩ ∧
    ∃ e, StatusWrapper.decode status.dropLast = .error e ∧ e.kind = .invalidData := by
  intro w status
  obtain ⟨hcommands, hstatuses⟩ := wrappers_lossless
  refine ⟨?_, ?_, ?_⟩
  · obtain ⟨b, hb, -, -, hsame⟩ := hcommands w (by decide) (by decide)
    refine ⟨b, hb, ?_, ?_⟩
    · exact (hsame { w with lun := 19 } (by decide) (by decide)).mpr
        ⟨rfl, rfl, rfl, by decide, rfl⟩
    · intro h
      obtain ⟨-, -, hflag, -⟩ :=
        (hsame { w with dataIn := false } (by decide) (by decide)).mp h
      exact absurd hflag (by decide)
  · exact ((hstatuses status).1 _ _ _).mpr ⟨2, by decide, by decide⟩
  · exact ⟨_, rfl, (hstatuses status.dropLast).2 _ rfl⟩

end ThumbDrive

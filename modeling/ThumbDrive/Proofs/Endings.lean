import ThumbDrive.Proofs.Files
import ThumbDrive.Proofs.Lifetime

/-! # Where files end

A file has a recorded size, and a chain of clusters that may have less.  It is handed out up to
where it `Stops`: at the recorded size, or at the first offset where there is no byte.  An error
there is told.  But nothing there is taken for the end of the file, and then the caller gets the
bytes before it as if they were all of it.

With blocks that are not too large, what there is at an offset has nothing to do with how much is
asked for.  So the sizes of the chunks do not matter, on any volume. -/
namespace ThumbDrive

open BlockStream (directLimit)
open Session (answer leaves)

/-! ## Chunks of any size -/

/-- How much is asked for does not matter where no block is too large, if anything is. -/
theorem Window.yields_congr {w : Window} (hsmall : w.disk.blockSize ≤ directLimit)
    (position : Nat) {n m : Nat} (h : 0 < n ↔ 0 < m) :
    w.yields position n = w.yields position m := by
  have hfree : ∀ n, ¬ BlockStream.Stalls w.disk.blockSize w.length position n :=
    fun _ => BlockStream.not_stalls (.inl hsmall)
  rw [Bool.eq_iff_iff, yields_iff, yields_iff, h]
  exact and_congr_right fun _ => and_congr_right fun _ => iff_of_true (hfree n) (hfree m)

namespace FileStream
variable {v : Volume} {w : Window} {size total : Nat}

/-- Something is asked for up to the recorded size and to the length the file is taken to have. -/
theorem asked_pos_iff {chunk o : Nat} :
    0 < asked v size total chunk o ↔ o < total ∧ o < size := by
  have hmod := Nat.mod_lt o v.clusterSize_pos
  unfold asked
  omega

/-- **The outlook is the same for all chunk sizes.** -/
theorem outlook_asked (hsmall : w.disk.blockSize ≤ directLimit) (first : Option Nat)
    (chunk chunk' : Nat) :
    v.outlook w first (asked v size total chunk) =
      v.outlook w first (asked v size total chunk') := by
  funext o
  cases hchain : v.chainAt w first (o / v.clusterSize) with
  | error e => rw [Volume.outlook_error hchain, Volume.outlook_error hchain]
  | ok cluster? =>
    cases cluster? with
    | none => rw [Volume.outlook_none hchain, Volume.outlook_none hchain]
    | some cluster =>
      rw [Volume.outlook_some hchain, Volume.outlook_some hchain,
        Window.yields_congr hsmall _ (asked_pos_iff.trans asked_pos_iff.symm)]

/-- The same file in chunks of two sizes, on the bare disk. -/
theorem contents_bare_chunks {t t' : BlockStream Disk} (hsmall : w.disk.blockSize ≤ directLimit)
    (ht : w.Bare t) (ht' : w.Bare t') (v : Volume) (e : DirEntry) (totalSize chunk chunk' : Nat) :
    let file (chunkSize : Nat) : FileStream :=
      { volume := v, cursor := some (v.fileOf e), chunkSize, totalSize }
    answer ((file chunk).contents t) = answer ((file chunk').contents t') := by
  intro file
  obtain ⟨stop, hstops, hanswer⟩ := contents_bare ht v e chunk totalSize
  obtain ⟨stop', hstops', hanswer'⟩ := contents_bare ht' v e chunk' totalSize
  rw [outlook_asked hsmall _ chunk chunk'] at hstops hanswer
  rw [hstops.unique hstops'] at hanswer
  exact hanswer.trans hanswer'.symm

end FileStream

namespace BlockStream
variable {δ : Type} [BlockDevice δ] {Sound : δ → Prop} {w : Window}

/-- Moves and reads keep an open stream of the window. -/
theorem Shows.reaches (hd : FixedContents w.disk Sound) {s s' : BlockStream δ}
    (hs : Shows Sound w s) (ho : s.isOpen = true) (h : Reaches s s') :
    Shows Sound w s' ∧ s'.isOpen = true := by
  induction h with
  | start => exact ⟨hs, ho⟩
  | move _ position ih => exact ⟨ih.1.move position, ih.2⟩
  | read _ n ih =>
    rcases read_cases hd ih.1 ih.2 n with ⟨s₁, hread, hshows, -, hopen, -⟩ |
      ⟨e, s₁, hread, hshows, -, hopen, -⟩
    · rw [hread]
      exact ⟨hshows, hopen⟩
    · rw [hread]
      exact ⟨hshows, hopen⟩

end BlockStream

/-! ## What is told of an end -/

namespace FileStream
variable {outlook : Nat → Except IoError Bool} {total stop : Nat} {data : Bytes}

/-- A file that stops where there is nothing is told as one that stops at its end. -/
theorem told_of_nothing (h : stop = total ∨ outlook stop = .ok false) :
    told outlook total stop data = .ok data := by
  unfold told
  by_cases hend : stop = total
  · rw [if_pos hend]
  · rw [if_neg hend, h.resolve_left hend]

theorem told_of_error {e : IoError} (hlt : stop < total) (h : outlook stop = .error e) :
    told outlook total stop data = .error (.during "Couldn't read the file" e) := by
  unfold told
  rw [if_neg (Nat.ne_of_lt hlt), h]

/-- What is told as a file is its data up to where it stops. -/
theorem of_told_ok (hs : Stops outlook total stop) {got : Bytes}
    (h : told outlook total stop data = .ok got) :
    got = data ∧ (stop < total → outlook stop = .ok false) := by
  by_cases hend : stop = total
  · rw [told_of_nothing (.inl hend)] at h
    cases h
    exact ⟨rfl, fun hlt => absurd hlt (Nat.not_lt_of_le (Nat.le_of_eq hend.symm))⟩
  · have hle := hs.le
    have hnone := hs.here (by omega)
    cases hout : outlook stop with
    | error e =>
      rw [told_of_error (by omega) hout] at h
      cases h
    | ok byte =>
      cases byte with
      | true => exact absurd hout hnone
      | false =>
        rw [told_of_nothing (.inr hout)] at h
        cases h
        exact ⟨rfl, fun _ => rfl⟩

end FileStream

namespace Session
variable {δ : Type} [BlockDevice δ] {Sound : δ → Prop} {failures : δ → List IoError} {w : Window}

/-- **The sizes of the chunks do not matter.**  On every device with fixed contents and blocks of at
most 65536 bytes, whatever is on the volume, and wherever earlier calls and other files have left
the stream: any entry taken for a file of any length, handed out to its end in chunks of one size
and in chunks of another, gives the same bytes or the same error, if no read of the device fails
meanwhile.  A chunk size of zero is no exception. -/
theorem contents_independent_of_chunks {k : Disk} (hd : FaultLog k Sound failures)
    (hsmall : k.blockSize ≤ 65536) {name : String} {granted : Bool} {d : δ} (hs : Sound d)
    {opened : Session δ} (ho : openWith name granted (.ok d) = .ok opened)
    (earlier : List FileTask) {v : Volume} {x x₁ x₂ : BlockStream δ}
    (hmounted : (opened.askAll earlier).state = .mounted v x) (hreach₁ : x.Reaches x₁)
    (hreach₂ : x.Reaches x₂) (e : DirEntry) (totalSize chunk₁ chunk₂ : Nat) :
    let file (chunkSize : Nat) : FileStream :=
      { volume := v, cursor := some (v.fileOf e), chunkSize, totalSize }
    failures (leaves ((file chunk₁).contents x₁)).device = failures x₁.device →
    failures (leaves ((file chunk₂).contents x₂)).device = failures x₂.device →
    answer ((file chunk₁).contents x₁) = answer ((file chunk₂).contents x₂) := by
  intro file hquiet₁ hquiet₂
  obtain ⟨rfl, hmount⟩ := openWith_ok ho
  obtain ⟨w, rfl, -, bare, -, halike⟩ := alike_mount_partition hd hs hmount
  obtain ⟨v', x', y, hx, -, hrel⟩ := (alike_askAll hd halike earlier).mounted
  cases hx.symm.trans hmounted
  obtain ⟨⟨hshows, hopen⟩, hbare⟩ := hrel
  have hrel₁ : (w.streams Sound failures).Rel x₁ y :=
    ⟨hshows.reaches hd.toFixedContents hopen hreach₁, hbare⟩
  have hrel₂ : (w.streams Sound failures).Rel x₂ y :=
    ⟨hshows.reaches hd.toFixedContents hopen hreach₂, hbare⟩
  calc answer ((file chunk₁).contents x₁)
    _ = answer ((file chunk₁).contents y) := (FileStream.told_contents hd _ hrel₁).quiet hquiet₁
    _ = answer ((file chunk₂).contents y) :=
      FileStream.contents_bare_chunks hsmall hbare hbare v e totalSize chunk₁ chunk₂
    _ = answer ((file chunk₂).contents x₂) :=
      ((FileStream.told_contents hd _ hrel₂).quiet hquiet₂).symm

/-- A scattered file byte by byte, and in chunks that end within clusters. -/
theorem contents_independent_of_chunks_scattered :
    ∃ (opened : Session Disk) (v : Volume) (x : BlockStream Disk) (e : DirEntry),
      openWith "stick" true (.ok scatteredDisk) = .ok opened ∧ opened.state = .mounted v x ∧
      opened.fileAt? "/a" = some (v, e) ∧
      let file (chunkSize : Nat) : FileStream :=
        { volume := v, cursor := some (v.fileOf e), chunkSize, totalSize := 1100 }
      answer ((file 0).contents x) = answer ((file 700).contents x) := by
  have hrun : ((openWith "stick" true (.ok scatteredDisk)).toOption.bind fun s =>
      s.fileAt? "/a").isSome = true := by decide +kernel
  cases ho : openWith "stick" true (.ok scatteredDisk) with
  | error r =>
    rw [ho] at hrun
    cases hrun
  | ok opened =>
    rw [ho] at hrun
    obtain ⟨⟨v, e⟩, hfile⟩ := Option.isSome_iff_exists.mp hrun
    have hfile' : opened.fileAt? "/a" = some (v, e) := hfile
    obtain ⟨x, x', hstate, -⟩ := fileAt?_eq_some hfile'
    exact ⟨opened, v, x, e, rfl, hstate, hfile', contents_independent_of_chunks
      (Disk.faultLog scatteredDisk) (by decide) rfl ho [] hstate .start .start e 1100 0 700 rfl rfl⟩

/-! ## Files that are shorter than recorded -/

/-- What is answered when a file is read that a path leads to, on a session that is alike. -/
theorem ask_read_bare (hd : FaultLog w.disk Sound failures) {s : Session δ} {bare : Session Disk}
    (hsame : Alike w Sound failures s bare) {path : String} {v : Volume} {e : DirEntry}
    (hfile : s.fileAt? path = some (v, e)) :
    let first := e.slot.firstCluster? v.fatType
    let size := e.slot.size
    let outlook := v.outlook w first (FileStream.asked v size size s.chunkSize)
    ∃ stop, Stops outlook size stop ∧ (bare.ask (.read path)).1 =
      (FileStream.told outlook size stop ((v.fileImage w first size).slice 0 stop)).map fun data =>
        .contents (some data) := by
  intro first size outlook
  obtain ⟨x, x', hstate, hresolve⟩ := fileAt?_eq_some hfile
  obtain ⟨v', x₀, y, hx, hy, hrel⟩ := hsame.mounted
  cases hx.symm.trans hstate
  obtain ⟨y', hresolve', hbare⟩ := resolve_alike hd hrel hresolve
  obtain ⟨stop, hstops, hanswer⟩ := FileStream.contents_bare hbare v e s.chunkSize size
  refine ⟨stop, hstops, ?_⟩
  rw [ask_read_answer hy hresolve', ← hsame.chunkSize]
  exact congrArg (Except.map _) hanswer

/-- Contents that were read on a device that may fail are those on the bare disk. -/
theorem ask_read_contents (hd : FaultLog w.disk Sound failures) {s : Session δ}
    {bare : Session Disk} (hsame : Alike w Sound failures s bare) {path : String} {data : Bytes}
    (h : (s.ask (.read path)).1 = .ok (.contents (some data))) :
    (bare.ask (.read path)).1 = .ok (.contents (some data)) := by
  obtain ⟨-, es, -, hacc⟩ := ask_step hd hsame (.read path)
  rcases hacc with heq | ⟨-, m, hm⟩ | ⟨-, hshort⟩
  · exact heq.symm.trans h
  · cases hm.symm.trans h
  · cases hshort.symm.trans h

/-- **A file may be cut without notice.**  On every device with fixed contents, whichever of its
reads fail, whatever is on the volume, and after any calls: bytes that a call returns are those of
the file up to where it stops; and if that is before the recorded size, there is nothing at that
offset.  Conversely, let no read fail during the call.  Then a file that stops because there is
nothing (its chain has come to an end, the cluster lies outside of the partition, or a block is too
large to be read) is returned up to there, as if that were all of it; only one that stops because
its table entry cannot be read gives an error. -/
theorem file_cut_without_notice {k : Disk} (hd : FaultLog k Sound failures) {name : String}
    {granted : Bool} {d : δ} (hs : Sound d) {opened : Session δ}
    (ho : openWith name granted (.ok d) = .ok opened) :
    ∃ w : Window, w.disk = k ∧ w.firstLba = opened.partition.firstLba ∧
      w.blockCount = opened.partition.blockCount ∧
      ∀ (earlier : List FileTask) (path : String),
        let s := opened.askAll earlier
        let outlook (v : Volume) (e : DirEntry) := v.outlook w (e.slot.firstCluster? v.fatType)
          (FileStream.asked v e.slot.size e.slot.size s.chunkSize)
        let image (v : Volume) (e : DirEntry) :=
          v.fileImage w (e.slot.firstCluster? v.fatType) e.slot.size
        (∀ data, (s.ask (.read path)).1 = .ok (.contents (some data)) →
          ∃ v e, s.fileAt? path = some (v, e) ∧ data = (image v e).slice 0 data.length ∧
            Stops (outlook v e) e.slot.size data.length ∧
            (data.length < e.slot.size → outlook v e data.length = .ok false)) ∧
        ∀ v e stop, s.fileAt? path = some (v, e) → Stops (outlook v e) e.slot.size stop →
          failures (s.ask (.read path)).2.device = failures s.device →
          (stop = e.slot.size ∨ outlook v e stop = .ok false →
            (s.ask (.read path)).1 = .ok (.contents (some ((image v e).slice 0 stop)))) ∧
          ∀ err, stop < e.slot.size → outlook v e stop = .error err →
            (s.ask (.read path)).1 = .error (.during "Couldn't read the file" err) := by
  obtain ⟨rfl, hmount⟩ := openWith_ok ho
  obtain ⟨w, rfl, ⟨hfirst, hcount⟩, bare, -, halike⟩ := alike_mount_partition hd hs hmount
  refine ⟨w, rfl, hfirst, hcount, ?_⟩
  intro earlier path s outlook image
  have hsame : Alike w Sound failures s bare := alike_askAll hd halike earlier
  constructor
  · intro data hdata
    obtain ⟨v, e, hfile⟩ := fileAt?_of_contents hdata
    obtain ⟨stop, hstops, hanswer⟩ := ask_read_bare hd hsame hfile
    rw [ask_read_contents hd hsame hdata] at hanswer
    cases htold : FileStream.told (outlook v e) e.slot.size stop ((image v e).slice 0 stop) with
    | error err =>
      rw [htold] at hanswer
      cases hanswer
    | ok got =>
      rw [htold] at hanswer
      cases hanswer
      obtain ⟨rfl, hnothing⟩ := FileStream.of_told_ok hstops htold
      refine ⟨v, e, hfile, ?_⟩
      rw [Image.length_slice]
      exact ⟨rfl, hstops, hnothing⟩
  · intro v e stop hfile hstops hquiet
    obtain ⟨stop', hstops', hanswer⟩ := ask_read_bare hd hsame hfile
    obtain rfl := hstops.unique hstops'
    rw [ask_quiet hd hsame hquiet, hanswer]
    constructor
    · intro hnothing
      rw [FileStream.told_of_nothing hnothing]
      rfl
    · intro err hlt herror
      rw [FileStream.told_of_error hlt herror]
      rfl

/-- A file of 600 bytes by its entry, with a chain of one cluster of 512 bytes. -/
def cutDisk : Disk where
  image :=
    Image.zeros 2048
      |>.overlay 0 (.ofBytes [0xEB, 0x3C, 0x90, 0, 0, 0, 0, 0, 0, 0, 0,
        0, 2, 1, 1, 0, 1, 16, 0, 4, 0, 0xF8, 1, 0])
      |>.overlay 54 (.ofBytes (Bytes.ofAscii "FAT12   "))
      |>.overlay 510 (.ofBytes [0x55, 0xAA])
      |>.overlay 512 (.ofBytes [0xF8, 0xFF, 0xFF, 0xFF, 0x0F])
      |>.overlay 1024 (.ofBytes (Bytes.ofAscii "A          " ++
        [0x20, 0, 0, 0, 0, 0, 0, 0, 0, 0, 0, 0, 0, 0, 0, 2, 0, 0x58, 2, 0, 0]))
      |>.overlay 1536 (.ofBytes (Bytes.ofAscii "hi"))

/-- The cluster is returned for the file, and nothing is at the offset behind it. -/
theorem file_cut_without_notice_at_chain_end :
    ∃ (opened : Session Disk) (w : Window) (v : Volume) (e : DirEntry),
      openWith "stick" true (.ok cutDisk) = .ok opened ∧ w.disk = cutDisk ∧
      opened.fileAt? "/a" = some (v, e) ∧ e.slot.size = 600 ∧
      v.outlook w (e.slot.firstCluster? v.fatType)
        (FileStream.asked v e.slot.size e.slot.size opened.chunkSize) 512 = .ok false ∧
      (opened.ask (.read "/a")).1 = .ok (.contents (some
        ((v.fileImage w (e.slot.firstCluster? v.fatType) e.slot.size).slice 0 512))) := by
  have hrun : ((openWith "stick" true (.ok cutDisk)).toOption.map fun s =>
      ((s.ask (.read "/a")).1.toOption, (s.fileAt? "/a").map fun found => found.2.slot.size)) =
      some (some (.contents (some (Bytes.ofAscii "hi" ++ List.replicate 510 0))), some 600) := by
    decide +kernel
  cases ho : openWith "stick" true (.ok cutDisk) with
  | error r =>
    rw [ho] at hrun
    cases hrun
  | ok opened =>
    rw [ho] at hrun
    simp only [Except.toOption, Option.map_some, Option.some.injEq, Prod.mk.injEq] at hrun
    obtain ⟨hread, hrecorded⟩ := hrun
    cases hanswer : (opened.ask (.read "/a")).1 with
    | error err =>
      rw [hanswer] at hread
      cases hread
    | ok reply =>
      rw [hanswer] at hread
      cases Option.some.inj hread
      obtain ⟨w, hdisk, -, -, hall⟩ :=
        file_cut_without_notice (Disk.faultLog cutDisk) rfl ho
      obtain ⟨hreturned, hquiet⟩ := hall [] "/a"
      obtain ⟨v, e, hfile, -, hstops, hnothing⟩ := hreturned _ hanswer
      have hfile' : opened.fileAt? "/a" = some (v, e) := hfile
      rw [hfile'] at hrecorded
      have hsize : e.slot.size = 600 := Option.some.inj hrecorded
      have hlength : (Bytes.ofAscii "hi" ++ List.replicate 510 0).length = 512 := by
        decide +kernel
      rw [hlength] at hstops hnothing
      have hend := hnothing (by omega)
      have hcut := (hquiet v e 512 hfile hstops rfl).1 (.inr hend)
      exact ⟨opened, w, v, e, rfl, hdisk, hfile', hsize, hend, hcut⟩

end Session
end ThumbDrive

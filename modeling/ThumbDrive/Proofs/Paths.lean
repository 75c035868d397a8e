import ThumbDrive.Proofs.Chains
import ThumbDrive.Proofs.Interview
import ThumbDrive.Proofs.Kinds

/-! # Where paths lead

To resolve a path is to walk along its components from the root directory, and a walk along two
lists of components is a walk along the first that goes on along the second (`walkFrom_append`).
That is an equation between operations, so it holds on every device, however its reads fail: what
the first part of the walk comes to decides whether the second is taken at all.

Cutting a text at its slashes turns a slash between two paths into one list behind the other
(`components_append`), and there a piece that is empty or a dot leaves nothing.  So a path may be
put together from two, and cleaned of such pieces, without leading elsewhere.

The parts of a walk are asked for in different calls, and each call begins where the one before it
has left the stream.  On a device whose reads do not fail this makes no difference: every call gives
the answer of a session on the bare disk (`Mirrors`), and that one answers the same from wherever
its stream stands (`Window.steady`). -/
namespace ThumbDrive

/-! ## Paths put together -/

/-- A text that is one component. -/
theorem Path.components_single {c : String} (hslash : '/' ∉ c.toList) (hne : c ≠ "")
    (hdot : c ≠ ".") : components c = [c] := by
  rw [components_piece hslash]
  simp [hne, hdot]

namespace Volume
variable {δ : Type} [BlockDevice δ] (v : Volume)

/-- Goes on along further components from where some have led: nowhere from nowhere, and from a
file only if there are none. -/
def walkOn (further : List String) : Option Node → IoOn (BlockStream δ) (Option Node)
  | none => pure none
  | some (.directory d) => v.walkFrom d further
  | some (.file e) => pure (if further = [] then some (.file e) else none)

/-- One component names an entry, and the walk goes on from there. -/
theorem walkFrom_cons (d : Directory) (c : String) (cs : List String) :
    (v.walkFrom d (c :: cs) : IoOn (BlockStream δ) _) =
      d.find? v (DirEntry.answersTo c) >>= fun found => v.walkOn cs (found.map v.nodeOf) := by
  rw [walkFrom]
  congr 1
  funext found
  cases found with
  | none => rfl
  | some e =>
    dsimp only [Option.map_some]
    cases v.nodeOf e with
    | directory d => rfl
    | file e => rfl

/-- **A walk along two lists of components goes on after the first.** -/
theorem walkFrom_append (d : Directory) (cs further : List String) :
    (v.walkFrom d (cs ++ further) : IoOn (BlockStream δ) _) =
      v.walkFrom d cs >>= v.walkOn further := by
  induction cs generalizing d with
  | nil => rfl
  | cons c cs ih =>
    have hon (node : Option Node) :
        (v.walkOn (cs ++ further) node : IoOn (BlockStream δ) _) =
          v.walkOn cs node >>= v.walkOn further := by
      rcases node with _ | d | e
      · rfl
      · exact ih d
      · by_cases hcs : cs = []
        · subst hcs
          rfl
        · have hmore : cs ++ further ≠ [] := fun hnil => hcs (List.append_eq_nil_iff.mp hnil).1
          simp only [walkOn, if_neg hcs, if_neg hmore, pure_bind]
    rw [List.cons_append, walkFrom_cons, walkFrom_cons, bind_assoc]
    congr 1
    funext found
    exact hon (found.map v.nodeOf)

end Volume

/-! ## On the disk itself -/

variable {δ : Type} [BlockDevice δ] {Sound : δ → Prop} {failures : δ → List IoError} {w : Window}

/-- **On the disk itself an operation that follows is steady**: it is never cut, and answers the
same wherever the stream stands. -/
theorem Window.steady {α : Type} {short : α → EStateM.Result IoError (BlockStream Disk) α → Prop}
    {act : IoOn (BlockStream Disk) α}
    (h : (w.streams (fun d : Disk => d = w.disk) fun _ => []).FollowsOrCut short act act)
    {y y' : BlockStream Disk} (hy : w.Bare y) (hy' : w.Bare y') :
    (∃ a z z', act y = .ok a z ∧ act y' = .ok a z' ∧ w.Bare z) ∨
    (∃ e z z', act y = .error e z ∧ act y' = .error e z') := by
  rcases h y y' ⟨hy, hy'⟩ with hstep | hcut
  · rcases hstep.quiet fun _ => rfl with ⟨a, z, z', hz, hz', hrel⟩ | ⟨e, z, z', hz, hz', -⟩
    · exact .inl ⟨a, z, z', hz, hz', hrel.1⟩
    · exact .inr ⟨e, z, z', hz, hz'⟩
  · obtain ⟨a, z, es, -, -, hsince, ⟨e, he, -⟩, -⟩ := hcut.ended
    have hnone : es ++ [] = [] := hsince.symm
    rw [List.append_nil] at hnone
    rw [hnone] at he
    cases he

theorem Volume.follows_walkOn (hd : FaultLog w.disk Sound failures) (v : Volume)
    (further : List String) (node : Option Node) :
    (w.streams Sound failures).FollowsOrCut (fun node _ => node = none) (v.walkOn further node)
      (v.walkOn further node) := by
  rcases node with _ | d | e
  · exact fun s t hst => .inl (.ok hst (Pairing.Since.refl s))
  · exact follows_walkFrom hd v d further
  · exact fun s t hst => .inl (.ok hst (Pairing.Since.refl s))

/-- The same complaint, about another path. -/
def StorageError.about (path : String) : StorageError → StorageError
  | .notFound _ => .notFound path
  | .notADirectory _ => .notADirectory path
  | .isADirectory _ => .isADirectory path
  | e => e

namespace Session

/-- Where a path leads: what a listing and a read find out first. -/
def locate (path : String) : EStateM StorageError (Session δ) (Option Node) :=
  onVolume fun v => inDirectory (v.resolve path)

/-- Where a path leads from a directory. -/
def follow (d : Directory) (path : String) : EStateM StorageError (Session δ) (Option Node) :=
  onVolume fun v => inDirectory (v.walkFrom d (Path.components path))

/-- No read of the device fails in the course of an operation. -/
def Quietly {α : Type} (failures : δ → List IoError) (act : EStateM StorageError (Session δ) α)
    (s : Session δ) : Prop :=
  failures (leaves (act s)).device = failures s.device

/-- **A session answers as one on the bare disk.**  Whatever was asked of it before, and whatever
has failed then, an operation in the course of which no read fails gives the answer of `bare`. -/
structure Mirrors (failures : δ → List IoError) (s : Session δ) (bare : Session Disk) : Prop where
  locates : ∀ path earlier, Quietly failures (locate path) (s.askAll earlier) →
    answer (locate path (s.askAll earlier)) = answer (locate path bare)
  lists : ∀ path earlier, Quietly failures (list path) (s.askAll earlier) →
    answer (list path (s.askAll earlier)) = answer (list path bare)
  reads : ∀ path earlier, Quietly failures (read path) (s.askAll earlier) →
    answer (read path (s.askAll earlier)) = answer (read path bare)

/-- A path followed on a failing device.  If it is cut, it leads nowhere. -/
theorem told_locate (hd : FaultLog w.disk Sound failures) (path : String) {s : Session δ}
    {t : Session Disk} (hst : Alike w Sound failures s t) :
    (pairing w Sound failures).Told (fun cut _ => cut = .ok none)
      (fun s' => Alike w Sound failures s' t) s (locate path s) (locate path t) := by
  unfold locate
  refine told_onVolume (fun v a b hab => ?_) hst
  rw [← bind_pure (inDirectory (δ := δ) (v.resolve path)),
    ← bind_pure (inDirectory (δ := Disk) (v.resolve path))]
  refine told_inDirectory (Volume.follows_resolve hd v path) ?_ ?_ hab
  · intro node a b hab
    exact ⟨⟨b, hab⟩, [], rfl, .inl rfl⟩
  · rintro node a b rfl
    exact ⟨rfl, rfl⟩

/-- Every session mirrors the one on the bare disk. -/
theorem mirrors_opened {k : Disk} (hd : FaultLog k Sound failures) {name : String}
    {granted : Bool} {d : δ} (hs : Sound d) {opened : Session δ}
    (ho : openWith name granted (.ok d) = .ok opened) :
    ∃ (bare : Session Disk) (w : Window) (v : Volume) (y : BlockStream Disk),
      openWith name granted (.ok k) = .ok bare ∧ Mirrors failures opened bare ∧
      bare.state = .mounted v y ∧ w.Bare y := by
  obtain ⟨rfl, hmount⟩ := openWith_ok ho
  obtain ⟨w, rfl, bare, hbare, halike⟩ := alike_mount hd hs hmount
  obtain ⟨v, x, y, -, hstate, hrel⟩ := halike.mounted
  have hsame := alike_askAll hd halike
  refine ⟨bare, w, v, y, hbare, ⟨?_, ?_, ?_⟩, hstate, hrel.2⟩
  · intro path earlier hq
    exact (told_locate hd path (hsame earlier)).quiet hq
  · intro path earlier hq
    exact (told_list hd path (hsame earlier)).quiet hq
  · intro path earlier hq
    exact (told_read hd path (hsame earlier)).quiet hq

section Bare
variable {bare : Session Disk} {v : Volume} {y : BlockStream Disk}

omit [BlockDevice δ] in
theorem answer_onVolume {α : Type} {s : Session δ} {x : BlockStream δ} (hs : s.state = .mounted v x)
    (act : Volume → EStateM StorageError (BlockStream δ) α) :
    answer (onVolume act s) = answer (act v x) := by
  simp only [onVolume, hs]
  cases act v x <;> rfl

/-- What is done after something was found in a directory is as good as done by itself. -/
theorem answer_sequence {α β : Type} (hb : bare.state = .mounted v y) (hy : w.Bare y)
    {short : α → EStateM.Result IoError (BlockStream Disk) α → Prop}
    {act : Volume → IoOn (BlockStream Disk) α}
    (hact : (w.streams (fun d : Disk => d = w.disk) fun _ => []).FollowsOrCut short
      (act v) (act v))
    {next : Volume → α → EStateM StorageError (BlockStream Disk) β}
    (hnext : ∀ a z, w.Bare z → answer (next v a z) = answer (next v a y)) :
    answer (onVolume (fun v => inDirectory (act v) >>= next v) bare) =
      (answer (onVolume (fun v => inDirectory (act v)) bare)).bind fun a =>
        answer (onVolume (fun v => next v a) bare) := by
  simp only [answer_onVolume hb]
  rw [inDirectory_bind]
  rcases Window.steady hact hy hy with ⟨a, z, -, hz, -, hbare⟩ | ⟨e, z, -, hz, -⟩
  · simp only [inDirectory, hz]
    exact hnext a z hbare
  · simp only [inDirectory, hz]
    rfl

/-- Looking into a directory answers the same wherever the stream stands. -/
theorem answer_inDirectory_steady {α : Type}
    {short : α → EStateM.Result IoError (BlockStream Disk) α → Prop}
    {act : IoOn (BlockStream Disk) α}
    (h : (w.streams (fun d : Disk => d = w.disk) fun _ => []).FollowsOrCut short act act)
    {z : BlockStream Disk} (hz : w.Bare z) (hy : w.Bare y) :
    answer (inDirectory act z) = answer (inDirectory act y) := by
  rcases Window.steady h hz hy with ⟨a, _, _, hact, hact', -⟩ | ⟨e, _, _, hact, hact'⟩
  · simp only [inDirectory, hact, hact', answer]
  · simp only [inDirectory, hact, hact', answer]

/-- **A path goes on from where its first part leads.** -/
theorem answer_locate_append (hb : bare.state = .mounted v y) (hy : w.Bare y) (a b : String) :
    answer (locate (a ++ "/" ++ b) bare) =
      (answer (locate a bare)).bind fun node =>
        answer (onVolume (fun v => inDirectory (v.walkOn (Path.components b) node)) bare) := by
  have hwalk (v : Volume) : inDirectory (v.resolve (a ++ "/" ++ b)) =
      inDirectory (δ := Disk) (v.resolve a) >>= fun node =>
        inDirectory (v.walkOn (Path.components b) node) := by
    funext z
    unfold Volume.resolve
    rw [Path.components_append, Volume.walkFrom_append, inDirectory_bind, inDirectory,
      IoOn.bind_apply]
    cases v.walkFrom v.root (Path.components a) z <;> rfl
  unfold locate
  simp only [hwalk]
  refine answer_sequence hb hy (Volume.follows_resolve (Disk.faultLog w.disk) v a) ?_
  intro node z hz
  exact answer_inDirectory_steady
    (Volume.follows_walkOn (Disk.faultLog w.disk) v (Path.components b) node) hz hy

end Bare

/-! ## Paths with the same components -/

section Same
variable {path path' : String}

theorem resolve_same (h : Path.components path = Path.components path') (v : Volume) :
    (v.resolve path : IoOn (BlockStream δ) _) = v.resolve path' := by
  unfold Volume.resolve
  rw [h]

/-- Only the errors tell apart two paths with the same components. -/
theorem list_same (h : Path.components path = Path.components path') (s : Session δ) :
    answer (list path s) = (answer (list path' s)).mapError (·.about path) := by
  cases hs : s.state with
  | closed d =>
    simp only [list, onVolume, hs]
    rfl
  | mounted v x =>
    simp only [list, onVolume, hs, inDirectory_bind, resolve_same h]
    rcases v.resolve path' x with ⟨_ | d | e, x'⟩ | ⟨e, x'⟩
    · rfl
    · dsimp only
      rw [inDirectory_bind]
      cases d.entries v x' <;> rfl
    · rfl
    · rfl

theorem read_same (h : Path.components path = Path.components path') (s : Session δ) :
    answer (read path s) = (answer (read path' s)).mapError (·.about path) := by
  cases hs : s.state with
  | closed d =>
    simp only [read, onVolume, hs]
    rfl
  | mounted v x =>
    simp only [read, onVolume, hs, inDirectory_bind, resolve_same h]
    rcases v.resolve path' x with ⟨_ | d | e, x'⟩ | ⟨e, x'⟩
    · rfl
    · rfl
    · dsimp only
      simp only [bind, EStateM.bind, FileStream.contents]
      cases hc : ChunkSource.readToEnd (fileStream v s.chunkSize e, x') with
      | ok data z => rfl
      | error error z =>
        obtain ⟨m, rfl⟩ := FileStream.drain_error hc
        rfl
    · rfl

end Same

/-- **Paths are walked piece by piece.**  On a device with fixed contents, whatever was asked before
and whatever failed then, an operation in the course of which no read fails gives the answer of a
session on the bare disk.  There, for all texts `a` and `b`, the path `a/b` leads to where the
components of `b` lead from the directory that `a` leads to.  If `a` leads nowhere, cannot be
followed, or leads to a file beyond which `b` has components, then so it is with `a/b`, and a `b`
without components adds nothing to `a`.

Pieces that are empty or a dot may be taken out of a path wherever they stand.  It leads to the same
place, and listing and reading it give the same answers, but for the path in an error. -/
theorem joined_path_goes_on {k : Disk} (hd : FaultLog k Sound failures) {name : String}
    {granted : Bool} {d : δ} (hs : Sound d) {opened : Session δ}
    (ho : openWith name granted (.ok d) = .ok opened) :
    ∃ bare : Session Disk, openWith name granted (.ok k) = .ok bare ∧
      Mirrors failures opened bare ∧
      (∀ a b : String,
        let joined := a ++ "/" ++ b
        (∀ d, answer (locate a bare) = .ok (some (.directory d)) →
          answer (locate joined bare) = answer (follow d b bare)) ∧
        (answer (locate a bare) = .ok none → answer (locate joined bare) = .ok none) ∧
        (∀ e, answer (locate a bare) = .error e → answer (locate joined bare) = .error e) ∧
        (∀ e, answer (locate a bare) = .ok (some (.file e)) → Path.components b ≠ [] →
          answer (locate joined bare) = .ok none) ∧
        (Path.components b = [] → answer (locate joined bare) = answer (locate a bare))) ∧
      ∀ parts : List String, (∀ part ∈ parts, '/' ∉ part.toList) →
        let path := "/".intercalate parts
        let plain := "/".intercalate (parts.filter fun part => part ≠ "" && part ≠ ".")
        answer (locate path bare) = answer (locate plain bare) ∧
        answer (list path bare) = (answer (list plain bare)).mapError (·.about path) ∧
        answer (read path bare) = (answer (read plain bare)).mapError (·.about path) := by
  obtain ⟨bare, w, v, y, hbare, hmirrors, hb, hy⟩ := mirrors_opened hd hs ho
  refine ⟨bare, hbare, hmirrors, ?_, ?_⟩
  · intro a b joined
    have hgoes : answer (locate joined bare) = _ := answer_locate_append hb hy a b
    refine ⟨?_, ?_, ?_, ?_, ?_⟩
    · intro d ha
      rw [hgoes, ha]
      rfl
    · intro ha
      rw [hgoes, ha, Except.bind, answer_onVolume hb]
      rfl
    · intro e ha
      rw [hgoes, ha]
      rfl
    · intro e ha hmore
      rw [hgoes, ha, Except.bind, answer_onVolume hb, Volume.walkOn, if_neg hmore]
      rfl
    · intro hnone
      have hsame : Path.components joined = Path.components a := by
        rw [Path.components_append, hnone, List.append_nil]
      unfold locate
      simp only [resolve_same hsame]
  · intro parts hparts path plain
    have hkept : ∀ part ∈ parts.filter fun part => part ≠ "" && part ≠ ".",
        '/' ∉ part.toList := fun part hmem => hparts part (List.mem_filter.mp hmem).1
    have hsame : Path.components path = Path.components plain := by
      rw [Path.components_intercalate hparts, Path.components_intercalate hkept, List.filter_filter]
      simp only [Bool.and_self]
    refine ⟨?_, list_same hsame bare, read_same hsame bare⟩
    unfold locate
    simp only [resolve_same hsame]

/-- A short slot in bytes. -/
def slotBytes (name : String) (attributes cluster size : UInt8) : Bytes :=
  Bytes.ofAscii name ++ [attributes] ++ List.replicate 14 0 ++ [cluster, 0, size, 0, 0, 0]

/-- Six blocks: a boot sector, an allocation table, a root directory with a directory `D` and a file
`A`, the slots of that directory, the two bytes of that file, and three bytes of another. -/
def treeDisk (slots : Bytes) : Disk where
  image :=
    Image.zeros 3072
      |>.overlay 0 (.ofBytes [0xEB, 0x3C, 0x90, 0, 0, 0, 0, 0, 0, 0, 0,
        0, 2, 1, 1, 0, 1, 16, 0, 6, 0, 0xF8, 1, 0])
      |>.overlay 54 (.ofBytes (Bytes.ofAscii "FAT12   "))
      |>.overlay 510 (.ofBytes [0x55, 0xAA])
      |>.overlay 512 (.ofBytes [0xF8, 0xFF, 0xFF, 0xFF, 0xFF, 0xFF, 0xFF, 0x0F])
      |>.overlay 1024 (.ofBytes (slotBytes "D          " 0x10 2 0 ++
        slotBytes "A          " 0x20 3 2))
      |>.overlay 1536 (.ofBytes slots)
      |>.overlay 2048 (.ofBytes (Bytes.ofAscii "hi"))
      |>.overlay 2560 (.ofBytes (Bytes.ofAscii "abc"))

/-- In the directory, behind its dot entries, a file with a long name. -/
def notesDisk : Disk :=
  treeDisk (slotBytes ".          " 0x10 2 0 ++ slotBytes "..         " 0x10 0 0 ++
    [0x41, 0x6D, 0, 0x79, 0, 0x20, 0, 0x6E, 0, 0x6F, 0, 0x0F, 0, 0xC6, 0x74, 0, 0x65, 0,
      0x73, 0, 0x2E, 0, 0x74, 0, 0x78, 0, 0, 0, 0x74, 0, 0, 0] ++
    slotBytes "MYNOTE~1TXT" 0x20 4 3)

/-- Whether a path leads to a directory. -/
def isDirectoryAt (path : String) (s : Session δ) : Bool :=
  match answer (locate path s) with
  | .ok (some (.directory _)) => true
  | _ => false

theorem of_isDirectoryAt {path : String} {s : Session δ} (h : isDirectoryAt path s = true) :
    ∃ d, answer (locate path s) = .ok (some (.directory d)) := by
  unfold isDirectoryAt at h
  split at h
  · next d hd => exact ⟨d, hd⟩
  · cases h

/-- The first listing fails.  Afterwards a file is found from the directory it is in, and read under
a path with dots and slashes to spare. -/
theorem joined_path_goes_on_nested :
    let probe : Logged Probe :=
      { device := { disk := notesDisk, faults := [⟨2, some 1, .other "unplugged"⟩] } }
    ∃ (opened : Session (Logged Probe)) (bare : Session Disk) (d : Directory),
      openWith "stick" true (.ok probe) = .ok opened ∧
      openWith "stick" true (.ok notesDisk) = .ok bare ∧
      (opened.askAll [.list "/"]).device.log = [.other "unplugged"] ∧
      answer (locate "/d" bare) = .ok (some (.directory d)) ∧
      answer (locate "/d/My Notes.txt" (opened.askAll [.list "/"])) =
        answer (follow d "My Notes.txt" bare) ∧
      (answer (read "d/My Notes.txt" bare)).toOption = some (some (Bytes.ofAscii "abc")) ∧
      answer (read "//d/./My Notes.txt/" bare) =
        (answer (read "d/My Notes.txt" bare)).mapError (·.about "//d/./My Notes.txt/") := by
  intro probe
  have hprobe : ((openWith "stick" true (.ok probe)).toOption.map fun s =>
      ((s.askAll [.list "/"]).device.log,
        (leaves (locate "/d/My Notes.txt" (s.askAll [.list "/"]))).device.log)) =
      some ([.other "unplugged"], [.other "unplugged"]) := by decide +kernel
  have hdisk : ((openWith "stick" true (.ok notesDisk)).toOption.map fun s =>
      (isDirectoryAt "/d" s, (answer (read "d/My Notes.txt" s)).toOption)) =
      some (true, some (some (Bytes.ofAscii "abc"))) := by decide +kernel
  cases ho : openWith "stick" true (.ok probe) with
  | error r =>
    rw [ho] at hprobe
    cases hprobe
  | ok opened =>
    obtain ⟨bare, hbare, hmirrors, hjoined, hparts⟩ := joined_path_goes_on
      (Logged.faultLog (Probe.fixedContents notesDisk)) (d := probe) rfl ho
    rw [ho] at hprobe
    rw [hbare] at hdisk
    obtain ⟨hlog, hquiet⟩ := Prod.mk.inj (Option.some.inj hprobe)
    obtain ⟨hdirectory, hread⟩ := Prod.mk.inj (Option.some.inj hdisk)
    obtain ⟨d, hlead⟩ := of_isDirectoryAt hdirectory
    have hfound := (hjoined "/d" "My Notes.txt").1 d hlead
    have hmirror := hmirrors.locates "/d/My Notes.txt" [.list "/"] (hquiet.trans hlog.symm)
    have hplain := hparts ["", "", "d", ".", "My Notes.txt", ""] (by decide)
    exact ⟨opened, bare, d, rfl, hbare, hlog, hlead, hmirror.trans hfound, hread, hplain.2.2⟩

end Session
end ThumbDrive

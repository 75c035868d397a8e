import ThumbDrive.Proofs.Directory
import ThumbDrive.Proofs.Partition
import ThumbDrive.Service.Method

/-! # Sessions on a device that fails

A session has one stream for all its directories, tables and files, and a call that fails leaves it
wherever it was.  Two sessions are `Alike` when they have the same volume on streams that show the
same window.  Every call keeps a session on a failing device alike the *same* session on the bare
disk, which has not moved at all; so whatever came before a call, its answer is measured against
the first answer of an untouched session.

The answer may differ in two ways only.  A failure of the device is told as one; or the device
reported an early end while a directory was read, which is taken for the end of the directory.  In
the second case the caller is not told: a listing is shortened, or something that is there is
not found.  A call during which no read fails gives the same answer as on a session just opened. -/
namespace ThumbDrive

/-! ## Answers beside answers -/

namespace Session
variable {σ α : Type}

/-- What an operation told its caller. -/
def answer : EStateM.Result StorageError σ α → Except StorageError α
  | .ok a _ => .ok a
  | .error e _ => .error e

/-- Where an operation left things. -/
def leaves : EStateM.Result StorageError σ α → σ
  | .ok _ s => s
  | .error _ s => s

theorem ok_of_answer {r : EStateM.Result StorageError σ α} {a : α} (h : answer r = .ok a) :
    ∃ s, r = .ok a s := by
  cases r with
  | ok b s =>
    cases h
    exact ⟨s, rfl⟩
  | error e s => cases h

end Session

open Session (answer leaves)

namespace Pairing
variable {σ τ α β : Type} (p : Pairing σ τ)

/-- **A caller is told**: what the undisturbed run answers; or that something failed below, if it
did; or less than there is, if an early end was reported from below.  The disturbed system is left
in a state of the kind `left`. -/
structure Told (short : Except StorageError α → Except StorageError α → Prop) (left : σ → Prop)
    (s : σ) (x : EStateM.Result StorageError σ α) (y : EStateM.Result StorageError τ α) :
    Prop where
  left : left (leaves x)
  account : ∃ es, p.Since es s (leaves x) ∧
    (answer x = answer y ∨ (es ≠ [] ∧ ∃ m, answer x = .error (.ioFailure m)) ∨
      ((∃ e ∈ es, e.kind = .unexpectedEof) ∧ short (answer x) (answer y)))

variable {p} {short : Except StorageError α → Except StorageError α → Prop} {left : σ → Prop}
  {s s₀ : σ} {x : EStateM.Result StorageError σ α} {y : EStateM.Result StorageError τ α}

/-- An answer may be seen as given at the end of a longer run. -/
theorem Told.after {es : List IoError} (h : p.Since es s₀ s) (ht : p.Told short left s x y) :
    p.Told short left s₀ x y := by
  obtain ⟨hleft, es', hs, hacc⟩ := ht
  refine ⟨hleft, es' ++ es, h.trans hs, hacc.imp_right (.imp ?_ ?_)⟩
  · rintro ⟨hne, hm⟩
    exact ⟨fun hnil => hne (List.append_eq_nil_iff.mp hnil).1, hm⟩
  · rintro ⟨⟨e, he, hk⟩, hshort⟩
    exact ⟨⟨e, List.mem_append_left _ he, hk⟩, hshort⟩

/-- Where nothing has failed below, the whole answer is told. -/
theorem Told.quiet (ht : p.Told short left s x y) (hq : p.failures (leaves x) = p.failures s) :
    answer x = answer y := by
  obtain ⟨-, es, hsince, hacc⟩ := ht
  have hnil : es = [] := by
    unfold Since at hsince
    rw [hq] at hsince
    exact List.append_left_eq_self.mp hsince.symm
  subst hnil
  rcases hacc with h | ⟨hne, -⟩ | ⟨⟨e, he, -⟩, -⟩
  · exact h
  · exact absurd rfl hne
  · cases he

end Pairing

variable {δ : Type} [BlockDevice δ] {Sound : δ → Prop} {failures : δ → List IoError} {w : Window}

/-! ## Files to their ends -/

namespace FileStream

/-- A chunk: the same from both, the same complaint about the volume, or a failure told as one. -/
theorem readChunk_cases (hd : FaultLog w.disk Sound failures) (f : FileStream)
    {s : BlockStream δ} {t : BlockStream Disk} (hst : (w.streams Sound failures).Rel s t) :
    (∃ chunk f' s' t' es, readChunk (f, s) = .ok chunk (f', s') ∧
      readChunk (f, t) = .ok chunk (f', t') ∧ (w.streams Sound failures).Rel s' t' ∧
      (w.streams Sound failures).Since es s s') ∨
    (∃ e f' s' t' es, readChunk (f, s) = .error e (f', s') ∧
      readChunk (f, t) = .error e (f', t') ∧ (w.streams Sound failures).Live s' ∧
      (w.streams Sound failures).Since es s s') ∨
    (∃ m f' s' es, readChunk (f, s) = .error (.ioFailure m) (f', s') ∧
      (w.streams Sound failures).Live s' ∧ (w.streams Sound failures).Since es s s' ∧
      es ≠ []) := by
  simp only [readChunk]
  cases f.cursor with
  | none => exact .inl ⟨_, _, _, _, [], rfl, rfl, hst, rfl⟩
  | some cursor =>
    cases f.want with
    | zero => exact .inl ⟨_, _, _, _, [], rfl, rfl, hst, rfl⟩
    | succ want =>
      dsimp only
      have hread :=
        FileCursor.reads_read hd f.volume (want + 1) (cursor, s) (cursor, t) ⟨rfl, hst⟩
      generalize FileCursor.read f.volume (want + 1) (cursor, s) = x,
        FileCursor.read f.volume (want + 1) (cursor, t) = y at hread ⊢
      cases hread with
      | @ok got s' t' es hr hs =>
        obtain ⟨c, s'⟩ := s'
        obtain ⟨c', t'⟩ := t'
        obtain ⟨rfl, hr⟩ : c = c' ∧ _ := hr
        cases got with
        | nil => exact .inl ⟨_, _, _, _, es, rfl, rfl, hr, hs⟩
        | cons b got => exact .inl ⟨_, _, _, _, es, rfl, rfl, hr, hs⟩
      | @error e s' t' es hr hs hk =>
        exact .inr (.inl ⟨_, _, _, _, es, rfl, rfl, ⟨_, hr.2⟩, hs⟩)
      | @failed e s' y es hr hs hne hend => exact .inr (.inr ⟨_, _, _, es, rfl, ⟨_, hr.2⟩, hs, hne⟩)

/-- Chunks to the end of a file.  A file is never cut. -/
theorem told_drain (hd : FaultLog w.disk Sound failures) (rounds : Nat) (got : List Bytes)
    (f : FileStream) {s : BlockStream δ} {t : BlockStream Disk}
    (hst : (w.streams Sound failures).Rel s t) :
    ((w.streams Sound failures).beside FileStream).Told (fun _ _ => False)
      (fun z => (w.streams Sound failures).Live z.2) (f, s)
      (ChunkSource.drain rounds got (f, s)) (ChunkSource.drain rounds got (f, t)) := by
  induction rounds generalizing got f s t with
  | zero => exact ⟨⟨t, hst⟩, [], rfl, .inl rfl⟩
  | succ rounds ih =>
    simp only [ChunkSource.drain, ChunkSource.readChunk]
    rcases readChunk_cases hd f hst
      with ⟨chunk, f', s', t', es, hx, hy, hr, hs⟩ | ⟨e, f', s', t', es, hx, hy, hl, hs⟩ |
        ⟨m, f', s', es, hx, hl, hs, hne⟩
    · rw [hx, hy]
      cases chunk with
      | nil => exact ⟨⟨t', hr⟩, es, hs, .inl rfl⟩
      | cons b chunk => exact (ih ((b :: chunk) :: got) f' hr).after (hs.beside f f')
    · rw [hx, hy]
      exact ⟨hl, es, hs, .inl rfl⟩
    · rw [hx]
      exact ⟨hl, es, hs, .inr (.inl ⟨hne, m, rfl⟩)⟩

theorem answer_contents (f : FileStream) (s : BlockStream δ) :
    answer (f.contents s) = answer (ChunkSource.readToEnd (f, s)) := by
  unfold contents
  cases ChunkSource.readToEnd (f, s) <;> rfl

theorem leaves_contents (f : FileStream) (s : BlockStream δ) :
    leaves (f.contents s) = (leaves (ChunkSource.readToEnd (f, s))).2 := by
  unfold contents
  cases ChunkSource.readToEnd (f, s) <;> rfl

/-- A file to its end. -/
theorem told_contents (hd : FaultLog w.disk Sound failures) (f : FileStream) {s : BlockStream δ}
    {t : BlockStream Disk} (hst : (w.streams Sound failures).Rel s t) :
    (w.streams Sound failures).Told (fun _ _ => False) (w.streams Sound failures).Live s
      (f.contents s) (f.contents t) := by
  obtain ⟨hlive, es, hsince, hacc⟩ := told_drain hd (f.totalSize - f.bytesRead + 1) [] f hst
  refine ⟨?_, es, ?_, ?_⟩
  · rw [leaves_contents]
    exact hlive
  · unfold Pairing.Since
    rw [leaves_contents]
    exact hsince
  · rw [answer_contents, answer_contents]
    exact hacc

end FileStream

namespace Session

/-! ## Directories, and what is done with what was found there -/

omit [BlockDevice δ] in
theorem inDirectory_bind {α β : Type} (act : IoOn (BlockStream δ) α)
    (f : α → EStateM StorageError (BlockStream δ) β) (s : BlockStream δ) :
    (inDirectory act >>= f) s =
      match act s with
      | .ok a s => f a s
      | .error e s => .error (.during "Couldn't read the directory" e) s := by
  simp only [bind, EStateM.bind, inDirectory]
  cases act s <;> rfl

omit [BlockDevice δ] in
/-- An operation on a directory, and then something else.  It is enough to say what becomes of a
cut of the first. -/
theorem told_inDirectory {α β : Type} {x : IoOn (BlockStream δ) α} {y : IoOn (BlockStream Disk) α}
    {cut : α → EStateM.Result IoError (BlockStream Disk) α → Prop}
    {short : Except StorageError β → Except StorageError β → Prop}
    {f : α → EStateM StorageError (BlockStream δ) β}
    {g : α → EStateM StorageError (BlockStream Disk) β}
    (hx : (w.streams Sound failures).FollowsOrCut cut x y)
    (hf : ∀ a s t, (w.streams Sound failures).Rel s t → (w.streams Sound failures).Told short
      (w.streams Sound failures).Live s (f a s) (g a t))
    (hcut : ∀ a s t, cut a (y t) → leaves (f a s) = s ∧
      short (answer (f a s)) (answer ((inDirectory y >>= g) t)))
    {s : BlockStream δ} {t : BlockStream Disk} (hst : (w.streams Sound failures).Rel s t) :
    (w.streams Sound failures).Told short (w.streams Sound failures).Live s
      ((inDirectory x >>= f) s) ((inDirectory y >>= g) t) := by
  rcases hx s t hst with hstep | hc
  · rw [inDirectory_bind, inDirectory_bind]
    generalize x s = rx, y t = ry at hstep ⊢
    cases hstep with
    | ok hr hs => exact (hf _ _ _ hr).after hs
    | @error e s' t' es hr hs hk => exact ⟨⟨t', hr⟩, es, hs, .inl rfl⟩
    | @failed e s' ry es hl hs hne hend => exact ⟨hl, es, hs, .inr (.inl ⟨hne, _, rfl⟩)⟩
  · obtain ⟨a, s', es, hx, hl, hs, hend, ha⟩ := hc.ended
    obtain ⟨hleaves, hshort⟩ := hcut a s' t ha
    rw [inDirectory_bind (δ := δ), hx]
    refine ⟨?_, es, ?_, .inr (.inr ⟨hend, hshort⟩)⟩
    · exact hleaves.symm ▸ hl
    · exact hleaves.symm ▸ hs

/-- A cut listing: the directory is not found, or an initial part of it is shown. -/
def ListingCut (path : String) (cut whole : Except StorageError (List Entry)) : Prop :=
  cut = .error (.notFound path) ∨
    ∃ shown, cut = .ok shown ∧ ∀ all, whole = .ok all → shown <+: all

/-- More entries, more children. -/
theorem visible_mono {shown all : List DirEntry} (h : shown <+: all) :
    visible shown <+: visible all := by
  obtain ⟨rest, rfl⟩ := h
  unfold visible
  rw [List.filter_append, List.map_append]
  exact List.prefix_append _ _

/-- The entries of a directory are shown. -/
theorem told_entries (hd : FaultLog w.disk Sound failures) (v : Volume) (d : Directory)
    (path : String) {s : BlockStream δ} {t : BlockStream Disk}
    (hst : (w.streams Sound failures).Rel s t) :
    (w.streams Sound failures).Told (ListingCut path) (w.streams Sound failures).Live s
      ((do return visible (← inDirectory (d.entries v))) s)
      ((do return visible (← inDirectory (d.entries v))) t) := by
  refine told_inDirectory (Directory.follows_entriesUntil hd v d fun _ => false) ?_ ?_ hst
  · intro entries s t hst
    exact ⟨⟨t, hst⟩, [], rfl, .inl rfl⟩
  · rintro shown s t ⟨-, hpre⟩
    refine ⟨rfl, .inr ⟨_, rfl, fun all hall => ?_⟩⟩
    rw [inDirectory_bind] at hall
    cases hy : d.entriesUntil v (fun _ => false) t with
    | error e t' =>
      rw [hy] at hall
      cases hall
    | ok entries t' =>
      rw [hy] at hall
      cases hall
      exact visible_mono (hpre entries t' hy)

/-- The contents of a file are handed over. -/
theorem told_contents (hd : FaultLog w.disk Sound failures) (f : FileStream)
    {short : Except StorageError (Option Bytes) → Except StorageError (Option Bytes) → Prop}
    {s : BlockStream δ} {t : BlockStream Disk} (hst : (w.streams Sound failures).Rel s t) :
    (w.streams Sound failures).Told short (w.streams Sound failures).Live s
      ((do return some (← f.contents)) s) ((do return some (← f.contents)) t) := by
  obtain ⟨hlive, es, hsince, hacc⟩ := FileStream.told_contents hd f hst
  simp only [bind, EStateM.bind]
  rcases hacc with hsame | ⟨hne, m, hm⟩ | ⟨-, hcut⟩
  · cases hx : f.contents s <;> cases hy : f.contents t <;>
      rw [hx] at hlive hsince hsame <;> rw [hy] at hsame <;> cases hsame
    · exact ⟨hlive, es, hsince, .inl rfl⟩
    · exact ⟨hlive, es, hsince, .inl rfl⟩
  · cases hx : f.contents s <;> rw [hx] at hlive hsince hm <;> cases hm
    exact ⟨hlive, es, hsince, .inr (.inl ⟨hne, m, rfl⟩)⟩
  · exact hcut.elim

/-! ## Sessions -/

/-- Sessions with the same volume, on streams that show the same window. -/
structure Alike (w : Window) (Sound : δ → Prop) (failures : δ → List IoError) (s : Session δ)
    (t : Session Disk) : Prop where
  mounted : ∃ v x y, s.state = .mounted v x ∧ t.state = .mounted v y ∧
    (w.streams Sound failures).Rel x y
  chunkSize : s.chunkSize = t.chunkSize

/-- Sessions side by side. -/
def pairing (w : Window) (Sound : δ → Prop) (failures : δ → List IoError) :
    Pairing (Session δ) (Session Disk) where
  Rel := Alike w Sound failures
  failures s := failures s.device

omit [BlockDevice δ] in
/-- What is told of a volume is told of a session with it.  The session on the failing device is
still alike the other one as it was before. -/
theorem told_onVolume {α : Type} {short : Except StorageError α → Except StorageError α → Prop}
    {x : Volume → EStateM StorageError (BlockStream δ) α}
    {y : Volume → EStateM StorageError (BlockStream Disk) α}
    (h : ∀ v s t, (w.streams Sound failures).Rel s t → (w.streams Sound failures).Told short
      (w.streams Sound failures).Live s (x v s) (y v t))
    {s : Session δ} {t : Session Disk} (hst : Alike w Sound failures s t) :
    (pairing w Sound failures).Told short (fun s' => Alike w Sound failures s' t) s
      (onVolume x s) (onVolume y t) := by
  obtain ⟨⟨v, a, b, hs, ht, hab⟩, hchunk⟩ := hst
  obtain ⟨hlive, es, hsince, hacc⟩ := h v a b hab
  have hrel := Window.streams_swap hlive hab
  have hdev : s.device = a.device := by simp only [device, hs]
  simp only [onVolume, hs, ht]
  -- the four ways in which the two operations may end differ only in where the parts stand
  cases hx : x v a <;> cases hy : y v b <;> rw [hx] at hrel hsince hacc <;> rw [hy] at hacc
  all_goals
    refine ⟨⟨⟨v, _, b, rfl, ht, hrel⟩, hchunk⟩, es, ?_, hacc⟩
    show failures _ = es ++ failures s.device
    rw [hdev]
    exact hsince

/-- A listing on a failing device. -/
theorem told_list (hd : FaultLog w.disk Sound failures) (path : String) {s : Session δ}
    {t : Session Disk} (hst : Alike w Sound failures s t) :
    (pairing w Sound failures).Told (ListingCut path) (fun s' => Alike w Sound failures s' t) s
      (list path s) (list path t) := by
  unfold list
  refine told_onVolume (fun v a b hab => ?_) hst
  refine told_inDirectory (Volume.follows_resolve hd v path) ?_ ?_ hab
  · intro node a b hab
    rcases node with _ | d | e
    · exact ⟨⟨b, hab⟩, [], rfl, .inl rfl⟩
    · exact told_entries hd v d path hab
    · exact ⟨⟨b, hab⟩, [], rfl, .inl rfl⟩
  · rintro node a b rfl
    exact ⟨rfl, .inl rfl⟩

/-- A file read on a failing device.  If it is cut, the file is not found. -/
theorem told_read (hd : FaultLog w.disk Sound failures) (path : String) {s : Session δ}
    {t : Session Disk} (hst : Alike w Sound failures s t) :
    (pairing w Sound failures).Told (fun cut _ => cut = .ok none)
      (fun s' => Alike w Sound failures s' t) s (read path s) (read path t) := by
  unfold read
  rw [hst.chunkSize]
  refine told_onVolume (fun v a b hab => ?_) hst
  refine told_inDirectory (Volume.follows_resolve hd v path) ?_ ?_ hab
  · intro node a b hab
    rcases node with _ | d | e
    · exact ⟨⟨b, hab⟩, [], rfl, .inl rfl⟩
    · exact ⟨⟨b, hab⟩, [], rfl, .inl rfl⟩
    · exact told_contents hd (fileStream v t.chunkSize e) hab
  · rintro node a b rfl
    exact ⟨rfl, rfl⟩

/-- A session on the failing device is opened only as one on the bare disk is, and on the same
partition. -/
theorem alike_mount_partition {k : Disk} (hd : FaultLog k Sound failures) {name : String} {d : δ}
    (hs : Sound d) {s : Session δ} (h : mount name d = .ok s) :
    ∃ w : Window, w.disk = k ∧
      (w.firstLba = s.partition.firstLba ∧ w.blockCount = s.partition.blockCount) ∧
      ∃ t : Session Disk, mount name k = .ok t ∧ Alike w Sound failures s t := by
  unfold mount at h
  rcases (follows_findPartition hd d k ⟨hs, rfl⟩).inv
    with ⟨found, d', k', es, hx, hy, ⟨hs', hk⟩, -⟩ | ⟨e, d', k', es, hx, -⟩ | ⟨e, d', es, hx, -⟩
  · subst hk
    rw [hx] at h
    rcases found with _ | ⟨q, block⟩
    · cases h
    · obtain ⟨hpos, hin⟩ := findPartition_disk hy
      let w : Window := ⟨k', q.firstLba, q.blockCount, hpos, hin⟩
      have hstep := Volume.follows_mount (w := w) hd
        { device := d', firstLba := q.firstLba, blockCount := q.blockCount }
        { device := k', firstLba := q.firstLba, blockCount := q.blockCount }
        ⟨⟨⟨BlockStream.shows_new hs', rfl⟩, BlockStream.shows_new rfl, rfl⟩, rfl⟩
      dsimp only at h
      rcases hstep.inv
        with ⟨v, x, y, es', hmx, hmy, hr, -⟩ | ⟨e, x, y, es', hmx, -⟩ | ⟨e, x, es', hmx, -⟩
      · rw [hmx] at h
        cases h
        refine ⟨w, rfl, ⟨rfl, rfl⟩, ?_⟩
        unfold mount
        rw [hy]
        dsimp only
        rw [hmy]
        exact ⟨_, rfl, ⟨v, x, y, rfl, rfl, hr.1⟩, rfl⟩
      · rw [hmx] at h
        cases h
      · rw [hmx] at h
        cases h
  · rw [hx] at h
    cases h
  · rw [hx] at h
    cases h

theorem alike_mount {k : Disk} (hd : FaultLog k Sound failures) {name : String} {d : δ}
    (hs : Sound d) {s : Session δ} (h : mount name d = .ok s) :
    ∃ w : Window, w.disk = k ∧
      ∃ t : Session Disk, mount name k = .ok t ∧ Alike w Sound failures s t := by
  obtain ⟨w, hw, -, halike⟩ := alike_mount_partition hd hs h
  exact ⟨w, hw, halike⟩

/-! ## Calls, one after the other -/

/-- What a call on a session answers. -/
inductive Reply where
  | entries (children : List Entry)
  | contents (data : Option Bytes)
  deriving DecidableEq, Repr

/-- Does a task in a session, which goes on afterwards. -/
def ask (s : Session δ) : FileTask → Except StorageError Reply × Session δ
  | .list path => ((answer (list path s)).map .entries, leaves (list path s))
  | .read path => ((answer (read path s)).map .contents, leaves (read path s))

/-- A session after some tasks. -/
def askAll (s : Session δ) (tasks : List FileTask) : Session δ :=
  tasks.foldl (fun s task => (s.ask task).2) s

/-- An answer short of the whole one.  A listing shows an initial part of what is there, or does
not find the directory; a read does not find the file. -/
def Short (answer whole : Except StorageError Reply) : FileTask → Prop
  | .list path => answer = .error (.notFound path) ∨
      ∃ shown, answer = .ok (.entries shown) ∧ ∀ all, whole = .ok (.entries all) → shown <+: all
  | .read _ => answer = .ok (.contents none)

/-- A call leaves the session alike the one it was alike before, and its answer is accounted for by
the reads that failed during the call. -/
theorem ask_step (hd : FaultLog w.disk Sound failures) {s : Session δ} {t : Session Disk}
    (hst : Alike w Sound failures s t) (task : FileTask) :
    Alike w Sound failures (s.ask task).2 t ∧
    ∃ es, failures (s.ask task).2.device = es ++ failures s.device ∧
      ((s.ask task).1 = (t.ask task).1 ∨
        (es ≠ [] ∧ ∃ m, (s.ask task).1 = .error (.ioFailure m)) ∨
        ((∃ e ∈ es, e.kind = .unexpectedEof) ∧ Short (s.ask task).1 (t.ask task).1 task)) := by
  cases task with
  | list path =>
    obtain ⟨halike, es, hsince, hacc⟩ := told_list hd path hst
    refine ⟨halike, es, hsince, hacc.imp ?_ (.imp ?_ ?_)⟩
    · intro h
      exact congrArg (Except.map Reply.entries) h
    · rintro ⟨hne, m, hm⟩
      exact ⟨hne, m, congrArg (Except.map Reply.entries) hm⟩
    · rintro ⟨hend, hcut | ⟨shown, hshown, hpre⟩⟩
      · exact ⟨hend, .inl (congrArg (Except.map Reply.entries) hcut)⟩
      · refine ⟨hend, .inr ⟨shown, congrArg (Except.map Reply.entries) hshown, fun all hall => ?_⟩⟩
        refine hpre all ?_
        simp only [ask] at hall
        cases hw : answer (list path t) with
        | error e =>
          rw [hw] at hall
          cases hall
        | ok children =>
          rw [hw] at hall
          cases hall
          rfl
  | read path =>
    obtain ⟨halike, es, hsince, hacc⟩ := told_read hd path hst
    refine ⟨halike, es, hsince, hacc.imp ?_ (.imp ?_ ?_)⟩
    · intro h
      exact congrArg (Except.map Reply.contents) h
    · rintro ⟨hne, m, hm⟩
      exact ⟨hne, m, congrArg (Except.map Reply.contents) hm⟩
    · rintro ⟨hend, hcut⟩
      exact ⟨hend, congrArg (Except.map Reply.contents) hcut⟩

/-- A call during which no read fails gives the whole answer. -/
theorem ask_quiet (hd : FaultLog w.disk Sound failures) {s : Session δ} {t : Session Disk}
    (hst : Alike w Sound failures s t) {task : FileTask}
    (hq : failures (s.ask task).2.device = failures s.device) :
    (s.ask task).1 = (t.ask task).1 := by
  cases task with
  | list path => exact congrArg (Except.map Reply.entries) ((told_list hd path hst).quiet hq)
  | read path => exact congrArg (Except.map Reply.contents) ((told_read hd path hst).quiet hq)

theorem alike_askAll (hd : FaultLog w.disk Sound failures) {s : Session δ} {t : Session Disk}
    (hst : Alike w Sound failures s t) (tasks : List FileTask) :
    Alike w Sound failures (s.askAll tasks) t := by
  induction tasks generalizing s with
  | nil => exact hst
  | cons task tasks ih => exact ih (ask_step hd hst task).1

/-- What a session answers whose root directory looks empty. -/
def emptyAnswer : FileTask → Except StorageError Reply
  | .list path =>
      if Path.components path = [] then .ok (.entries []) else .error (.notFound path)
  | .read path =>
      if Path.components path = [] then .error (.isADirectory path) else .ok (.contents none)

/-- If reading the first name of the root directory fails with an early end, the session answers as
if the directory were empty.  No caller is told of the failure. -/
theorem ask_early_end {s : Session δ} {v : Volume} {x : BlockStream δ}
    {z : DirCursor × BlockStream δ} {e : IoError} (hs : s.state = .mounted v x)
    (hname : readExact (DirCursor.read v) 11 (v.root.start, x) = .error e z)
    (hk : e.kind = .unexpectedEof) (task : FileTask) : (s.ask task).1 = emptyAnswer task := by
  have hroot : ∀ path, Path.components path = [] →
      v.resolve path x = .ok (some (.directory v.root)) x := by
    intro path hpath
    rw [Volume.resolve, hpath]
    rfl
  cases task with
  | list path =>
    simp only [ask, emptyAnswer, list, onVolume, hs, inDirectory_bind]
    by_cases hpath : Path.components path = []
    · have hentries : v.root.entries v x = .ok [] z.2 :=
        Directory.entriesUntil_early_end hname hk _
      rw [if_pos hpath, hroot path hpath]
      dsimp only
      rw [inDirectory_bind, hentries]
      rfl
    · rw [if_neg hpath, Volume.resolve_early_end hname hk hpath]
      rfl
  | read path =>
    simp only [ask, emptyAnswer, read, onVolume, hs, inDirectory_bind]
    by_cases hpath : Path.components path = []
    · rw [if_pos hpath, hroot path hpath]
      rfl
    · rw [if_neg hpath, Volume.resolve_early_end hname hk hpath]
      rfl

theorem openWith_ok {name : String} {granted : Bool} {d : δ} {s : Session δ}
    (h : openWith name granted (.ok d) = .ok s) : granted = true ∧ mount name d = .ok s := by
  cases granted with
  | false => cases h
  | true => exact ⟨rfl, h⟩

/-- **What a session answers on a device that fails.**  However reads fail, before a call and during
it, the answer is the one of a session just opened on the bare disk; or reads have failed during
the call, and the caller is told of a failure; or a read of the call has failed with an early end,
and the answer is short of the whole one.

The third happens on every device: if the first name of the root directory cannot be read for an
early end, the session answers as if nothing were on the disk. -/
theorem answer_on_failing_device {k : Disk} (hd : FaultLog k Sound failures) {name : String}
    {granted : Bool} {d : δ} (hs : Sound d) {opened : Session δ}
    (ho : openWith name granted (.ok d) = .ok opened) :
    ∃ bare : Session Disk, openWith name granted (.ok k) = .ok bare ∧
      ∀ (earlier : List FileTask) (task : FileTask),
        let s := opened.askAll earlier
        (∃ es, failures (s.ask task).2.device = es ++ failures s.device ∧
          ((s.ask task).1 = (bare.ask task).1 ∨
            (es ≠ [] ∧ ∃ m, (s.ask task).1 = .error (.ioFailure m)) ∨
            ((∃ e ∈ es, e.kind = .unexpectedEof) ∧
              Short (s.ask task).1 (bare.ask task).1 task))) ∧
        ∀ v x e z, s.state = .mounted v x →
          readExact (DirCursor.read v) 11 (v.root.start, x) = .error e z →
          e.kind = .unexpectedEof → (s.ask task).1 = emptyAnswer task := by
  obtain ⟨rfl, hmount⟩ := openWith_ok ho
  obtain ⟨w, rfl, bare, hbare, halike⟩ := alike_mount hd hs hmount
  refine ⟨bare, hbare, fun earlier task => ⟨?_, ?_⟩⟩
  · exact (ask_step hd (alike_askAll hd halike earlier) task).2
  · intro v x e z hstate hname hk
    exact ask_early_end hstate hname hk task

/-- Four blocks: a boot sector, an allocation table, a root directory with one file `A`, and the two
bytes of that file. -/
def smallDisk : Disk where
  image :=
    Image.zeros 2048
      |>.overlay 0 (.ofBytes [0xEB, 0x3C, 0x90, 0, 0, 0, 0, 0, 0, 0, 0,
        0, 2, 1, 1, 0, 1, 16, 0, 4, 0, 0xF8, 1, 0])
      |>.overlay 54 (.ofBytes (Bytes.ofAscii "FAT12   "))
      |>.overlay 510 (.ofBytes [0x55, 0xAA])
      |>.overlay 512 (.ofBytes [0xF8, 0xFF, 0xFF, 0xFF, 0x0F])
      |>.overlay 1024 (.ofBytes (Bytes.ofAscii "A          " ++
        [0x20, 0, 0, 0, 0, 0, 0, 0, 0, 0, 0, 0, 0, 0, 0, 2, 0, 2, 0, 0, 0]))
      |>.overlay 1536 (.ofBytes (Bytes.ofAscii "hi"))

/-- The block of the root directory fails with an early end.  The session opens, and shows an empty
directory as if nothing had happened; the file in it is not found. -/
theorem answer_on_failing_device_short :
    let probe : Logged Probe :=
      { device := { disk := smallDisk, faults := [⟨2, none, ⟨.unexpectedEof, "short"⟩⟩] } }
    ∃ (opened : Session (Logged Probe)) (bare : Session Disk),
      openWith "stick" true (.ok probe) = .ok opened ∧
      openWith "stick" true (.ok smallDisk) = .ok bare ∧
      (opened.ask (.list "/")).1.toOption = some (.entries []) ∧
      (bare.ask (.list "/")).1.toOption = some (.entries [⟨"A", false⟩]) ∧
      (opened.ask (.read "/a")).1.toOption = some (.contents none) ∧
      (bare.ask (.read "/a")).1.toOption = some (.contents (some (Bytes.ofAscii "hi"))) ∧
      ∃ es, (opened.ask (.list "/")).2.device.log = es ++ opened.device.log ∧
        ((opened.ask (.list "/")).1 = (bare.ask (.list "/")).1 ∨
          (es ≠ [] ∧ ∃ m, (opened.ask (.list "/")).1 = .error (.ioFailure m)) ∨
          ((∃ e ∈ es, e.kind = .unexpectedEof) ∧
            Short (opened.ask (.list "/")).1 (bare.ask (.list "/")).1 (.list "/"))) := by
  intro probe
  have hprobe : ((openWith "stick" true (.ok probe)).toOption.map fun s =>
      ((s.ask (.list "/")).1.toOption, (s.ask (.read "/a")).1.toOption)) =
      some (some (.entries []), some (.contents none)) := by decide +kernel
  have hdisk : ((openWith "stick" true (.ok smallDisk)).toOption.map fun s =>
      ((s.ask (.list "/")).1.toOption, (s.ask (.read "/a")).1.toOption)) =
      some (some (.entries [⟨"A", false⟩]), some (.contents (some (Bytes.ofAscii "hi")))) := by
    decide +kernel
  cases ho : openWith "stick" true (.ok probe) with
  | error r =>
    rw [ho] at hprobe
    cases hprobe
  | ok opened =>
    obtain ⟨bare, hbare, hall⟩ :=
      answer_on_failing_device (Logged.faultLog (Probe.fixedContents smallDisk)) (d := probe) rfl ho
    rw [ho] at hprobe
    rw [hbare] at hdisk
    obtain ⟨hlist, hread⟩ := Prod.mk.inj (Option.some.inj hprobe)
    obtain ⟨hlist', hread'⟩ := Prod.mk.inj (Option.some.inj hdisk)
    exact ⟨opened, bare, rfl, hbare, hlist, hlist', hread, hread', (hall [] (.list "/")).1⟩

/-- **Answers have no history.**  A call during which no read fails answers what it answers as the
first call, with no read failing, on any session opened on any device with the same contents:
whatever was asked before, and whatever failed then. -/
theorem quiet_answer_has_no_history {δ' : Type} [BlockDevice δ'] {k : Disk}
    {Sound' : δ' → Prop} {failures' : δ' → List IoError}
    (hd : FaultLog k Sound failures) (hd' : FaultLog k Sound' failures')
    {name : String} {granted : Bool} {d : δ} {d' : δ'} (hs : Sound d) (hs' : Sound' d')
    {opened : Session δ} {fresh : Session δ'}
    (ho : openWith name granted (.ok d) = .ok opened)
    (ho' : openWith name granted (.ok d') = .ok fresh)
    (earlier : List FileTask) (task : FileTask)
    (hq : failures ((opened.askAll earlier).ask task).2.device =
      failures (opened.askAll earlier).device)
    (hq' : failures' (fresh.ask task).2.device = failures' fresh.device) :
    ((opened.askAll earlier).ask task).1 = (fresh.ask task).1 := by
  obtain ⟨rfl, hmount⟩ := openWith_ok ho
  obtain ⟨-, hmount'⟩ := openWith_ok ho'
  obtain ⟨w, rfl, bare, hbare, halike⟩ := alike_mount hd hs hmount
  obtain ⟨w', hw, bare', hbare', halike'⟩ := alike_mount hd' hs' hmount'
  obtain rfl : bare = bare' := Except.ok.inj (hbare.symm.trans hbare')
  rw [← hw] at hd'
  exact (ask_quiet hd (alike_askAll hd halike earlier) hq).trans (ask_quiet hd' halike' hq').symm

/-- The first listing fails with the block of the root directory, and leaves its stream there.  The
read that comes next delivers what it delivers on a session just opened. -/
theorem quiet_answer_has_no_history_recovered :
    let probe : Logged Probe :=
      { device := { disk := smallDisk, faults := [⟨2, some 1, .other "unplugged"⟩] } }
    ∃ (opened : Session (Logged Probe)) (fresh : Session Disk),
      openWith "stick" true (.ok probe) = .ok opened ∧
      openWith "stick" true (.ok smallDisk) = .ok fresh ∧
      (opened.ask (.list "/")).1.toOption = none ∧
      (opened.askAll [.list "/"]).device.log = [.other "unplugged"] ∧
      (fresh.ask (.read "/a")).1.toOption = some (.contents (some (Bytes.ofAscii "hi"))) ∧
      ((opened.askAll [.list "/"]).ask (.read "/a")).1 = (fresh.ask (.read "/a")).1 := by
  intro probe
  have hprobe : ((openWith "stick" true (.ok probe)).toOption.map fun s =>
      ((s.ask (.list "/")).1.toOption, (s.askAll [.list "/"]).device.log,
        ((s.askAll [.list "/"]).ask (.read "/a")).2.device.log)) =
      some (none, [.other "unplugged"], [.other "unplugged"]) := by decide +kernel
  have hdisk : ((openWith "stick" true (.ok smallDisk)).toOption.map fun s =>
      (s.ask (.read "/a")).1.toOption) = some (some (.contents (some (Bytes.ofAscii "hi")))) := by
    decide +kernel
  cases ho : openWith "stick" true (.ok probe) with
  | error r =>
    rw [ho] at hprobe
    cases hprobe
  | ok opened =>
    cases ho' : openWith "stick" true (.ok smallDisk) with
    | error r =>
      rw [ho'] at hdisk
      cases hdisk
    | ok fresh =>
      rw [ho] at hprobe
      rw [ho'] at hdisk
      obtain ⟨hlist, hrest⟩ := Prod.mk.inj (Option.some.inj hprobe)
      obtain ⟨hlog, hquiet⟩ := Prod.mk.inj hrest
      exact ⟨opened, fresh, rfl, rfl, hlist, hlog, Option.some.inj hdisk,
        quiet_answer_has_no_history (Logged.faultLog (Probe.fixedContents smallDisk))
          (Disk.faultLog smallDisk) (d := probe) rfl rfl ho ho' [.list "/"] (.read "/a")
          (hquiet.trans hlog.symm) rfl⟩

end Session
end ThumbDrive

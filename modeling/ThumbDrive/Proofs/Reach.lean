import ThumbDrive.Proofs.Volume
import ThumbDrive.Session.Basic

/-! # What is done to a stream

Between a path and the block stream below it lie directories, slots, chains of clusters and the
allocation table, and a failure may end a call in any of them.  All of that does only two things to
the stream: it moves the position, and it reads.  `Reaches` collects what a stream can become that
way, and an operation `Uses` a stream if it leaves it in such a state, also when it fails.

Whatever holds of a stream and is kept by a move and by a read is therefore kept by every call on a
session.  No contents are assumed of the device: it may deliver something else each time. -/
namespace ThumbDrive

/-- Where an operation leaves things, whether it succeeds or fails. -/
def ending {ε σ α : Type} : EStateM.Result ε σ α → σ
  | .ok _ s => s
  | .error _ s => s

namespace IoOn
variable {σ α : Type}

theorem outcome_snd (x : IoOn σ α) (s : σ) : (outcome x s).2 = ending (x s) := by
  unfold outcome
  cases x s <;> rfl

end IoOn

/-- A sequence ends where its second part ends, or where its first part fails. -/
theorem ending_bind {ε σ α β : Type} (x : EStateM ε σ α) (f : α → EStateM ε σ β) (s : σ) :
    ending ((x >>= f) s) =
      match x s with
      | .ok a s => ending (f a s)
      | .error _ s => s := by
  simp only [bind, EStateM.bind]
  cases x s <;> rfl

variable {δ : Type} [BlockDevice δ]

namespace BlockStream

/-- What a stream becomes by being moved and read, however often, and whatever the reads bring. -/
inductive Reaches (s : BlockStream δ) : BlockStream δ → Prop where
  | start : Reaches s s
  | move {s' : BlockStream δ} (h : Reaches s s') (position : Nat) : Reaches s { s' with position }
  | read {s' : BlockStream δ} (h : Reaches s s') (n : Nat) : Reaches s (ending (s'.read n))

theorem Reaches.trans {s s' s'' : BlockStream δ} (h : Reaches s s') (h' : Reaches s' s'') :
    Reaches s s'' := by
  induction h' with
  | start => exact h
  | move _ position ih => exact ih.move position
  | read _ n ih => exact ih.read n

/-- An operation that only moves and reads the stream it works on. -/
def Uses {ε σ α : Type} (stream : σ → BlockStream δ) (x : EStateM ε σ α) : Prop :=
  ∀ s, Reaches (stream s) (stream (ending (x s)))

namespace Uses
variable {ε σ α β : Type} {stream : σ → BlockStream δ}

theorem pure (a : α) : Uses stream (pure a : EStateM ε σ α) := fun _ => .start

theorem throw (e : ε) : Uses stream (throw e : EStateM ε σ α) := fun _ => .start

theorem bind {x : EStateM ε σ α} {f : α → EStateM ε σ β} (hx : Uses stream x)
    (hf : ∀ a, Uses stream (f a)) : Uses stream (x >>= f) := by
  intro s
  have hreach := hx s
  rw [ending_bind]
  cases hs : x s with
  | ok a s' =>
    rw [hs] at hreach
    exact hreach.trans (hf a s')
  | error e s' =>
    rw [hs] at hreach
    exact hreach

/-- Filling a buffer takes as many reads as it takes. -/
theorem readWithin {read : Nat → IoOn σ Bytes} (h : ∀ n, Uses stream (read n)) (rounds n : Nat) :
    Uses stream (readWithin read rounds n) := by
  induction rounds generalizing n with
  | zero =>
    cases n with
    | zero => exact pure []
    | succ n => exact throw _
  | succ rounds ih =>
    cases n with
    | zero => exact pure []
    | succ n =>
      intro s
      have hread := h (n + 1) s
      simp only [ThumbDrive.readWithin]
      cases hs : read (n + 1) s with
      | error e s' =>
        rw [hs] at hread
        dsimp only
        split
        · exact hread.trans (ih (n + 1) s')
        · exact hread
      | ok got s' =>
        rw [hs] at hread
        cases got with
        | nil => exact hread
        | cons b got =>
          have hrest := hread.trans (ih (n + 1 - (b :: got).length) s')
          dsimp only
          cases hr : ThumbDrive.readWithin read rounds (n + 1 - (b :: got).length) s' <;>
            rw [hr] at hrest <;> exact hrest

theorem readExact {read : Nat → IoOn σ Bytes} (h : ∀ n, Uses stream (read n)) (n : Nat) :
    Uses stream (readExact read n) :=
  readWithin h _ n

theorem readPieces {read : Nat → IoOn σ Bytes} (h : ∀ n, Uses stream (read n))
    (lengths : List Nat) : Uses stream (readPieces read lengths) := by
  unfold ThumbDrive.readPieces
  generalize ([] : Bytes) = got
  induction lengths generalizing got with
  | nil => exact pure got
  | cons n lengths ih =>
    rw [List.foldlM_cons]
    exact ((readExact h n).bind fun piece => pure (got ++ piece)).bind ih

end Uses

theorem uses_read (n : Nat) : Uses id (read n : IoOn (BlockStream δ) Bytes) :=
  fun s => Reaches.start.read (s := s) n

theorem uses_place (position : Nat) :
    Uses id (modify fun s => { s with position } : IoOn (BlockStream δ) PUnit) :=
  fun s => Reaches.start.move (s := s) position

theorem uses_readAt (position n : Nat) :
    Uses id (readAt position n : IoOn (BlockStream δ) Bytes) :=
  (uses_place position).bind fun _ => uses_read n

end BlockStream

open BlockStream (Uses)

/-! ## Volumes -/

namespace Region

theorem uses_read (r : Region) (n : Nat) :
    Uses Prod.snd (r.read n : IoOn (Nat × BlockStream δ) Bytes) := by
  rintro ⟨offset, s⟩
  have hread := BlockStream.uses_readAt (r.start + offset) (min (r.size - offset) n) s
  rw [read_eq]
  cases hr : BlockStream.readAt (r.start + offset) (min (r.size - offset) n) s <;>
    rw [hr] at hread <;> exact hread

theorem uses_readExactAt (r : Region) (offset n : Nat) :
    Uses id (r.readExactAt offset n : IoOn (BlockStream δ) Bytes) := by
  intro s
  unfold readExactAt
  split
  · exact .start
  · have hread := Uses.readExact (uses_read r) n (offset, s)
    cases hr : readExact r.read n (offset, s) <;> rw [hr] at hread <;> exact hread

end Region

namespace Volume

theorem uses_nextCluster? (v : Volume) (cluster : Nat) :
    Uses id (v.nextCluster? cluster : IoOn (BlockStream δ) (Option Nat)) :=
  (Region.uses_readExactAt v.fat _ _).bind fun _ => Uses.pure _

theorem uses_expectMark (mark : Nat) (error : IoError) :
    Uses id (expectMark mark error : IoOn (BlockStream δ) Unit) := by
  refine (Uses.readExact BlockStream.uses_read 4).bind fun b => ?_
  split
  · exact Uses.throw error
  · exact Uses.pure _

theorem uses_checkInfoSector (r : BootRecord) :
    Uses id (checkInfoSector r : IoOn (BlockStream δ) Unit) :=
  (BlockStream.uses_place _).bind fun _ =>
    (uses_expectMark _ _).bind fun _ =>
      (Uses.readExact BlockStream.uses_read 480).bind fun _ =>
        (uses_expectMark _ _).bind fun _ =>
          (Uses.readPieces BlockStream.uses_read _).bind fun _ => uses_expectMark _ _

/-- A mount, whether it finds a volume or not. -/
theorem uses_mount : Uses id (mount : IoOn (BlockStream δ) Volume) := by
  have hreads := Uses.readPieces (δ := δ) BlockStream.uses_read
  unfold mount
  refine Uses.bind ?_ fun record => ?_
  · exact (hreads _).bind fun head => (hreads _).bind fun tail => Uses.pure _
  · split
    · exact Uses.throw _
    · split
      · exact (uses_checkInfoSector record).bind fun _ => Uses.pure _
      · exact Uses.pure _

end Volume

namespace FileCursor

theorem uses_cluster? (v : Volume) (f : FileCursor) :
    Uses id (f.cluster? v : IoOn (BlockStream δ) (Option Nat)) := by
  unfold cluster?
  split
  · cases f.current with
    | none => exact Uses.pure f.first
    | some cluster => exact Volume.uses_nextCluster? v cluster
  · exact Uses.pure f.current

theorem uses_read (v : Volume) (n : Nat) :
    Uses Prod.snd (read v n : IoOn (FileCursor × BlockStream δ) Bytes) := by
  rintro ⟨f, s⟩
  have hcluster := uses_cluster? v f s
  simp only [read]
  cases hc : f.cluster? v s with
  | error e s' =>
    rw [hc] at hcluster
    exact hcluster
  | ok cluster s' =>
    rw [hc] at hcluster
    cases cluster with
    | none => exact hcluster
    | some cluster =>
      dsimp only
      cases f.span v n with
      | zero => exact hcluster
      | succ count =>
        dsimp only
        have hread := hcluster.trans (BlockStream.uses_readAt
          (v.record.clusterStart cluster + f.offset % v.clusterSize) (count + 1) s')
        cases hr : BlockStream.readAt
            (v.record.clusterStart cluster + f.offset % v.clusterSize) (count + 1) s' with
        | error e s'' =>
          rw [hr] at hread
          exact hread
        | ok got s'' =>
          rw [hr] at hread
          cases got <;> exact hread

end FileCursor

/-! ## Directories -/

namespace DirCursor

theorem uses_read (v : Volume) (n : Nat) :
    Uses Prod.snd (read v n : IoOn (DirCursor × BlockStream δ) Bytes) := by
  rintro ⟨c, s⟩
  cases c with
  | fixed r offset =>
    have hread := Region.uses_read r n (offset, s)
    simp only [read]
    cases hr : r.read n (offset, s) <;> rw [hr] at hread <;> exact hread
  | chain f =>
    have hread := FileCursor.uses_read v n (f, s)
    simp only [read]
    cases hr : FileCursor.read v n (f, s) <;> rw [hr] at hread <;> exact hread

theorem uses_slot? (v : Volume) :
    Uses Prod.snd (slot? v : IoOn (DirCursor × BlockStream δ) (Option Slot)) := by
  have hrest : ∀ name : Bytes,
      Uses Prod.snd (slot?.rest v name : IoOn (DirCursor × BlockStream δ) (Option Slot)) :=
    fun name => (Uses.readExact (uses_read v) 1).bind fun attributes =>
      (Uses.readPieces (uses_read v) _).bind fun further => Uses.pure _
  intro t
  have hname := Uses.readExact (uses_read v) 11 t
  simp only [slot?]
  cases hr : readExact (read v) 11 t with
  | error e t' =>
    rw [hr] at hname
    dsimp only
    split <;> exact hname
  | ok name t' =>
    rw [hr] at hname
    exact hname.trans (hrest name t')

theorem uses_walk (v : Volume) (stop : DirEntry → Bool) (slots : Nat) (pending : PendingName)
    (seen : List DirEntry) :
    Uses Prod.snd
      (walk v stop slots pending seen : IoOn (DirCursor × BlockStream δ) (List DirEntry)) := by
  induction slots generalizing pending seen with
  | zero => exact Uses.pure _
  | succ slots ih =>
    intro t
    have hslot := uses_slot? v t
    simp only [walk]
    cases hs : slot? v t with
    | error e t' =>
      rw [hs] at hslot
      exact hslot
    | ok slot t' =>
      rw [hs] at hslot
      cases slot with
      | none => exact hslot
      | some slot =>
        dsimp only
        rcases absorb pending slot with ⟨_ | entry, pending'⟩
        · exact hslot.trans (ih pending' seen t')
        · dsimp only
          split
          · exact hslot
          · exact hslot.trans (ih pending' (entry :: seen) t')

end DirCursor

namespace Directory

theorem uses_entriesUntil (v : Volume) (d : Directory) (stop : DirEntry → Bool) :
    Uses id (d.entriesUntil v stop : IoOn (BlockStream δ) (List DirEntry)) := by
  intro s
  have hwalk := DirCursor.uses_walk v stop DirCursor.slotLimit {} [] (d.start, s)
  unfold entriesUntil
  cases hw : DirCursor.walk v stop DirCursor.slotLimit {} [] (d.start, s) <;>
    rw [hw] at hwalk <;> exact hwalk

theorem uses_find? (v : Volume) (d : Directory) (q : DirEntry → Bool) :
    Uses id (d.find? v q : IoOn (BlockStream δ) (Option DirEntry)) :=
  (uses_entriesUntil v d q).bind fun _ => Uses.pure _

end Directory

namespace Volume

theorem uses_walkFrom (v : Volume) (d : Directory) (components : List String) :
    Uses id (v.walkFrom d components : IoOn (BlockStream δ) (Option Node)) := by
  induction components generalizing d with
  | nil => exact Uses.pure _
  | cons c cs ih =>
    refine (Directory.uses_find? v d _).bind fun found => ?_
    cases found with
    | none => exact Uses.pure none
    | some e =>
      dsimp only
      cases v.nodeOf e with
      | directory d' => exact ih d'
      | file e' => exact Uses.pure _

theorem uses_resolve (v : Volume) (path : String) :
    Uses id (v.resolve path : IoOn (BlockStream δ) (Option Node)) :=
  uses_walkFrom v v.root _

end Volume

/-! ## Files and calls -/

namespace FileStream

theorem uses_readChunk :
    Uses Prod.snd (readChunk : EStateM StorageError (FileStream × BlockStream δ) Bytes) := by
  rintro ⟨f, s⟩
  simp only [readChunk]
  cases f.cursor with
  | none => exact .start
  | some cursor =>
    cases f.want with
    | zero => exact .start
    | succ want =>
      have hread := FileCursor.uses_read f.volume (want + 1) (cursor, s)
      dsimp only
      cases hr : FileCursor.read f.volume (want + 1) (cursor, s) with
      | error e t =>
        rw [hr] at hread
        exact hread
      | ok got t =>
        rw [hr] at hread
        cases got <;> exact hread

theorem uses_drain (rounds : Nat) (got : List Bytes) :
    Uses Prod.snd (ChunkSource.drain rounds got :
      EStateM StorageError (FileStream × BlockStream δ) Bytes) := by
  induction rounds generalizing got with
  | zero => exact Uses.pure _
  | succ rounds ih =>
    intro t
    have hchunk := uses_readChunk t
    simp only [ChunkSource.drain, ChunkSource.readChunk]
    cases hr : readChunk t with
    | error e t' =>
      rw [hr] at hchunk
      exact hchunk
    | ok chunk t' =>
      rw [hr] at hchunk
      cases chunk with
      | nil => exact hchunk
      | cons b chunk => exact hchunk.trans (ih ((b :: chunk) :: got) t')

theorem uses_contents (f : FileStream) :
    Uses id (f.contents : EStateM StorageError (BlockStream δ) Bytes) := by
  intro s
  have hdrain := uses_drain (ChunkSource.chunksLeft (f, s) + 1) [] (f, s)
  simp only [contents, ChunkSource.readToEnd]
  cases hr : ChunkSource.drain (ChunkSource.chunksLeft (f, s) + 1) [] (f, s) <;>
    rw [hr] at hdrain <;> exact hdrain

end FileStream

namespace Session

theorem uses_inDirectory {α : Type} {x : IoOn (BlockStream δ) α} (h : Uses id x) :
    Uses id (inDirectory x) := by
  intro s
  have hx := h s
  unfold inDirectory
  cases hr : x s <;> rw [hr] at hx <;> exact hx

/-- **A call on the volume of a session is made of moves and reads.**  A session without a volume
is left as it is. -/
theorem onVolume_reaches {α : Type} {act : Volume → EStateM StorageError (BlockStream δ) α}
    (h : ∀ v, Uses id (act v)) (s : Session δ) :
    match s.state with
    | .closed _ => ending (onVolume act s) = s
    | .mounted v x => ∃ y, BlockStream.Reaches x y ∧
        ending (onVolume act s) = { s with state := .mounted v y } := by
  cases hs : s.state with
  | closed d => simp only [onVolume, hs, ending]
  | mounted v x =>
    have hact := h v x
    simp only [onVolume, hs]
    cases hr : act v x <;> rw [hr] at hact <;> exact ⟨_, hact, rfl⟩

theorem list_reaches (path : String) (s : Session δ) :
    match s.state with
    | .closed _ => ending (list path s) = s
    | .mounted v x => ∃ y, BlockStream.Reaches x y ∧
        ending (list path s) = { s with state := .mounted v y } := by
  refine onVolume_reaches (fun v => ?_) s
  refine (uses_inDirectory (Volume.uses_resolve v path)).bind fun node => ?_
  rcases node with _ | d | e
  · exact Uses.throw _
  · exact (uses_inDirectory (Directory.uses_entriesUntil v d _)).bind fun _ => Uses.pure _
  · exact Uses.throw _

theorem read_reaches (path : String) (s : Session δ) :
    match s.state with
    | .closed _ => ending (read path s) = s
    | .mounted v x => ∃ y, BlockStream.Reaches x y ∧
        ending (read path s) = { s with state := .mounted v y } := by
  refine onVolume_reaches (fun v => ?_) s
  refine (uses_inDirectory (Volume.uses_resolve v path)).bind fun node => ?_
  rcases node with _ | d | e
  · exact Uses.pure none
  · exact Uses.throw _
  · exact (FileStream.uses_contents _).bind fun _ => Uses.pure _

end Session
end ThumbDrive

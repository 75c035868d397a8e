import ThumbDrive.Proofs.Volume
import ThumbDrive.Session.Path

/-! # Directories on a device that fails

A directory ends where the name of a slot ends early, and an error of that kind from the device
looks the same.  So a walk through a directory does not quite follow the walk on the bare disk: it
may be **cut**.  A cut walk has met an error of that kind on the device, and shows an initial part
of what it would have shown; nothing is read after the cut.  Whoever looks for an entry does not
find it then, and a path leads nowhere.

That is all that can go wrong: a walk that is not cut is in step.  And it does go wrong: a directory
whose first name cannot be read for an early end looks empty (`entriesUntil_early_end`). -/
namespace ThumbDrive

namespace Pairing
variable {σ τ α β : Type} (p : Pairing σ τ)

/-- A run from `s` that took an early end reported from below for an end of its own.  Its answer is
`short` of what the undisturbed run came to. -/
structure Cut (short : α → EStateM.Result IoError τ α → Prop) (s : σ)
    (x : EStateM.Result IoError σ α) (y : EStateM.Result IoError τ α) : Prop where
  ended : ∃ a s' es, x = .ok a s' ∧ p.Live s' ∧ p.Since es s s' ∧
    (∃ e ∈ es, e.kind = .unexpectedEof) ∧ short a y

/-- An operation that follows its undisturbed twin, unless it is cut. -/
def FollowsOrCut (short : α → EStateM.Result IoError τ α → Prop) (x : IoOn σ α) (y : IoOn τ α) :
    Prop :=
  ∀ s t, p.Rel s t → p.InStep p.Live s (x s) (y t) ∨ p.Cut short s (x s) (y t)

variable {p}

/-- A cut run may be seen as the end of a longer one. -/
theorem Cut.after {short : α → EStateM.Result IoError τ α → Prop} {s₀ s : σ} {es : List IoError}
    {x : EStateM.Result IoError σ α} {y : EStateM.Result IoError τ α} (h : p.Since es s₀ s)
    (hc : p.Cut short s x y) : p.Cut short s₀ x y := by
  obtain ⟨a, s', es', hx, hl, hs, ⟨e, he, hk⟩, ha⟩ := hc.ended
  exact ⟨a, s', es' ++ es, hx, hl, h.trans hs, ⟨e, List.mem_append_left _ he, hk⟩, ha⟩

end Pairing

variable {δ : Type} [BlockDevice δ] {Sound : δ → Prop} {failures : δ → List IoError} {w : Window}

namespace DirCursor

theorem reads_read (hd : FaultLog w.disk Sound failures) (v : Volume) :
    ((w.streams Sound failures).beside DirCursor).Reads (read v) (read v) := by
  rintro n ⟨c, s⟩ ⟨c', t⟩ ⟨hc, hst⟩
  obtain rfl : c = c' := hc
  cases c with
  | fixed r offset =>
    simp only [read]
    have hread := Region.reads_read hd r n (offset, s) (offset, t) ⟨rfl, hst⟩
    generalize r.read n (offset, s) = x, r.read n (offset, t) = y at hread ⊢
    cases hread with
    | ok hr hs => exact .ok ⟨congrArg (DirCursor.fixed r) hr.1, hr.2⟩ hs
    | error hr hs hk => exact .error ⟨congrArg (DirCursor.fixed r) hr.1, hr.2⟩ hs hk
    | failed hr hs hne hend =>
      exact .failed ⟨congrArg (DirCursor.fixed r) hr.1, hr.2⟩ hs hne hend
  | chain f =>
    simp only [read]
    have hread := FileCursor.reads_read hd v n (f, s) (f, t) ⟨rfl, hst⟩
    generalize FileCursor.read v n (f, s) = x, FileCursor.read v n (f, t) = y at hread ⊢
    cases hread with
    | ok hr hs => exact .ok ⟨congrArg DirCursor.chain hr.1, hr.2⟩ hs
    | error hr hs hk => exact .error ⟨congrArg DirCursor.chain hr.1, hr.2⟩ hs hk
    | failed hr hs hne hend => exact .failed ⟨congrArg DirCursor.chain hr.1, hr.2⟩ hs hne hend

theorem follows_rest (hd : FaultLog w.disk Sound failures) (v : Volume) (name : Bytes) :
    ((w.streams Sound failures).beside DirCursor).Follows (slot?.rest v name)
      (slot?.rest v name) := by
  have hreads := reads_read hd v
  unfold slot?.rest
  exact (hreads.readExact 1).bind fun _ => (hreads.readPieces _).bind fun _ =>
    Pairing.Follows.pure _

/-- The next slot follows, unless the device reports an early end while the name is read: then
there is no next slot. -/
theorem follows_slot? (hd : FaultLog w.disk Sound failures) (v : Volume) :
    ((w.streams Sound failures).beside DirCursor).FollowsOrCut (fun slot _ => slot = none)
      (slot? v) (slot? v) := by
  intro s t hst
  simp only [slot?]
  have hname := (reads_read hd v).readExact 11 s t hst
  generalize readExact (read v) 11 s = x, readExact (read v) 11 t = y at hname ⊢
  cases hname with
  | ok hr hs => exact .inl ((follows_rest hd v _ _ _ hr).after hs)
  | error hr hs hk =>
    dsimp only
    split
    · exact .inl (.ok hr hs)
    · exact .inl (.error hr hs hk)
  | @failed e s' y es hr hs hne hend =>
    dsimp only
    split
    · next hk => exact .inr ⟨none, s', es, rfl, hr, hs, ⟨e, hend hk, hk⟩, rfl⟩
    · exact .inl (.failed hr hs hne hend)

/-! ## Walks -/

/-- The entries met before stay in front. -/
theorem walk_extends (v : Volume) (stop : DirEntry → Bool) {slots : Nat} {pending : PendingName}
    {seen all : List DirEntry} {t t' : DirCursor × BlockStream δ}
    (h : walk v stop slots pending seen t = .ok all t') : seen.reverse <+: all := by
  induction slots generalizing pending seen t with
  | zero =>
    cases h
    exact List.prefix_rfl
  | succ slots ih =>
    simp only [walk] at h
    split at h
    · cases h
    · cases h
      exact List.prefix_rfl
    · have hcons : ∀ e : DirEntry, seen.reverse <+: (e :: seen).reverse := fun e => by
        rw [List.reverse_cons]
        exact List.prefix_append _ _
      split at h
      · exact ih h
      · next entry _ _ =>
        split at h
        · cases h
          exact hcons entry
        · exact (hcons entry).trans (ih h)

/-- What a cut walk shows: entries met before, entries with which nobody was content, and an
initial part of what the whole walk shows. -/
def WalkShort (stop : DirEntry → Bool) (seen shown : List DirEntry)
    (y : EStateM.Result IoError (DirCursor × BlockStream Disk) (List DirEntry)) : Prop :=
  (∀ e ∈ shown, e ∈ seen ∨ stop e = false) ∧ ∀ all t, y = .ok all t → shown <+: all

theorem follows_walk (hd : FaultLog w.disk Sound failures) (v : Volume) (stop : DirEntry → Bool)
    (slots : Nat) (pending : PendingName) (seen : List DirEntry) :
    ((w.streams Sound failures).beside DirCursor).FollowsOrCut (WalkShort stop seen)
      (walk v stop slots pending seen) (walk v stop slots pending seen) := by
  induction slots generalizing pending seen with
  | zero => exact fun s t hst => .inl (.ok hst (Pairing.Since.refl s))
  | succ slots ih =>
    intro s t hst
    have hpre : ∀ all t', walk v stop (slots + 1) pending seen t = .ok all t' →
        seen.reverse <+: all := fun all t' h => walk_extends v stop h
    simp only [walk] at hpre ⊢
    have hslot := follows_slot? hd v s t hst
    generalize slot? v s = x, slot? v t = y at hslot hpre ⊢
    rcases hslot with hstep | hcut
    · cases hstep with
      | @ok slot s' t' es hr hs =>
        cases slot with
        | none => exact .inl (.ok hr hs)
        | some slot =>
          dsimp only
          rcases absorb pending slot with ⟨_ | entry, pending'⟩
          · exact (ih pending' seen s' t' hr).imp (·.after hs) (·.after hs)
          · dsimp only
            by_cases hstop : stop entry = true
            · rw [if_pos hstop, if_pos hstop]
              exact .inl (.ok hr hs)
            · rw [if_neg hstop, if_neg hstop]
              refine (ih pending' (entry :: seen) s' t' hr).imp (·.after hs) fun hc => ?_
              -- the entry just met is one with which nobody was content
              obtain ⟨shown, s₁, es₁, hx₁, hl, hs₁, hend, hmem, hinit⟩ := (hc.after hs).ended
              refine ⟨shown, s₁, es₁, hx₁, hl, hs₁, hend, fun e he => ?_, hinit⟩
              rcases hmem e he with hm | hm
              · rcases List.mem_cons.mp hm with rfl | hm
                · exact .inr (Bool.not_eq_true _ ▸ hstop)
                · exact .inl hm
              · exact .inr hm
      | error hr hs hk => exact .inl (.error hr hs hk)
      | failed hr hs hne hend => exact .inl (.failed hr hs hne hend)
    · obtain ⟨slot, s', es, rfl, hl, hs, hend, rfl⟩ := hcut.ended
      refine .inr ⟨seen.reverse, s', es, rfl, hl, hs, hend, fun e he => ?_, hpre⟩
      exact .inl (List.mem_reverse.mp he)

end DirCursor

namespace Directory

/-- What a cut look through a directory shows: entries with which nobody was content, an initial
part of what the whole look shows. -/
def LookShort (stop : DirEntry → Bool) (shown : List DirEntry)
    (y : EStateM.Result IoError (BlockStream Disk) (List DirEntry)) : Prop :=
  (∀ e ∈ shown, stop e = false) ∧ ∀ all t, y = .ok all t → shown <+: all

theorem follows_entriesUntil (hd : FaultLog w.disk Sound failures) (v : Volume) (d : Directory)
    (stop : DirEntry → Bool) :
    (w.streams Sound failures).FollowsOrCut (LookShort stop) (d.entriesUntil v stop)
      (d.entriesUntil v stop) := by
  intro s t hst
  unfold entriesUntil
  rcases DirCursor.follows_walk hd v stop DirCursor.slotLimit {} [] (d.start, s) (d.start, t)
    ⟨rfl, hst⟩ with hwalk | hcut
  · generalize DirCursor.walk v stop DirCursor.slotLimit {} [] (d.start, s) = x,
      DirCursor.walk v stop DirCursor.slotLimit {} [] (d.start, t) = y at hwalk ⊢
    cases hwalk with
    | ok hr hs => exact .inl (.ok hr.2 hs)
    | error hr hs hk => exact .inl (.error hr.2 hs hk)
    | failed hr hs hne hend =>
      obtain ⟨⟨c, t'⟩, -, hr⟩ := hr
      exact .inl (.failed ⟨t', hr⟩ hs hne hend)
  · obtain ⟨shown, s', es, hx, ⟨t', hr⟩, hs, hend, hmem, hpre⟩ := hcut.ended
    rw [hx]
    refine .inr ⟨shown, s'.2, es, rfl, ⟨t'.2, hr.2⟩, hs, hend, fun e he => ?_, ?_⟩
    · rcases hmem e he with hm | hm
      · cases hm
      · exact hm
    · intro all t₁ hy
      split at hy
      · next hw =>
        cases hy
        exact hpre _ _ hw
      · cases hy

/-- A directory looks empty if reading its first name fails with an early end. -/
theorem entriesUntil_early_end {v : Volume} {d : Directory} {s : BlockStream δ}
    {z : DirCursor × BlockStream δ} {e : IoError}
    (hname : readExact (DirCursor.read v) 11 (d.start, s) = .error e z)
    (hk : e.kind = .unexpectedEof) (stop : DirEntry → Bool) :
    d.entriesUntil v stop s = .ok [] z.2 := by
  obtain ⟨n, hn⟩ : ∃ n, DirCursor.slotLimit = n + 1 := ⟨DirCursor.slotLimit - 1, rfl⟩
  have hslot : DirCursor.slot? v (d.start, s) = .ok none z := by
    simp only [DirCursor.slot?, hname, if_pos hk]
  simp only [entriesUntil, hn, DirCursor.walk, hslot, List.reverse_nil]

/-- Looking for an entry follows, unless the look is cut: then the entry is not found. -/
theorem follows_find? (hd : FaultLog w.disk Sound failures) (v : Volume) (d : Directory)
    (q : DirEntry → Bool) :
    (w.streams Sound failures).FollowsOrCut (fun found _ => found = none) (d.find? v q)
      (d.find? v q) := by
  intro s t hst
  unfold find?
  rcases follows_entriesUntil hd v d q s t hst with hlook | hcut
  · rw [IoOn.bind_apply, IoOn.bind_apply]
    generalize d.entriesUntil v q s = x, d.entriesUntil v q t = y at hlook ⊢
    cases hlook with
    | ok hr hs => exact .inl (.ok hr hs)
    | error hr hs hk => exact .inl (.error hr hs hk)
    | failed hr hs hne hend => exact .inl (.failed hr hs hne hend)
  · obtain ⟨shown, s', es, hx, hl, hs, hend, hmem, -⟩ := hcut.ended
    rw [IoOn.bind_ok hx]
    refine .inr ⟨none, s', es, ?_, hl, hs, hend, rfl⟩
    have hnone : shown.find? q = none := by
      refine List.find?_eq_none.mpr fun e he => ?_
      rw [hmem e he]
      exact Bool.false_ne_true
    rw [IoOn.pure_apply, hnone]

end Directory

namespace Volume

/-- Following a path follows, unless a look on the way is cut: then the path leads nowhere. -/
theorem follows_walkFrom (hd : FaultLog w.disk Sound failures) (v : Volume) (d : Directory)
    (components : List String) :
    (w.streams Sound failures).FollowsOrCut (fun node _ => node = none)
      (v.walkFrom d components) (v.walkFrom d components) := by
  induction components generalizing d with
  | nil => exact fun s t hst => .inl (.ok hst (Pairing.Since.refl s))
  | cons c cs ih =>
    intro s t hst
    simp only [walkFrom]
    rcases Directory.follows_find? hd v d (DirEntry.answersTo c) s t hst with hfind | hcut
    · rw [IoOn.bind_apply, IoOn.bind_apply]
      generalize d.find? v (DirEntry.answersTo c) s = x, d.find? v (DirEntry.answersTo c) t = y
        at hfind ⊢
      cases hfind with
      | @ok found s' t' es hr hs =>
        cases found with
        | none => exact .inl (.ok hr hs)
        | some e =>
          dsimp only
          cases v.nodeOf e with
          | directory d' => exact (ih d' s' t' hr).imp (·.after hs) (·.after hs)
          | file e' => exact .inl (.ok hr hs)
      | error hr hs hk => exact .inl (.error hr hs hk)
      | failed hr hs hne hend => exact .inl (.failed hr hs hne hend)
    · obtain ⟨found, s', es, hx, hl, hs, hend, rfl⟩ := hcut.ended
      rw [IoOn.bind_ok hx]
      exact .inr ⟨none, s', es, rfl, hl, hs, hend, rfl⟩

theorem follows_resolve (hd : FaultLog w.disk Sound failures) (v : Volume) (path : String) :
    (w.streams Sound failures).FollowsOrCut (fun node _ => node = none) (v.resolve path)
      (v.resolve path) :=
  follows_walkFrom hd v v.root (Path.components path)

/-- No path leads out of a root directory that looks empty. -/
theorem resolve_early_end {v : Volume} {s : BlockStream δ} {z : DirCursor × BlockStream δ}
    {e : IoError} (hname : readExact (DirCursor.read v) 11 (v.root.start, s) = .error e z)
    (hk : e.kind = .unexpectedEof) {path : String} (hpath : Path.components path ≠ []) :
    v.resolve path s = .ok none z.2 := by
  unfold resolve
  cases hc : Path.components path with
  | nil => exact absurd hc hpath
  | cons c cs =>
    have hfind : v.root.find? v (DirEntry.answersTo c) s = .ok none z.2 := by
      rw [Directory.find?, IoOn.bind_ok (Directory.entriesUntil_early_end hname hk _)]
      rfl
    rw [walkFrom, IoOn.bind_ok hfind]
    rfl

end Volume
end ThumbDrive

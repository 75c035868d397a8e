import ThumbDrive.Proofs.Session

/-! # Sessions on a device that does not fail

On a device that has the contents of a disk and never fails, everything follows the bare disk: a
session is opened or refused as on the disk, for the same reason, and every call is answered as on
the disk.  An `interview` is all that can be learned in this way. -/
namespace ThumbDrive

/-- Nothing fails on the way if there are no failures at all. -/
theorem Pairing.InStep.quiet {σ τ α : Type} {p : Pairing σ τ} {ruin : σ → Prop} {s : σ}
    {x : EStateM.Result IoError σ α} {y : EStateM.Result IoError τ α}
    (hp : ∀ s, p.failures s = []) (h : p.InStep ruin s x y) :
    (∃ a s' t', x = .ok a s' ∧ y = .ok a t' ∧ p.Rel s' t') ∨
    (∃ e s' t', x = .error e s' ∧ y = .error e t' ∧ p.Rel s' t') := by
  cases h with
  | ok hr hs => exact .inl ⟨_, _, _, rfl, rfl, hr⟩
  | error hr hs hk => exact .inr ⟨_, _, _, rfl, rfl, hr⟩
  | failed hr hs hne hend =>
    unfold Since at hs
    rw [hp, hp, List.append_nil] at hs
    exact absurd hs.symm hne

namespace Session
variable {δ : Type} [BlockDevice δ] {k : Disk} {Sound : δ → Prop} {w : Window}

/-- The answers to tasks done one after the other. -/
def answers (s : Session δ) : List FileTask → List (Except StorageError Reply)
  | [] => []
  | task :: tasks => (s.ask task).1 :: answers (s.ask task).2 tasks

/-- Opens a session and does some tasks: why it was refused, or what it has answered. -/
def interview (name : String) (granted : Bool) (device : Except IoError δ)
    (tasks : List FileTask) : Except StorageError (List (Except StorageError Reply)) :=
  match openWith name granted device with
  | .error refusal => .error refusal.error
  | .ok s => .ok (s.answers tasks)

/-- The session on the disk need not move for its answers to be known. -/
theorem answers_eq_map (hd : FaultLog w.disk Sound fun _ => []) {s : Session δ} {t : Session Disk}
    (hst : Alike w Sound (fun _ => []) s t) (tasks : List FileTask) :
    s.answers tasks = tasks.map fun task => (t.ask task).1 := by
  induction tasks generalizing s with
  | nil => rfl
  | cons task tasks ih =>
    have hfirst : (s.ask task).1 = (t.ask task).1 := ask_quiet hd hst rfl
    have hrest := ih (ask_step hd hst task).1
    rw [answers, List.map_cons, hfirst, hrest]

/-- A mount that is refused is refused on the disk, for the same reason. -/
theorem mount_refused (hd : FaultLog k Sound fun _ => []) {name : String} {d : δ} (hs : Sound d)
    {r : Refusal δ} (h : mount name d = .error r) :
    ∃ r', mount name k = .error r' ∧ r'.error = r.error := by
  unfold mount at h ⊢
  rcases (follows_findPartition hd d k ⟨hs, rfl⟩).quiet fun _ => rfl
    with ⟨found, d', k', hx, hy, hs', hk⟩ | ⟨e, d', k', hx, hy, -⟩
  · subst hk
    rw [hx] at h
    rw [hy]
    rcases found with _ | ⟨q, block⟩
    · cases h
      exact ⟨_, rfl, rfl⟩
    · obtain ⟨hpos, hin⟩ := findPartition_disk hy
      let w : Window := ⟨k', q.firstLba, q.blockCount, hpos, hin⟩
      have hstep := Volume.follows_mount (w := w) hd
        { device := d', firstLba := q.firstLba, blockCount := q.blockCount }
        { device := k', firstLba := q.firstLba, blockCount := q.blockCount }
        ⟨⟨⟨BlockStream.shows_new hs', rfl⟩, BlockStream.shows_new rfl, rfl⟩, rfl⟩
      dsimp only at h ⊢
      rcases hstep.quiet fun _ => rfl with ⟨v, x, y, hmx, hmy, -⟩ | ⟨e, x, y, hmx, hmy, -⟩
      · rw [hmx] at h
        cases h
      · rw [hmx] at h
        rw [hmy]
        cases h
        exact ⟨_, rfl, rfl⟩
  · rw [hx] at h
    rw [hy]
    cases h
    exact ⟨_, rfl, rfl⟩

/-- **A device that never fails is told from the disk with its contents by no interview.** -/
theorem interview_eq (hd : FaultLog k Sound fun _ => []) (name : String) (granted : Bool) {d : δ}
    (hs : Sound d) (tasks : List FileTask) :
    interview name granted (.ok d) tasks = interview name granted (.ok k) tasks := by
  cases granted with
  | false => rfl
  | true =>
    have hopen : openWith name true (.ok d) = mount name d := rfl
    have hopen' : openWith name true (.ok k) = mount name k := rfl
    unfold interview
    rw [hopen, hopen']
    cases hm : mount name d with
    | error r =>
      obtain ⟨r', hr', herror⟩ := mount_refused hd hs hm
      rw [hr']
      exact congrArg Except.error herror.symm
    | ok s =>
      obtain ⟨w, rfl, t, ht, halike⟩ := alike_mount hd hs hm
      obtain ⟨w', hw, t', ht', halike'⟩ := alike_mount (Disk.faultLog w.disk) rfl ht
      obtain rfl : t' = t := Except.ok.inj (ht'.symm.trans ht)
      have hdisk := Disk.faultLog w.disk
      rw [← hw] at hdisk
      rw [ht]
      dsimp only
      rw [answers_eq_map hd halike, ← answers_eq_map hdisk (hw ▸ halike')]

end Session
end ThumbDrive

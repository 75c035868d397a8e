import ThumbDrive.Proofs.Locks

/-! # Calls come to rest

Things happen from outside, and time passes, when the rounds of the schedule are over.  There is a
number of rounds for that, and it is enough: after them no call is at work, whatever it was about
(`atRest_settle`).  All that is left are calls that wait for the user, and calls that are over.

A call has so many steps to go (`Phase.toGo`), and its step leaves it fewer.  Nobody else's step
changes that.  While some call has steps to go, some call with steps to go is ready: that call, or
the one that holds the lock it waits for.  So every round leaves the calls fewer steps together.

A wait for the user does not count.  It may be ready again after its step, and at the same moment,
if no time is to pass between two polls; a round then does nothing but poll. -/
namespace ThumbDrive

/-! ## Steps to go -/

/-- The steps that a worker has to go, and its call after it. -/
def Worker.toGo : Worker → Nat
  | .starting => 5
  | .permitted => 4
  | .serving _ => 3
  | .done _ => 2

/-- The most steps that a call has to go until it waits for the user or is over. -/
def Phase.toGo : Phase → Nat
  | .listing => 8
  | .listed _ => 7
  | .queued .. => 6
  | .working _ _ _ w => w.toGo
  | .freed .. => 1
  | _ => 0

/-- Who holds a lock has steps to go, and does not wait for one. -/
theorem Phase.working_of_held {p : Phase} {lock : LockId} (h : p.held? = some lock) :
    0 < p.toGo ∧ ∀ device task lock', p ≠ .queued device task lock' := by
  cases p with
  | working device task lock' w =>
    refine ⟨?_, nofun⟩
    cases w <;> exact Nat.succ_pos _
  | _ => cases h

theorem Phase.toGo_le (p : Phase) : p.toGo ≤ 8 := by
  have hworker : ∀ w : Worker, w.toGo ≤ 8 := fun w => by cases w <;> simp [Worker.toGo]
  cases p with
  | working device task lock w => exact hworker w
  | _ => simp [toGo]

namespace Call

/-- The steps that calls have to go together. -/
def toGo (calls : List Call) : Nat := calls.foldr (fun c n => c.phase.toGo + n) 0

theorem toGo_cons (c : Call) (calls : List Call) : toGo (c :: calls) = c.phase.toGo + toGo calls :=
  rfl

theorem toGo_modify {calls : List Call} {i : Nat} {c : Call} (h : calls[i]? = some c)
    (f : Call → Call) :
    toGo (calls.modify i f) + c.phase.toGo = toGo calls + (f c).phase.toGo := by
  induction calls generalizing i with
  | nil => cases h
  | cons c₀ calls ih =>
    cases i with
    | zero =>
      cases h
      rw [List.modify_zero_cons, toGo_cons, toGo_cons]
      omega
    | succ i =>
      have hrest := ih (List.getElem?_cons_succ ▸ h)
      rw [List.modify_succ_cons, toGo_cons, toGo_cons]
      omega

theorem toGo_le (calls : List Call) : toGo calls ≤ 8 * calls.length := by
  induction calls with
  | nil => exact Nat.le_refl _
  | cons c calls ih =>
    have hle := c.phase.toGo_le
    rw [toGo_cons, List.length_cons]
    omega

theorem exists_of_toGo_pos {calls : List Call} (h : 0 < toGo calls) :
    ∃ c ∈ calls, 0 < c.phase.toGo := by
  induction calls with
  | nil => cases h
  | cons c calls ih =>
    by_cases hc : 0 < c.phase.toGo
    · exact ⟨c, List.mem_cons_self, hc⟩
    · rw [toGo_cons] at h
      obtain ⟨c', hmem, hc'⟩ := ih (by omega)
      exact ⟨c', List.mem_cons_of_mem c hmem, hc'⟩

end Call

namespace Service
variable {π : Type}

/-- The steps that the calls of a service have to go. -/
def toGo (s : Service π) : Nat := Call.toGo s.calls

/-- No call is at work: each of them waits for the user, or is over. -/
def AtRest (s : Service π) : Prop := s.toGo = 0

theorem AtRest.phase {s : Service π} (h : s.AtRest) {c : Call} (hc : c ∈ s.calls) :
    c.phase.toGo = 0 := by
  unfold AtRest toGo at h
  generalize s.calls = calls at h hc
  induction calls with
  | nil => cases hc
  | cons c₀ calls ih =>
    rw [Call.toGo_cons] at h
    rcases List.mem_cons.mp hc with rfl | hmem
    · omega
    · exact ih (by omega) hmem

variable [Host π] [Registry π]

omit [Host π] [Registry π] in
theorem toGo_phaseOf (device : DeviceInfo) (n : Negotiation) : (phaseOf device n).toGo = 0 := by
  cases n <;> rfl

omit [Host π] in
theorem resolve_goes_on (s : Service π) (i : Nat) (m : Method) (r : Job (List DeviceInfo)) :
    ∃ p : Phase, (s.resolve i m r).calls = s.calls.modify i (fun c => { c with phase := p }) ∧
      p.toGo ≤ 6 := by
  cases r with
  | crashed message => cases m <;> exact ⟨_, rfl, Nat.zero_le _⟩
  | finished devices =>
    cases m with
    | getDevices => exact ⟨_, rfl, Nat.zero_le _⟩
    | onDevice v p task =>
      simp only [resolve]
      cases Discovery.find? devices v p with
      | none => exact ⟨_, rfl, Nat.zero_le _⟩
      | some device =>
        cases task with
        | hasPermission => exact ⟨_, rfl, Nat.zero_le _⟩
        | requestPermission =>
          exact ⟨_, rfl, Nat.le_trans (Nat.le_of_eq (toGo_phaseOf device _)) (Nat.zero_le _)⟩
        | files task =>
          obtain ⟨hcalls, -⟩ :=
            lockOf_frame { s with desk := s.desk.retain devices } device.deviceName
          exact ⟨_, congrArg (List.modify · i _) hcalls, Nat.le_refl _⟩

/-- A worker has fewer steps to go after each. -/
theorem toGo_work (s : Service π) (device : DeviceInfo) (task : FileTask) (w : Worker)
    (hw : ∀ r, w ≠ .done r) : (s.work device task w).1.toGo ≤ w.toGo - 1 := by
  have hdone : ∀ r, (Worker.done r).toGo ≤ 3 := fun r => by simp [Worker.toGo]
  cases w with
  | starting =>
    show (if (Desk.hasPermission device s.desk).1 then Worker.permitted else .done _).toGo ≤ 4
    split
    · exact Nat.le_refl _
    · exact Nat.le_succ_of_le (hdone _)
  | permitted =>
    dsimp only [work]
    split
    · exact hdone _
    · exact hdone _
    · exact Nat.le_refl _
  | serving medium => exact Nat.le_refl _
  | done r => exact absurd rfl (hw r)

omit [Host π] in
theorem isReady_queued {s : Service π} {i : Nat} {c : Call} (hi : s.calls[i]? = some c)
    {device : DeviceInfo} {task : FileTask} {lock : LockId}
    (hp : c.phase = .queued device task lock) : s.isReady i = !s.isHeld lock := by
  simp only [isReady, hi, hp]

omit [Host π] in
/-- A call with steps to go is ready, if it does not wait for a lock. -/
theorem isReady_of_toGo {s : Service π} {i : Nat} {c : Call} (hi : s.calls[i]? = some c)
    (h : 0 < c.phase.toGo) (hlock : ∀ device task lock, c.phase ≠ .queued device task lock) :
    s.isReady i = true := by
  simp only [isReady, hi]
  cases hp : c.phase with
  | queued device task lock => exact absurd hp (hlock device task lock)
  | listing => rfl
  | listed r => rfl
  | working device task lock w => rfl
  | freed device r => rfl
  | _ =>
    rw [hp] at h
    cases h

/-- **A step takes a call further**, unless it waits for a lock or for the user. -/
theorem step_goes_on {s : Service π} {i : Nat} {c : Call} (hi : s.calls[i]? = some c) :
    ((s.step i).calls = s.calls ∧ (s.isReady i = true → c.phase.toGo = 0)) ∨
      ∃ p : Phase, (s.step i).calls = s.calls.modify i (fun c => { c with phase := p }) ∧
        p.toGo ≤ c.phase.toGo - 1 := by
  unfold step
  rw [hi]
  dsimp only
  cases hp : c.phase with
  | listing => exact .inr ⟨_, rfl, Nat.le_refl _⟩
  | listed r => exact .inr (resolve_goes_on s i c.method r)
  | negotiating device w => exact .inr ⟨_, rfl, Nat.le_of_eq (toGo_phaseOf device _)⟩
  | queued device task lock =>
    dsimp only
    by_cases hheld : s.isHeld lock = true
    · refine .inl ⟨by rw [if_pos hheld], fun hready => ?_⟩
      rw [isReady_queued hi hp, hheld] at hready
      cases hready
    · exact .inr ⟨_, by rw [if_neg hheld]; rfl, Nat.le_refl _⟩
  | working device task lock w =>
    have hwork : ∀ p, ((s.work device task w).2.setPhase i p).calls =
        s.calls.modify i fun c => { c with phase := p } :=
      fun p => congrArg (List.modify · i _) (calls_work s device task w)
    cases w with
    | done r =>
      refine .inr ⟨_, rfl, ?_⟩
      split
      · exact Nat.zero_le _
      · exact Nat.le_refl _
    | starting =>
      exact .inr ⟨_, hwork _, toGo_work s device task .starting fun _ h => by cases h⟩
    | permitted =>
      exact .inr ⟨_, hwork _, toGo_work s device task .permitted fun _ h => by cases h⟩
    | serving medium =>
      exact .inr ⟨_, hwork _, toGo_work s device task (.serving medium) fun _ h => by cases h⟩
  | freed device r =>
    exact .inr ⟨_, congrArg (List.modify · i _) (s.prune_frame device.deviceName).1, Nat.le_refl _⟩
  | _ => exact .inl ⟨rfl, fun _ => rfl⟩

/-- A call with steps to go that can do one. -/
def CanGo (s : Service π) (i : Nat) : Prop :=
  s.isReady i = true ∧ ∃ c, s.calls[i]? = some c ∧ 0 < c.phase.toGo

/-- A step leaves the calls no more steps to go. -/
theorem toGo_step_le (s : Service π) (i : Nat) : (s.step i).toGo ≤ s.toGo := by
  unfold toGo
  cases hi : s.calls[i]? with
  | none =>
    have hsame : s.step i = s := by simp only [step, hi]
    exact Nat.le_of_eq (congrArg Service.toGo hsame)
  | some c =>
    rcases step_goes_on hi with ⟨hcalls, -⟩ | ⟨p, hcalls, hp⟩
    · exact Nat.le_of_eq (congrArg Call.toGo hcalls)
    · have hsum := Call.toGo_modify hi fun c => { c with phase := p }
      rw [hcalls]
      dsimp only at hsum
      omega

theorem CanGo.step_lt {s : Service π} {i : Nat} (h : s.CanGo i) : (s.step i).toGo < s.toGo := by
  obtain ⟨hready, c, hi, hpos⟩ := h
  unfold toGo
  rcases step_goes_on hi with ⟨-, hnone⟩ | ⟨p, hcalls, hp⟩
  · have hzero := hnone hready
    omega
  · have hsum := Call.toGo_modify hi fun c => { c with phase := p }
    rw [hcalls]
    dsimp only at hsum
    omega

/-- A step that leaves no fewer steps to go is that of a call without any.  It changes none of the
others, and takes no lock. -/
theorem steady_of_not_lt {s : Service π} {i j : Nat} {c : Call}
    (h : ¬ (s.step j).toGo < s.toGo) (hi : s.calls[i]? = some c) (hpos : 0 < c.phase.toGo) :
    (s.step j).calls[i]? = some c ∧
      ∀ lock, (s.step j).isHeld lock = true → s.isHeld lock = true := by
  cases hj : s.calls[j]? with
  | none =>
    have hsame : s.step j = s := by simp only [step, hj]
    rw [hsame]
    exact ⟨hi, fun _ => id⟩
  | some c' =>
    rcases step_goes_on hj with ⟨hcalls, -⟩ | ⟨p, hcalls, hp⟩
    · unfold isHeld
      rw [hcalls]
      exact ⟨hi, fun _ => id⟩
    · have hsum := Call.toGo_modify hj fun c => { c with phase := p }
      dsimp only at hsum
      unfold toGo at h
      rw [hcalls] at h
      have hnone : c'.phase.toGo = 0 ∧ p.toGo = 0 := by omega
      have hne : j ≠ i := by
        rintro rfl
        cases hi.symm.trans hj
        omega
      unfold isHeld
      rw [hcalls]
      refine ⟨?_, fun lock hheld => ?_⟩
      · rw [List.getElem?_modify, hi]
        exact congrArg some (if_neg hne)
      · obtain ⟨c₁, hmem, hc₁⟩ := List.any_eq_true.mp hheld
        obtain ⟨k, hk⟩ := List.mem_iff_getElem?.mp hmem
        rcases modify_cases hk with ⟨-, c₀, -, rfl⟩ | ⟨-, hold⟩
        · have hworks := Phase.working_of_held (beq_iff_eq.mp hc₁)
          have hworking : 0 < p.toGo := hworks.1
          omega
        · exact List.any_eq_true.mpr ⟨c₁, List.mem_of_getElem? hold, hc₁⟩

/-- A step of another call leaves fewer steps to go, or does not stand in the way. -/
theorem CanGo.keep {s : Service π} {i : Nat} (h : s.CanGo i) (j : Nat) :
    (s.step j).toGo < s.toGo ∨ (s.step j).CanGo i := by
  obtain ⟨hready, c, hi, hpos⟩ := h
  by_cases hless : (s.step j).toGo < s.toGo
  · exact .inl hless
  · right
    obtain ⟨hi', hheld⟩ := steady_of_not_lt hless hi hpos
    refine ⟨?_, c, hi', hpos⟩
    by_cases hlock : ∃ device task lock, c.phase = .queued device task lock
    · obtain ⟨device, task, lock, hp⟩ := hlock
      rw [isReady_queued hi hp, Bool.not_eq_true'] at hready
      rw [isReady_queued hi' hp, Bool.not_eq_true']
      exact Bool.eq_false_iff.mpr fun h => Bool.false_ne_true (hready.symm.trans (hheld lock h))
    · exact isReady_of_toGo hi' hpos fun device task lock hp => hlock ⟨device, task, lock, hp⟩

omit [Host π] in
/-- **Someone can go on.**  A call with steps to go is ready, or waits for a lock whose holder is
ready. -/
theorem exists_canGo {s : Service π} (h : 0 < s.toGo) : ∃ i, s.CanGo i := by
  obtain ⟨c, hmem, hc⟩ := Call.exists_of_toGo_pos h
  obtain ⟨i, hi⟩ := List.mem_iff_getElem?.mp hmem
  by_cases hlock : ∃ device task lock, c.phase = .queued device task lock
  · obtain ⟨device, task, lock, hp⟩ := hlock
    by_cases hheld : s.isHeld lock = true
    · obtain ⟨c', hmem', hc'⟩ := List.any_eq_true.mp hheld
      obtain ⟨j, hj⟩ := List.mem_iff_getElem?.mp hmem'
      have hworks := Phase.working_of_held (beq_iff_eq.mp hc')
      exact ⟨j, isReady_of_toGo hj hworks.1 hworks.2, c', hj, hworks.1⟩
    · refine ⟨i, ?_, c, hi, hc⟩
      rw [isReady_queued hi hp, (Bool.not_eq_true _).mp hheld]
      rfl
  · exact ⟨i, isReady_of_toGo hi hc fun device task lock hp => hlock ⟨device, task, lock, hp⟩,
      c, hi, hc⟩

/-! ## Rounds -/

/-- A step, if the call is ready. -/
def tryStep (s : Service π) (i : Nat) : Service π :=
  if Concurrent.isReady s i then Concurrent.step i s else s

theorem toGo_foldl_le (s : Service π) (l : List Nat) : (l.foldl tryStep s).toGo ≤ s.toGo := by
  induction l generalizing s with
  | nil => exact Nat.le_refl _
  | cons j l ih =>
    rw [List.foldl_cons]
    refine Nat.le_trans (ih _) ?_
    unfold tryStep
    split
    · exact toGo_step_le s j
    · exact Nat.le_refl _

/-- A part of a round in which some call can go on. -/
theorem CanGo.foldl_lt {s : Service π} {i : Nat} (h : s.CanGo i) {l : List Nat} (hi : i ∈ l) :
    (l.foldl tryStep s).toGo < s.toGo := by
  induction l generalizing s with
  | nil => cases hi
  | cons j l ih =>
    rw [List.foldl_cons]
    have hrest := toGo_foldl_le (s.tryStep j) l
    by_cases hready : Concurrent.isReady s j = true
    · have hstep : s.tryStep j = s.step j := if_pos hready
      rw [hstep] at hrest ⊢
      have hle := toGo_step_le s j
      rcases List.mem_cons.mp hi with rfl | hi
      · have hlt := h.step_lt
        omega
      · rcases h.keep j with hlt | hkept
        · omega
        · have hlt := ih hkept hi
          omega
    · have hsame : s.tryStep j = s := if_neg hready
      rw [hsame]
      rcases List.mem_cons.mp hi with rfl | hi
      · exact absurd h.1 hready
      · exact ih h hi

omit [Host π] in
theorem CanGo.lt_length {s : Service π} {i : Nat} (h : s.CanGo i) : i < s.calls.length := by
  obtain ⟨-, c, hc, -⟩ := h
  exact (List.getElem?_eq_some_iff.mp hc).1

/-- **A round leaves fewer steps to go**, until none are left. -/
theorem toGo_round {s : Service π} (h : 0 < s.toGo) : (Schedule.round s).toGo < s.toGo := by
  obtain ⟨i, hi⟩ := exists_canGo h
  exact hi.foldl_lt (List.mem_range.mpr hi.lt_length)

/-- **Calls come to rest** in the rounds of the schedule. -/
theorem atRest_settle (s : Service π) : (Schedule.settle (Schedule.rounds s) s).AtRest := by
  have hsettle : ∀ n (s : Service π), s.toGo ≤ n → (Schedule.settle n s).AtRest := by
    intro n
    induction n with
    | zero => exact fun s h => Nat.le_zero.mp h
    | succ n ih =>
      intro s h
      have hround : (Schedule.round s).toGo ≤ n := by
        by_cases hpos : 0 < s.toGo
        · have hlt := toGo_round hpos
          omega
        · have hle : (Schedule.round s).toGo ≤ s.toGo := toGo_foldl_le s _
          omega
      rw [Schedule.settle]
      split
      · exact ih _ hround
      · next hidle =>
        refine Nat.eq_zero_of_not_pos fun hpos => hidle ?_
        obtain ⟨i, hi⟩ := exists_canGo hpos
        exact List.any_eq_true.mpr ⟨i, List.mem_range.mpr hi.lt_length, hi.1⟩
  refine hsettle _ s (Nat.le_trans (Call.toGo_le s.calls) ?_)
  show 8 * s.calls.length ≤ 16 * (s.calls.length + 1)
  omega

end Service
end ThumbDrive

import ThumbDrive.Proofs.Conduct
import ThumbDrive.Proofs.Kinds
import ThumbDrive.Proofs.Rest

/-! # What a call may answer

Every operation has its answers, and its ways to fail, each with what the machine has said for it to
come about (`Fits`).  A call carries its answer through several phases before it is over, and what
fits the operation has to be known in all of them: `Underway` ties the phases of a call to its
operation, a step goes on in it (`onward_step`), and nobody else moves the call.

A call that asks nobody is answered in the rounds of the schedule (`answered_settle`), before any
time passes, whatever other calls are under way. -/
namespace ThumbDrive

namespace Session
variable {δ : Type} [BlockDevice δ]

/-- A device is mounted, or its session is refused for want of a partition or for a failure. -/
theorem mount_cases (name : String) (d : δ) :
    (∃ s v x, mount name d = .ok s ∧ s.state = .mounted v x) ∨
      ∃ refusal, mount name d = .error refusal ∧
        (refusal.error = .noPartition name ∨ ∃ m, refusal.error = .ioFailure m) := by
  unfold mount
  split
  · exact .inr ⟨_, rfl, .inr ⟨_, rfl⟩⟩
  · exact .inr ⟨_, rfl, .inl rfl⟩
  · dsimp only
    split
    · exact .inr ⟨_, rfl, .inr ⟨_, rfl⟩⟩
    · exact .inl ⟨_, _, _, rfl, rfl⟩

end Session

namespace FileTask
variable {δ : Type} [BlockDevice δ]

/-- No work on files ends in the complaint that an argument is wrong. -/
theorem run_ne_invalidArgument (task : FileTask) (name : String) (d : δ) (text : String) :
    task.run name d ≠ .error (.invalidArgument text) := by
  intro h
  unfold run at h
  rcases Session.mount_cases name d with ⟨s, v, x, hs, hstate⟩ | ⟨refusal, hrefusal, hkind⟩
  · rw [hs] at h
    have hagree := Session.agree_mounted hstate
    cases task with
    | list path =>
      have herror : (s.ask (.list path)).1 = .error (.invalidArgument text) := by
        simp only [runIn] at h
        split at h <;> cases h
        next hl =>
          simp only [Session.ask, hl]
          rfl
      rcases (hagree path).errors.1 _ herror with h | h | ⟨m, h⟩ <;> cases h
    | read path =>
      have herror : (s.ask (.read path)).1 = .error (.invalidArgument text) := by
        simp only [runIn] at h
        split at h <;> cases h
        next hr =>
          simp only [Session.ask, hr]
          rfl
      rcases (hagree path).errors.2 _ herror with h | ⟨m, h⟩ <;> cases h
  · rw [hrefusal] at h
    injection h with h
    rcases hkind with hkind | ⟨m, hkind⟩
    · cases hkind.symm.trans h
    · cases hkind.symm.trans h

end FileTask

namespace Service
variable {π : Type} [Host π] [Registry π]

section Fits
-- how the machine has been since the call was made
variable (Past : π → Prop)

/-- What the worker that lists the devices of the machine comes back with. -/
inductive Listed : Job (List DeviceInfo) → Prop where
  | finished {machine : π} {r : Except IoError (List Attached)} (h : Past machine)
      (hr : (Host.attached machine).1 = .finished r) : Listed (.finished (Discovery.devices r))
  | crashed {machine : π} {message : String} (h : Past machine)
      (hr : (Host.attached machine).1 = .crashed message) : Listed (.crashed message)

/-- The device that is meant by two ids. -/
def Meant (v p : UInt16) (device : DeviceInfo) : Prop :=
  ∃ ds, Listed Past (.finished ds) ∧ Discovery.find? ds v p = some device

/-- Whether there is access to the device that is meant. -/
def Permits (v p : UInt16) (device : DeviceInfo) (granted : Bool) : Prop :=
  Meant Past v p device ∧
    ∃ machine, Past machine ∧ (Registry.hasPermission device machine).1 = granted

/-- What comes of opening the device that is meant. -/
def Opens (v p : UInt16) (device : DeviceInfo) (r : Job (Except IoError Medium)) : Prop :=
  Meant Past v p device ∧ ∃ machine, Past machine ∧ (Host.openDevice device machine).1 = r

/-- Why there is no device to go on with. -/
inductive Lost (v p : UInt16) : StorageError → Prop where
  | notListed {message : String} (h : Listed Past (.crashed message)) :
      Lost v p (crashError message)
  | notFound {ds : List DeviceInfo} (h : Listed Past (.finished ds))
      (hnone : Discovery.find? ds v p = none) : Lost v p (.deviceNotFound v p)

/-- Why nothing is done on the device that is meant. -/
inductive Barred (v p : UInt16) : StorageError → Prop where
  | refused {device : DeviceInfo} (h : Permits Past v p device false) :
      Barred v p (.permissionDenied device.deviceName)
  | crashed {device : DeviceInfo} {message : String}
      (h : Opens Past v p device (.crashed message)) : Barred v p (crashError message)
  | notOpened {device : DeviceInfo} {e : IoError}
      (h : Opens Past v p device (.finished (.error e))) : Barred v p (Session.notOpened e)

/-- **The answers of an operation.** -/
inductive Fits : Method → Except StorageError Answer → Prop where
  | devices {ds : List DeviceInfo} (h : Listed Past (.finished ds)) :
      Fits .getDevices (.ok (.devices ds))
  | noDevices {message : String} (h : Listed Past (.crashed message)) :
      Fits .getDevices (.ok (.devices []))
  | lost {v p : UInt16} {e : StorageError} (task : DeviceTask) (h : Lost Past v p e) :
      Fits (.onDevice v p task) (.error e)
  | looked {v p : UInt16} {device : DeviceInfo} {granted : Bool}
      (h : Permits Past v p device granted) :
      Fits (.onDevice v p .hasPermission) (.ok (.granted granted))
  | negotiated {v p : UInt16} {device : DeviceInfo} (h : Meant Past v p device)
      (r : Except IoError PermissionOutcome) :
      Fits (.onDevice v p .requestPermission) (answerOf device r)
  | barred {v p : UInt16} {e : StorageError} (task : FileTask) (h : Barred Past v p e) :
      Fits (.onDevice v p (.files task)) (.error e)
  | served {v p : UInt16} {device : DeviceInfo} {medium : Medium} (task : FileTask)
      (h : Opens Past v p device (.finished (.ok medium))) :
      Fits (.onDevice v p (.files task)) (task.run device.deviceName medium)

/-- **A call on its way** to an answer that fits its operation. -/
inductive Underway : Method → Phase → Prop where
  | listing (m : Method) : Underway m .listing
  | listed {r : Job (List DeviceInfo)} (m : Method) (h : Listed Past r) : Underway m (.listed r)
  | negotiating {v p : UInt16} {device : DeviceInfo} (h : Meant Past v p device) (w : Wait) :
      Underway (.onDevice v p .requestPermission) (.negotiating device w)
  | queued {v p : UInt16} {device : DeviceInfo} (h : Meant Past v p device) (task : FileTask)
      (lock : LockId) : Underway (.onDevice v p (.files task)) (.queued device task lock)
  | starting {v p : UInt16} {device : DeviceInfo} (h : Meant Past v p device) (task : FileTask)
      (lock : LockId) : Underway (.onDevice v p (.files task)) (.working device task lock .starting)
  | permitted {v p : UInt16} {device : DeviceInfo} (h : Meant Past v p device) (task : FileTask)
      (lock : LockId) :
      Underway (.onDevice v p (.files task)) (.working device task lock .permitted)
  | serving {v p : UInt16} {device : DeviceInfo} {medium : Medium}
      (h : Opens Past v p device (.finished (.ok medium))) (task : FileTask) (lock : LockId) :
      Underway (.onDevice v p (.files task)) (.working device task lock (.serving medium))
  | done {m : Method} {r : Job (Except StorageError Answer)} (h : Fits Past m (resultOf r))
      (device : DeviceInfo) (task : FileTask) (lock : LockId) :
      Underway m (.working device task lock (.done r))
  | freed {m : Method} {r : Job (Except StorageError Answer)} (h : Fits Past m (resultOf r))
      (device : DeviceInfo) : Underway m (.freed device r)
  | ended {m : Method} {r : Except StorageError Answer} (h : Fits Past m r) : Underway m (.over r)
  | dropped (m : Method) : Underway m .dropped

end Fits

variable {Past : π → Prop}

/-- Who was understood is not told that an argument is wrong. -/
theorem Fits.ne_invalidArgument {m : Method} {r : Except StorageError Answer} (h : Fits Past m r)
    (text : String) : r ≠ .error (.invalidArgument text) := by
  cases h with
  | lost task h => cases h <;> exact nofun
  | negotiated h r =>
    unfold answerOf
    split <;> exact nofun
  | barred task h => cases h <;> exact nofun
  | served task h => exact task.run_ne_invalidArgument _ _ text
  | _ => exact nofun

variable {s : Service π} {i : Nat} {c : Call}

theorem underway_phaseOf {v p : UInt16} {device : DeviceInfo} (h : Meant Past v p device)
    (n : Negotiation) : Underway Past (.onDevice v p .requestPermission) (phaseOf device n) := by
  cases n with
  | waiting w => exact .negotiating h w
  | ended r => exact .ended (.negotiated h r)

omit [Host π] [Registry π] in
theorem phaseOf_ne_dropped (device : DeviceInfo) (n : Negotiation) :
    phaseOf device n ≠ .dropped := by
  cases n <;> exact nofun

omit [Registry π] in
/-- A worker lists the devices. -/
theorem listed_list (hnow : Past s.desk.registry) (i : Nat) :
    ∃ r, (s.list i).calls = s.calls.modify i (fun c => { c with phase := .listed r }) ∧
      Listed Past r := by
  unfold list
  cases hr : Host.attached s.desk.registry with
  | mk r machine =>
    cases r with
    | finished r => exact ⟨_, rfl, .finished hnow (congrArg Prod.fst hr)⟩
    | crashed message => exact ⟨_, rfl, .crashed hnow (congrArg Prod.fst hr)⟩

/-- The call looks at the list of devices. -/
theorem underway_resolve (hnow : Past s.desk.registry) (i : Nat) (m : Method)
    {r : Job (List DeviceInfo)} (h : Listed Past r) :
    ∃ p, (s.resolve i m r).calls = s.calls.modify i (fun c => { c with phase := p }) ∧
      Underway Past m p ∧ p ≠ .dropped := by
  cases r with
  | crashed message =>
    cases m with
    | getDevices => exact ⟨_, rfl, .ended (.noDevices h), by simp⟩
    | onDevice v p task => exact ⟨_, rfl, .ended (.lost task (.notListed h)), by simp⟩
  | finished devices =>
    cases m with
    | getDevices => exact ⟨_, rfl, .ended (.devices h), by simp⟩
    | onDevice v p task =>
      simp only [resolve]
      cases hfind : Discovery.find? devices v p with
      | none => exact ⟨_, rfl, .ended (.lost task (.notFound h hfind)), by simp⟩
      | some device =>
        have hmeant : Meant Past v p device := ⟨devices, h, hfind⟩
        cases task with
        | hasPermission =>
          exact ⟨_, rfl, .ended (.looked ⟨hmeant, s.desk.registry, hnow, rfl⟩), by simp⟩
        | requestPermission =>
          exact ⟨_, rfl, underway_phaseOf hmeant _, phaseOf_ne_dropped device _⟩
        | files task =>
          obtain ⟨hcalls, -⟩ :=
            lockOf_frame { s with desk := s.desk.retain devices } device.deviceName
          exact ⟨_, congrArg (List.modify · i _) hcalls, .queued hmeant task _, by simp⟩

/-- The worker of a call goes on. -/
theorem underway_work {m : Method} {device : DeviceInfo} {task : FileTask} {lock : LockId}
    {w : Worker} (hnow : Past s.desk.registry)
    (h : Underway Past m (.working device task lock w)) :
    Underway Past m (.working device task lock (s.work device task w).1) := by
  cases h with
  | starting hmeant =>
    unfold work
    cases hgranted : Desk.hasPermission device s.desk with
    | mk granted desk =>
      have hpermits : Permits Past _ _ device granted :=
        ⟨hmeant, s.desk.registry, hnow, congrArg Prod.fst hgranted⟩
      cases granted with
      | true => exact .permitted hmeant task lock
      | false => exact .done (.barred task (.refused hpermits)) device task lock
  | permitted hmeant =>
    unfold work
    cases hopen : Host.openDevice device s.desk.registry with
    | mk r machine =>
      have hopens : Opens Past _ _ device r :=
        ⟨hmeant, s.desk.registry, hnow, congrArg Prod.fst hopen⟩
      rcases r with (e | medium) | message
      · exact .done (.barred task (.notOpened hopens)) device task lock
      · exact .serving hopens task lock
      · exact .done (.barred task (.crashed hopens)) device task lock
  | serving hopens => exact .done (.served task hopens) device task lock
  | done h => exact .done h device task lock

/-- Where a step may leave call `i`, which was `c` before: on its way, and not dropped while its
caller waits. -/
def Onward (Past : π → Prop) (i : Nat) (c : Call) (s : Service π) : Prop :=
  ∃ p, s.calls[i]? = some { c with phase := p } ∧ Underway Past c.method p ∧
    (p = .dropped → c.phase = .dropped ∨ c.abandoned = true)

theorem Onward.of_phase {s' : Service π} {p : Phase} (hi : s.calls[i]? = some c)
    (hcalls : s'.calls = s.calls.modify i fun c => { c with phase := p })
    (hp : Underway Past c.method p)
    (hdropped : p = .dropped → c.phase = .dropped ∨ c.abandoned = true) : Onward Past i c s' := by
  refine ⟨p, ?_, hp, hdropped⟩
  rw [hcalls, List.getElem?_modify_eq, hi]
  rfl

/-- **A step of a call goes on towards an answer that fits.** -/
theorem onward_step (hnow : Past s.desk.registry) (hi : s.calls[i]? = some c)
    (h : Underway Past c.method c.phase) : Onward Past i c (s.step i) := by
  obtain ⟨method, phase, abandoned⟩ := c
  have hwork : ∀ {device : DeviceInfo} {task : FileTask} {lock : LockId} {w : Worker},
      Underway Past method (.working device task lock w) →
      s.step i = (s.work device task w).2.setPhase i
        (.working device task lock (s.work device task w).1) →
      Onward Past i ⟨method, phase, abandoned⟩ (s.step i) := by
    intro device task lock w hw hstep
    refine .of_phase hi ?_ (underway_work hnow hw) (by simp)
    rw [hstep]
    exact congrArg (List.modify · i _) (calls_work s device task w)
  have hstays : s.step i = s → Onward Past i ⟨method, phase, abandoned⟩ (s.step i) := by
    intro hstep
    rw [hstep]
    exact ⟨phase, hi, h, .inl⟩
  cases h with
  | listing =>
    obtain ⟨r, hcalls, hlisted⟩ := listed_list hnow i
    refine .of_phase hi ?_ (.listed method hlisted) (by simp)
    simp only [step, hi]
    exact hcalls
  | listed _ h =>
    obtain ⟨p, hcalls, hp, hpresent⟩ := underway_resolve hnow i method h
    refine .of_phase hi ?_ hp fun hp => absurd hp hpresent
    simp only [step, hi]
    exact hcalls
  | @negotiating _ _ device hmeant w =>
    have hphase := underway_phaseOf hmeant (Desk.check device s.now w s.desk).1
    refine .of_phase hi ?_ hphase fun hp => absurd hp (phaseOf_ne_dropped device _)
    simp only [step, hi]
    rfl
  | queued hmeant task lock =>
    by_cases hheld : s.isHeld lock = true
    · exact hstays (by simp [step, hi, hheld])
    · refine .of_phase hi ?_ (.starting hmeant task lock) (by simp)
      simp only [step, hi, if_neg hheld]
      rfl
  | starting hmeant task lock => exact hwork (.starting hmeant task lock) (by simp [step, hi])
  | permitted hmeant task lock => exact hwork (.permitted hmeant task lock) (by simp [step, hi])
  | serving hopens task lock => exact hwork (.serving hopens task lock) (by simp [step, hi])
  | @done _ r hfits device task lock =>
    -- nobody waits for what the worker of an abandoned call has done
    cases abandoned with
    | true =>
      refine .of_phase hi ?_ (.dropped method) fun _ => .inr rfl
      simp only [step, hi]
      rfl
    | false =>
      refine .of_phase hi ?_ (.freed hfits device) (by simp)
      simp only [step, hi]
      rfl
  | @freed _ r hfits device =>
    refine .of_phase hi ?_ (.ended hfits) (by simp)
    simp only [step, hi]
    exact congrArg (List.modify · i _) (s.prune_frame device.deviceName).1
  | ended h => exact hstays (by simp [step, hi])
  | dropped => exact hstays (by simp [step, hi])

/-- The step of a call leaves the others where they are. -/
theorem call_step_ne {j : Nat} (hij : j ≠ i) : (s.step j).calls[i]? = s.calls[i]? := by
  rcases step_moves s j with hcalls | ⟨p, hcalls⟩
  · rw [hcalls]
  · rw [hcalls, List.getElem?_modify_ne _ _ hij]

/-- **A call is on its way all along**, whatever else happens. -/
theorem underway_afterAll {m : Method} (hi : s.calls[i]? = some c) (hm : c.method = m)
    (h : Underway Past m c.phase) (history : List (Happening π))
    (hpast : ∀ n, Past (s.afterAll (history.take n)).desk.registry) :
    ∃ c', (s.afterAll history).calls[i]? = some c' ∧ c'.method = m ∧ Underway Past m c'.phase := by
  induction history generalizing s c with
  | nil => exact ⟨c, hi, hm, h⟩
  | cons x history ih =>
    have hlater := fun n => hpast (n + 1)
    cases x with
    | start method args =>
      refine ih ((List.getElem?_append_left ?_).trans hi) hm h hlater
      exact (List.getElem?_eq_some_iff.mp hi).1
    | machine change => exact ih hi hm h hlater
    | clock now => exact ih hi hm h hlater
    | drop j =>
      obtain ⟨c', hi', rfl | rfl | ⟨rfl, -⟩⟩ := call_drop hi j
      · exact ih hi' hm h hlater
      · exact ih hi' hm h hlater
      · exact ih hi' hm (.dropped m) hlater
    | step j =>
      by_cases hij : j = i
      · subst hij hm
        obtain ⟨p, hi', hp, -⟩ := onward_step (hpast 0) hi h
        exact ih hi' rfl hp hlater
      · exact ih ((call_step_ne hij).trans hi) hm h hlater

omit [Host π] [Registry π] in
theorem call_start (s : Service π) {name : String} {args : Json} {m : Method}
    (hm : Method.ofCall name args = .ok m) :
    (s.start name args).calls[s.calls.length]? = some { method := m } := by
  simp [start, hm]

/-- How the machine of the service is in the course of a history. -/
def machines (s : Service π) (history : List (Happening π)) (machine : π) : Prop :=
  ∃ n, (s.afterAll (history.take n)).desk.registry = machine

/-- **An answer fits its operation**, whatever has happened since the call was made. -/
theorem fits_result (s : Service π) {name : String} {args : Json} {m : Method}
    (hm : Method.ofCall name args = .ok m) (history : List (Happening π))
    {r : Except StorageError Answer}
    (hr : (s.afterAll (.start name args :: history)).result? s.calls.length = some r) :
    Fits (s.machines (.start name args :: history)) m r := by
  have hpast : ∀ n, s.machines (.start name args :: history)
      ((s.start name args).afterAll (history.take n)).desk.registry := fun n => ⟨n + 1, rfl⟩
  obtain ⟨c, hc, -, hunderway⟩ :=
    underway_afterAll (call_start s hm) rfl (.listing m) history hpast
  rw [phase_of_result? hc hr] at hunderway
  cases hunderway with
  | ended h => exact h

/-! ## Answers in the rounds of the schedule -/

/-- Rounds are steps. -/
theorem settle_eq_steps (n : Nat) (s : Service π) :
    ∃ steps : List Nat, Schedule.settle n s = s.afterAll (steps.map .step) := by
  have hround : ∀ (l : List Nat) (s : Service π),
      ∃ steps : List Nat, l.foldl tryStep s = s.afterAll (steps.map .step) := by
    intro l
    induction l with
    | nil => exact fun s => ⟨[], rfl⟩
    | cons i l ih =>
      intro s
      obtain ⟨steps, hsteps⟩ := ih (s.tryStep i)
      rw [List.foldl_cons, hsteps]
      unfold tryStep
      split
      · exact ⟨i :: steps, rfl⟩
      · exact ⟨steps, rfl⟩
  induction n generalizing s with
  | zero => exact ⟨[], rfl⟩
  | succ n ih =>
    rw [Schedule.settle]
    split
    · obtain ⟨first, hfirst⟩ := hround (Schedule.calls s) s
      obtain ⟨later, hlater⟩ := ih (Schedule.round s)
      refine ⟨first ++ later, ?_⟩
      have hrounds : Schedule.round s = s.afterAll (first.map .step) := hfirst
      rw [hlater, hrounds, List.map_append]
      exact (List.foldl_append ..).symm
    · exact ⟨[], rfl⟩

/-- Steps drop no call whose caller waits. -/
theorem present_steps {m : Method} (hall : ∀ machine, Past machine)
    (hi : s.calls[i]? = some c) (hm : c.method = m) (h : Underway Past m c.phase)
    (hwaits : c.abandoned = false) (hpresent : c.phase ≠ .dropped) (steps : List Nat) :
    ∃ c', (s.afterAll (steps.map .step)).calls[i]? = some c' ∧ Underway Past m c'.phase ∧
      c'.phase ≠ .dropped := by
  induction steps generalizing s c with
  | nil => exact ⟨c, hi, h, hpresent⟩
  | cons j steps ih =>
    by_cases hij : j = i
    · subst hij hm
      obtain ⟨p, hi', hp, hdropped⟩ := onward_step (hall _) hi h
      refine ih hi' rfl hp hwaits fun hgone => ?_
      rcases hdropped hgone with hbefore | habandoned
      · exact hpresent hbefore
      · rw [hwaits] at habandoned
        cases habandoned
    · exact ih ((call_step_ne hij).trans hi) hm h hwaits hpresent

/-- **A call that asks nobody is answered at once**: the rounds of the schedule bring it to an
answer, whatever other calls are under way. -/
theorem answered_settle (s : Service π) {name : String} {args : Json} {m : Method}
    (hm : Method.ofCall name args = .ok m)
    (hasks : ∀ v p, m ≠ .onDevice v p .requestPermission) :
    let started := s.start name args
    ∃ r, (Schedule.settle (Schedule.rounds started) started).result? s.calls.length = some r := by
  intro started
  have hrest := atRest_settle started
  obtain ⟨steps, hsteps⟩ := settle_eq_steps (Schedule.rounds started) started
  rw [hsteps] at hrest ⊢
  obtain ⟨c, hc, hunderway, hpresent⟩ :=
    present_steps (fun _ => trivial) (call_start s hm) rfl (.listing m) rfl nofun steps
  have hzero := hrest.phase (List.mem_of_getElem? hc)
  obtain ⟨method, phase, abandoned⟩ := c
  cases hunderway with
  | @ended _ r h => exact ⟨r, by unfold result?; rw [hc]; rfl⟩
  | @negotiating v p => exact absurd rfl (hasks v p)
  | dropped => exact absurd rfl hpresent
  | _ => cases hzero

end Service
end ThumbDrive

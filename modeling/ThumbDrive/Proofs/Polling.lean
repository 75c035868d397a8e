import ThumbDrive.Proofs.Recorded
import ThumbDrive.Proofs.Records

/-! # Polling

A wait by polling looks at the registry when the question was put, after every pause, and when its
time is up; whatever it finds then is final.  A pause is the time between two polls, or the rest of
the time if that is less, so that the last look falls on the deadline (`Polling.Ahead`).

Grants and revocations are a matter of the clock here: a `Timetable` is a registry that grants
access at some times and not at others.  Its clock goes on by itself, a tick every millisecond,
and a look sees what is granted then and nothing of what was granted in between.

The schedule of the calls is followed tick by tick (`Polling.run_waiting`).  Between two looks
nothing is ready; at a look the wait ends, or goes on to the next one. -/
namespace ThumbDrive

/-! ## Schedules -/

namespace Schedule

theorem earliest_eq_min? (ts : List Nat) : earliest ts = ts.min? := by
  induction ts with
  | nil => rfl
  | cons t ts ih =>
    rw [earliest, ih, List.min?_cons]
    cases ts.min? <;> rfl

theorem earliest_eq_some {t : Nat} {ts : List Nat} (hmem : t ∈ ts) (hle : ∀ u ∈ ts, t ≤ u) :
    earliest ts = some t := by
  rw [earliest_eq_min?]
  exact List.min?_eq_some_iff.mpr ⟨hmem, hle⟩

variable {σ : Type} [Concurrent σ]

/-- Where nothing is ready, all is settled. -/
theorem settle_idle {s : σ} (h : ∀ i ∈ calls s, Concurrent.isReady s i = false) (n : Nat) :
    settle n s = s := by
  cases n with
  | zero => rfl
  | succ n =>
    have hnone : (calls s).any (Concurrent.isReady s) = false := by
      rw [List.any_eq_false]
      intro i hi
      rw [h i hi]
      exact Bool.false_ne_true
    rw [settle, hnone, if_neg Bool.false_ne_true]

end Schedule

/-! ## A registry with a clock -/

/-- A registry that grants access by the clock.  The calls to it are written down with their
times. -/
structure Timetable where
  /-- Whether access is granted at a time, before and after a question was put. -/
  grants : Bool → DeviceInfo → Nat → Bool
  now : Nat
  put : Bool := false
  calls : List (Nat × PlatformCall) := []

namespace Timetable

/-- Writes a call down. -/
def note (call : PlatformCall) (r : Timetable) : Timetable :=
  { r with calls := r.calls ++ [(r.now, call)] }

instance : Registry Timetable where
  hasPermission := fun device r =>
    (r.grants r.put device r.now, r.note (.asked device (r.grants r.put device r.now)))
  register := fun request r => (0, r.note (.registered request))
  unregister := fun receiver r => r.note (.unregistered receiver)
  request := fun q r => (.ok (), { r.note (.requested q.device) with put := true })
  deliveries := fun _ => []

end Timetable

namespace Desk

/-- The desk at another time. -/
def atTime (now : Nat) (d : Desk Timetable) : Desk Timetable :=
  { d with registry := { d.registry with now } }

end Desk

namespace Polling

/-- The clock of the registry follows. -/
def tick (q : PetitionQueue Timetable) : PetitionQueue Timetable :=
  { q with desk := q.desk.atTime q.now }

/-- The ticks of the next milliseconds. -/
def ticks (now : Nat) : Nat → List (Schedule.Event (PetitionQueue Timetable))
  | 0 => []
  | rest + 1 => ⟨now + 1, tick⟩ :: ticks (now + 1) rest

theorem length_ticks (now rest : Nat) : (ticks now rest).length = rest := by
  induction rest generalizing now with
  | zero => rfl
  | succ rest ih => rw [ticks, List.length_cons, ih]

theorem lt_of_mem_ticks {now rest : Nat} {e : Schedule.Event (PetitionQueue Timetable)}
    (h : e ∈ ticks now rest) : now < e.time := by
  induction rest generalizing now with
  | zero => cases h
  | succ rest ih =>
    rcases List.mem_cons.mp h with rfl | h
    · exact Nat.lt_succ_self now
    · exact Nat.lt_of_succ_lt (ih h)

/-! ## The times of the looks -/

/-- The pause between two looks, unless the time is up before. -/
def pace {ρ : Type} (d : Desk ρ) : Nat := d.timers.pause d.config.pollMs.toNat

/-- **The looks that are ahead** of a wait that wakes at a time: one after every pause, and the last
at the deadline. -/
inductive Ahead (pace deadline : Nat) : Nat → List Nat → Prop where
  | last : Ahead pace deadline deadline [deadline]
  | next {t : Nat} {later : List Nat} (hlt : t < deadline)
      (hlater : Ahead pace deadline (t + min pace (deadline - t)) later) :
      Ahead pace deadline t (t :: later)

theorem Ahead.le {pace deadline t : Nat} {later : List Nat} (h : Ahead pace deadline t later) :
    t ≤ deadline := by
  cases h with
  | last => exact Nat.le_refl _
  | next hlt _ => exact Nat.le_of_lt hlt

/-- The times of the looks: every `pace` milliseconds as long as there is time, and at its end. -/
def times (start pace timeoutMs : Nat) : List Nat :=
  (List.range ((timeoutMs + pace - 1) / pace)).map (fun j => start + j * pace) ++
    [start + timeoutMs]

/-- The looks up to the first that finds access granted. -/
def upTo (granted : Nat → Bool) (times : List Nat) : List Nat :=
  times.takeWhile (fun t => !granted t) ++ (times.find? granted).toList

/-- What a wait comes to whose looks find access granted at a time or never. -/
def outcome (timeoutMs : Nat) : Option Nat → PermissionOutcome
  | some _ => .granted
  | none => .timedOut timeoutMs

theorem lt_ceil_iff {pace : Nat} (hpace : 0 < pace) (timeoutMs j : Nat) :
    j < (timeoutMs + pace - 1) / pace ↔ j * pace < timeoutMs := by
  rw [← Nat.succ_le_iff, Nat.le_div_iff_mul_le hpace, Nat.succ_mul]
  omega

/-- The times of the looks are the looks ahead of a wait that starts. -/
theorem ahead_times {pace : Nat} (hpace : 0 < pace) (start timeoutMs : Nat) :
    Ahead pace (start + timeoutMs) start (times start pace timeoutMs) := by
  -- from look number `j` on, by induction on how many there are before the last
  have hfrom (n j : Nat) (hn : j + n = (timeoutMs + pace - 1) / pace) :
      Ahead pace (start + timeoutMs) (start + min (j * pace) timeoutMs)
        ((List.range' j n).map (fun j => start + j * pace) ++ [start + timeoutMs]) := by
    induction n generalizing j with
    | zero =>
      have hnot : ¬ j < (timeoutMs + pace - 1) / pace := by omega
      rw [lt_ceil_iff hpace, Nat.not_lt] at hnot
      rw [Nat.min_eq_right hnot]
      exact .last
    | succ n ih =>
      have hlt : j * pace < timeoutMs := (lt_ceil_iff hpace timeoutMs j).mp (by omega)
      have hpause : start + j * pace + min pace (start + timeoutMs - (start + j * pace)) =
          start + min ((j + 1) * pace) timeoutMs := by
        rw [Nat.succ_mul]
        omega
      rw [Nat.min_eq_left (Nat.le_of_lt hlt), List.range'_succ]
      refine .next (by omega) ?_
      rw [hpause]
      exact ih (j + 1) (by omega)
  have hall := hfrom _ 0 (Nat.zero_add _)
  rw [← List.range_eq_range', Nat.zero_mul, Nat.zero_min, Nat.add_zero] at hall
  exact hall

section Looks
variable {granted : Nat → Bool} {t : Nat} {later : List Nat}

theorem upTo_of_granted (h : granted t = true) : upTo granted (t :: later) = [t] := by
  simp [upTo, h]

theorem upTo_of_not (h : granted t = false) :
    upTo granted (t :: later) = t :: upTo granted later := by
  simp [upTo, h]

end Looks

/-! ## One petition -/

/-- A queue of one petition. -/
def alone {ρ : Type} (d : Desk ρ) (device : DeviceInfo) (phase : Petition.Phase) (now : Nat) :
    PetitionQueue ρ where
  desk := d
  petitions := [⟨device, phase⟩]
  now := now

section Alone
variable {ρ : Type} [Registry ρ] {d : Desk ρ} {device : DeviceInfo}
  {now started deadline wake : Nat}

/-- The queue after its petition was looked after. -/
def looked (d : Desk ρ) (device : DeviceInfo) (w : Wait) (now : Nat) : PetitionQueue ρ :=
  alone (Desk.check device now w d).2 device
    (PetitionQueue.phaseOf (Desk.check device now w d).1) now

/-- The desk after it has asked its registry. -/
def asked (d : Desk ρ) (device : DeviceInfo) : Desk ρ :=
  { d with registry := (Registry.hasPermission device d.registry).2 }

/-- Before it is time, a look changes nothing. -/
theorem looked_of_lt (h : now < wake) :
    looked d device (.polling started deadline wake) now =
      alone d device (.waiting (.polling started deadline wake)) now := by
  unfold looked
  rw [Desk.check_polling_eq, if_pos h]
  rfl

theorem looked_granted (hwake : wake ≤ now)
    (h : (Registry.hasPermission device d.registry).1 = true) :
    looked d device (.polling started deadline wake) now =
      alone ((asked d device).setState device.deviceName (some .granted)) device
        (.over (.ok .granted)) now := by
  unfold looked
  rw [Desk.check_polling_eq, if_neg (Nat.not_lt_of_le hwake), if_pos h]
  rfl

theorem looked_late (hwake : wake ≤ now)
    (h : (Registry.hasPermission device d.registry).1 = false) (htime : deadline ≤ now) :
    looked d device (.polling started deadline wake) now =
      alone ((asked d device).setState device.deviceName none) device
        (.over (.ok (.timedOut (now - started)))) now := by
  unfold looked
  rw [Desk.check_polling_eq, if_neg (Nat.not_lt_of_le hwake), if_neg (ne_true_of_eq_false h),
    if_pos htime]
  rfl

theorem looked_early (hwake : wake ≤ now)
    (h : (Registry.hasPermission device d.registry).1 = false) (htime : now < deadline) :
    looked d device (.polling started deadline wake) now =
      alone (asked d device) device (.waiting (.polling started deadline
        (now + min (pace d) (deadline - now)))) now := by
  unfold looked
  rw [Desk.check_polling_eq, if_neg (Nat.not_lt_of_le hwake), if_neg (ne_true_of_eq_false h),
    if_neg (Nat.not_le_of_lt htime), Timers.pause_min]
  rfl

theorem isReady_polling (h : now < wake) :
    Concurrent.isReady (alone d device (.waiting (.polling started deadline wake)) now) 0 =
      false :=
  decide_eq_false (Nat.not_le_of_lt h)

/-- After a look there is nothing to do. -/
theorem isReady_looked (hpace : 0 < pace d) :
    Concurrent.isReady (looked d device (.polling started deadline wake) now) 0 = false := by
  by_cases hwake : now < wake
  · rw [looked_of_lt hwake]
    exact isReady_polling hwake
  · rw [Nat.not_lt] at hwake
    cases hgranted : (Registry.hasPermission device d.registry).1 with
    | true =>
      rw [looked_granted hwake hgranted]
      rfl
    | false =>
      by_cases htime : deadline ≤ now
      · rw [looked_late hwake hgranted htime]
        rfl
      · rw [Nat.not_le] at htime
        rw [looked_early hwake hgranted htime]
        exact isReady_polling (by omega)

theorem calls_alone (phase : Petition.Phase) :
    Schedule.calls (alone d device phase now) = [0] := rfl

theorem settle_looked (hpace : 0 < pace d) (n : Nat) :
    Schedule.settle n (looked d device (.polling started deadline wake) now) =
      looked d device (.polling started deadline wake) now := by
  refine Schedule.settle_idle (fun i hi => ?_) n
  unfold looked at hi
  rw [calls_alone, List.mem_singleton] at hi
  rw [hi]
  exact isReady_looked hpace

/-- A poll settles when it has had its look, if it is time for one. -/
theorem settle_polling (hpace : 0 < pace d) (n : Nat) :
    Schedule.settle (n + 1) (alone d device (.waiting (.polling started deadline wake)) now) =
      looked d device (.polling started deadline wake) now := by
  by_cases hwake : now < wake
  · have hsettled : Schedule.settle (n + 1)
        (looked d device (.polling started deadline wake) now) = _ := settle_looked hpace (n + 1)
    rw [looked_of_lt hwake] at hsettled ⊢
    exact hsettled
  · have hready : Concurrent.isReady
        (alone d device (.waiting (.polling started deadline wake)) now) 0 = true :=
      decide_eq_true (Nat.le_of_not_lt hwake)
    rw [Schedule.settle, Schedule.round, calls_alone]
    simp only [List.any_cons, List.any_nil, Bool.or_false, List.foldl_cons, List.foldl_nil, hready,
      if_true]
    exact settle_looked hpace n

theorem settle_rounds (hpace : 0 < pace d) :
    Schedule.settle
      (Schedule.rounds (alone d device (.waiting (.polling started deadline wake)) now))
      (alone d device (.waiting (.polling started deadline wake)) now) =
      looked d device (.polling started deadline wake) now :=
  settle_polling hpace 31

/-- A run finishes when the look comes to an end. -/
theorem run_ends (hpace : 0 < pace d) {d' : Desk ρ}
    {r : Except IoError PermissionOutcome}
    (h : looked d device (.polling started deadline wake) now = alone d' device (.over r) now)
    (moments : Nat) (events : List (Schedule.Event (PetitionQueue ρ))) (dropAt : Option Nat) :
    Schedule.run (moments + 1) events dropAt
      (alone d device (.waiting (.polling started deadline wake)) now) =
      (.finished, alone d' device (.over r) now) := by
  rw [Schedule.run, settle_rounds hpace, h]
  rfl

end Alone

/-! ## Runs -/

theorem filter_ticks (now rest : Nat) :
    ((ticks now (rest + 1)).filter fun e => e.time == now + 1) = [⟨now + 1, tick⟩] ∧
    ((ticks now (rest + 1)).filter fun e => e.time != now + 1) = ticks (now + 1) rest := by
  have hlater : ∀ e ∈ ticks (now + 1) rest, e.time ≠ now + 1 :=
    fun e he => Nat.ne_of_gt (lt_of_mem_ticks he)
  rw [ticks]
  constructor
  · rw [List.filter_cons_of_pos (by simp), List.filter_eq_nil_iff.mpr]
    intro e he
    rw [beq_false_of_ne (hlater e he)]
    exact Bool.false_ne_true
  · rw [List.filter_cons_of_neg (by simp), List.filter_eq_self.mpr]
    intro e he
    exact bne_iff_ne.mpr (hlater e he)

/-- A run goes on with the next tick when the look leaves a wait. -/
theorem run_goes_on {d d' : Desk Timetable} {device : DeviceInfo}
    {now started deadline wake wake' : Nat} (hpace : 0 < pace d)
    (h : looked d device (.polling started deadline wake) now =
      alone d' device (.waiting (.polling started deadline wake')) now)
    (hwake : now < wake') (moments rest : Nat) :
    Schedule.run (moments + 1) (ticks now (rest + 1)) none
      (alone d device (.waiting (.polling started deadline wake)) now) =
    Schedule.run moments (ticks (now + 1) rest) none
      (alone (d'.atTime (now + 1)) device (.waiting (.polling started deadline wake'))
        (now + 1)) := by
  have hnext : Schedule.nextMoment
      (alone d' device (.waiting (.polling started deadline wake')) now)
      (ticks now (rest + 1)) none = some (now + 1) := by
    have htimes : ∀ u ∈ [wake'] ++ (ticks now (rest + 1)).map Schedule.Event.time ++ [],
        now + 1 ≤ u := by
      intro u hu
      rw [List.append_nil, List.singleton_append] at hu
      rcases List.mem_cons.mp hu with rfl | hu
      · exact hwake
      · obtain ⟨e, he, rfl⟩ := List.mem_map.mp hu
        exact lt_of_mem_ticks he
    exact Schedule.earliest_eq_some (List.mem_append_left _ (List.mem_append_right _
      List.mem_cons_self)) htimes
  rw [Schedule.run, settle_rounds hpace, h]
  dsimp only
  rw [if_neg (by exact Bool.false_ne_true), hnext]
  dsimp only
  rw [if_neg nofun, (filter_ticks now rest).1, (filter_ticks now rest).2]
  rfl

/-- **What a wait by polling comes to**, if it has these looks ahead of it: it ends at the first
that finds access granted, and with its time if none does. -/
structure Ends (before : List (Nat × PlatformCall)) (device : DeviceInfo) (granted : Nat → Bool)
    (timeoutMs deadline : Nat) (looks : List Nat)
    (e : Schedule.Ending × PetitionQueue Timetable) : Prop where
  finished : e.1 = .finished
  answer : e.2.phase? 0 = some (.over (.ok (outcome timeoutMs (looks.find? granted))))
  time : e.2.now = (looks.find? granted).getD deadline
  calls : e.2.desk.registry.calls =
    before ++ (upTo granted looks).map fun t => (t, .asked device (granted t))
  known : e.2.desk.state? device.deviceName =
    Desk.stateAfter (.ok (outcome timeoutMs (looks.find? granted)))

section Ends
variable {before : List (Nat × PlatformCall)} {device : DeviceInfo} {granted : Nat → Bool}
  {timeoutMs deadline t : Nat} {later : List Nat} {d : Desk Timetable}

theorem ends_granted (h : granted t = true)
    (hcalls : d.registry.calls = before ++ [(t, .asked device true)]) :
    Ends before device granted timeoutMs deadline (t :: later)
      (.finished, alone (d.setState device.deviceName (some .granted)) device
        (.over (.ok .granted)) t) := by
  have hfirst : (t :: later).find? granted = some t := List.find?_cons_of_pos h
  constructor <;> simp only [hfirst, upTo_of_granted h]
  · rfl
  · rfl
  · rw [List.map_singleton, h]
    exact hcalls
  · exact Desk.state?_setState device.deviceName _ d

theorem ends_late (h : granted deadline = false)
    (hcalls : d.registry.calls = before ++ [(deadline, .asked device false)]) :
    Ends before device granted timeoutMs deadline [deadline]
      (.finished, alone (d.setState device.deviceName none) device
        (.over (.ok (.timedOut timeoutMs))) deadline) := by
  have hfirst : [deadline].find? granted = none := List.find?_cons_of_neg (ne_true_of_eq_false h)
  constructor <;> simp only [hfirst, upTo_of_not h]
  · rfl
  · rfl
  · rw [List.map_cons, h]
    exact hcalls
  · exact Desk.state?_setState device.deviceName _ d

theorem ends_later (h : granted t = false) {e : Schedule.Ending × PetitionQueue Timetable}
    (he : Ends (before ++ [(t, .asked device false)]) device granted timeoutMs deadline later e) :
    Ends before device granted timeoutMs deadline (t :: later) e := by
  have hfirst : (t :: later).find? granted = later.find? granted :=
    List.find?_cons_of_neg (ne_true_of_eq_false h)
  refine ⟨he.finished, hfirst ▸ he.answer, hfirst ▸ he.time, ?_, hfirst ▸ he.known⟩
  rw [upTo_of_not h, List.map_cons, h, he.calls, List.append_assoc, List.singleton_append]

end Ends

/-- What a look writes down. -/
theorem calls_asked {d : Desk Timetable} {device : DeviceInfo} {now : Nat} {granted : Bool}
    (hclock : d.registry.now = now)
    (h : (Registry.hasPermission device d.registry).1 = granted) :
    (asked d device).registry.calls = d.registry.calls ++ [(now, .asked device granted)] := by
  subst hclock h
  rfl

/-- **A wait by polling, tick by tick.** -/
theorem run_waiting {device : DeviceInfo} {started deadline rest now wake moments : Nat}
    {later : List Nat} {d : Desk Timetable} (hpace : 0 < pace d)
    (hrest : now + rest = deadline) (hclock : d.registry.now = now)
    (hput : d.registry.put = true) (hwake : now ≤ wake)
    (hahead : Ahead (pace d) deadline wake later) (hmoments : rest < moments) :
    Ends d.registry.calls device (d.registry.grants true device) (deadline - started) deadline
      later (Schedule.run moments (ticks now rest) none
        (alone d device (.waiting (.polling started deadline wake)) now)) := by
  induction rest using Nat.strongRecOn generalizing now wake later d moments with
  | ind rest ih =>
  obtain ⟨moments, rfl⟩ := Nat.exists_eq_succ_of_ne_zero (Nat.ne_zero_of_lt hmoments)
  have hlook : (Registry.hasPermission device d.registry).1 =
      d.registry.grants true device now := by
    rw [← hput, ← hclock]
    rfl
  -- the clock goes on, and a wait for a later look with it
  have hgoes {d' : Desk Timetable} {wake' : Nat} {looks : List Nat} (hd : pace d' = pace d)
      (hr : d'.registry.put = true ∧ d'.registry.grants = d.registry.grants)
      (hlooked : looked d device (.polling started deadline wake) now =
        alone d' device (.waiting (.polling started deadline wake')) now)
      (hwake' : now < wake') (hlooks : Ahead (pace d) deadline wake' looks) :
      Ends d'.registry.calls device (d.registry.grants true device) (deadline - started) deadline
        looks (Schedule.run (moments + 1) (ticks now rest) none
          (alone d device (.waiting (.polling started deadline wake)) now)) := by
    have hlate := hlooks.le
    obtain ⟨rest, rfl⟩ := Nat.exists_eq_succ_of_ne_zero (n := rest) (by omega)
    rw [run_goes_on hpace hlooked hwake', ← hr.2]
    exact ih rest (Nat.lt_succ_self rest) (d := d'.atTime (now + 1))
      (Nat.lt_of_lt_of_eq hpace hd.symm) (by omega) rfl hr.1 hwake' (hd ▸ hlooks) (by omega)
  rcases Nat.lt_or_eq_of_le hwake with hearly | rfl
  · exact hgoes rfl ⟨hput, rfl⟩ (looked_of_lt hearly) hearly hahead
  · cases hgranted : d.registry.grants true device now with
    | true =>
      rw [hgranted] at hlook
      rw [run_ends hpace (looked_granted (Nat.le_refl now) hlook)]
      cases hahead <;> exact ends_granted hgranted (calls_asked hclock hlook)
    | false =>
      rw [hgranted] at hlook
      obtain _ | ⟨hlt, hlater⟩ := hahead
      · rw [run_ends hpace (looked_late (Nat.le_refl _) hlook (Nat.le_refl _))]
        exact ends_late hgranted (calls_asked hclock hlook)
      · refine ends_later hgranted ?_
        rw [← calls_asked hclock hlook]
        exact hgoes rfl ⟨hput, rfl⟩ (looked_early (Nat.le_refl now) hlook hlt) (by omega) hlater

/-! ## The whole call -/

/-- The desk after it has put a question. -/
def posed (d : Desk Timetable) (device : DeviceInfo) : Desk Timetable :=
  (Desk.request d.nextRequest device (d.pend device)).2

/-- What is written down when a question is put. -/
theorem calls_posed {d : Desk Timetable} {device : DeviceInfo} {now : Nat}
    (hclock : d.registry.now = now)
    (h : (Registry.hasPermission device d.registry).1 = false) :
    (posed d device).registry.calls =
      d.registry.calls ++ [(now, .asked device false), (now, .requested device)] := by
  have hasked := calls_asked hclock h
  subst hclock
  show (asked d device).registry.calls ++ [_] = _
  rw [hasked, List.append_assoc]
  rfl

/-- A call that puts a question is a wait with its first look ahead. -/
theorem run_new {d : Desk Timetable} {device : DeviceInfo} {now : Nat}
    (hpace : 0 < pace d) (hstrategy : d.config.strategy = .poll)
    (h : (Registry.hasPermission device d.registry).1 = false) (moments : Nat)
    (events : List (Schedule.Event (PetitionQueue Timetable))) :
    Schedule.run (moments + 1) events none (alone d device .new now) =
      Schedule.run (moments + 1) events none (alone (posed d device) device
        (.waiting (.polling now (now + d.config.timeoutMs.toNat) now)) now) := by
  have hposed : 0 < pace (posed d device) := hpace
  have hensure : Desk.ensure device now d =
      Desk.check device now (.polling now (now + d.config.timeoutMs.toNat) now)
        (posed d device) := by
    rw [Desk.ensure_await, if_neg (ne_true_of_eq_false h), hstrategy, Desk.await_poll_eq]
    rfl
  have hround : Schedule.round (alone d device .new now) = looked (posed d device) device
      (.polling now (now + d.config.timeoutMs.toNat) now) now := by
    unfold looked
    rw [← hensure]
    rfl
  have hsettle : Schedule.settle (Schedule.rounds (alone d device .new now))
      (alone d device .new now) = looked (posed d device) device
        (.polling now (now + d.config.timeoutMs.toNat) now) now :=
    (congrArg (Schedule.settle 31) hround).trans (settle_looked hposed 31)
  rw [Schedule.run, Schedule.run, hsettle, settle_rounds hposed]

/-- If there is no time for a second pause, its length does not matter. -/
theorem times_of_le {pace timeoutMs : Nat} (hpace : 0 < pace) (h : timeoutMs ≤ pace)
    (start : Nat) :
    times start pace timeoutMs =
      if timeoutMs = 0 then [start] else [start, start + timeoutMs] := by
  unfold times
  split
  · next hzero =>
    have hnone : (timeoutMs + pace - 1) / pace = 0 := Nat.div_eq_of_lt (by omega)
    rw [hnone, hzero]
    rfl
  · have hone : (timeoutMs + pace - 1) / pace = 1 :=
      Nat.div_eq_of_lt_le (by omega) (by omega)
    rw [hone]
    simp

/-- Where the timers fire when they are due the looks are those of the configuration. -/
theorem times_pause {t : Timers} {pollMs timeoutMs : Nat} (hpoll : 0 < pollMs)
    (hdue : t.FireWhenDue (min pollMs timeoutMs)) (start : Nat) :
    times start (t.pause pollMs) timeoutMs = times start pollMs timeoutMs := by
  by_cases hshort : pollMs ≤ timeoutMs
  · rw [hdue pollMs (Nat.le_min.mpr ⟨Nat.le_refl pollMs, hshort⟩)]
  · -- only the timer of the deadline is ever set
    have hdeadline : min (t.pause pollMs) timeoutMs = min pollMs timeoutMs := by
      rw [← t.pause_min]
      exact hdue _ (Nat.le_refl _)
    rw [times_of_le (t.pause_pos hpoll) (by omega), times_of_le hpoll (by omega)]

theorem length_upTo_le (granted : Nat → Bool) (looks : List Nat) :
    (upTo granted looks).length ≤ looks.length := by
  induction looks with
  | nil => exact Nat.le_refl 0
  | cons t later ih =>
    cases h : granted t with
    | true =>
      rw [upTo_of_granted h]
      exact Nat.succ_le_succ (Nat.zero_le _)
    | false =>
      rw [upTo_of_not h]
      exact Nat.succ_le_succ ih

theorem outcome_ne_denied (timeoutMs : Nat) (first : Option Nat) :
    outcome timeoutMs first ≠ .denied := by
  cases first <;> exact nofun

/-- **The looks of a call**, whatever its timers are like. -/
theorem ends_call {d : Desk Timetable} {device : DeviceInfo} {start : Nat}
    (hclock : d.registry.now = start) (hstrategy : d.config.strategy = .poll)
    (hpoll : 0 < d.config.pollMs)
    (hinitial : (Registry.hasPermission device d.registry).1 = false) :
    let T := d.config.timeoutMs.toNat
    let q : PetitionQueue Timetable := { desk := d, petitions := [{ device }], now := start }
    Ends (d.registry.calls ++ [(start, .asked device false), (start, .requested device)]) device
      (d.registry.grants true device) T (start + T) (times start (pace d) T)
      (Schedule.run (q.moments (ticks start T).length) (ticks start T) none q) := by
  intro T q
  have hpace : 0 < pace d := d.timers.pause_pos hpoll
  obtain ⟨moments, hmoments⟩ : ∃ m, q.moments (ticks start T).length = T + m + 1 := by
    refine ⟨1 + q.petitions.length * q.desk.moments, ?_⟩
    unfold PetitionQueue.moments
    rw [length_ticks]
    omega
  have hrun : Schedule.run (q.moments (ticks start T).length) (ticks start T) none q = _ :=
    (congrArg (Schedule.run · (ticks start T) none q) hmoments).trans
      (run_new hpace hstrategy hinitial (T + moments) (ticks start T))
  rw [hrun, ← calls_posed hclock hinitial]
  have hwaiting : Ends (posed d device).registry.calls device (d.registry.grants true device)
      (start + T - start) (start + T) (times start (pace d) T) _ :=
    run_waiting hpace rfl hclock rfl (Nat.le_refl start) (ahead_times hpace start T)
      (Nat.lt_succ_of_le (Nat.le_add_right T moments))
  rw [Nat.add_sub_cancel_left] at hwaiting
  exact hwaiting

/-- **A wait by polling looks at its times and at no others.**  Let access be granted and revoked by
the clock in any way, let the timers that the wait sets fire when they are due, and let the question
find access not granted.  Then one request is made, and from that moment on the registry is asked at
the times of the looks, until access is found granted at one of them; that is the answer, at that
time.  If it is not granted at any, then with the last look the time is up, and the answer is that
all of it was waited for.

The looks are `p` milliseconds apart, where `p` is what the configuration says, and the last is at
the end of the time `T`; at most `⌈T / p⌉ + 1` of them are made.  The answer is never that access
was denied, and no receiver is registered.  No configuration that is made from settings has a `p` of
zero. -/
theorem polls_at_its_times {d : Desk Timetable} {device : DeviceInfo} {start : Nat}
    (hdue : d.timers.FireWhenDue (min d.config.pollMs.toNat d.config.timeoutMs.toNat))
    (hclock : d.registry.now = start) (hstrategy : d.config.strategy = .poll)
    (hpoll : 0 < d.config.pollMs)
    (hinitial : (Registry.hasPermission device d.registry).1 = false) :
    let T := d.config.timeoutMs.toNat
    let p := d.config.pollMs.toNat
    let q : PetitionQueue Timetable := { desk := d, petitions := [{ device }], now := start }
    let ended := Schedule.run (q.moments (ticks start T).length) (ticks start T) none q
    let granted := d.registry.grants true device
    let looks := times start p T
    Ends (d.registry.calls ++ [(start, .asked device false), (start, .requested device)]) device
      granted T (start + T) looks ended ∧
    (upTo granted looks).length ≤ (T + p - 1) / p + 1 ∧
    outcome T (looks.find? granted) ≠ .denied ∧
    (∀ t request, (t, .registered request) ∈ ended.2.desk.registry.calls →
      (t, .registered request) ∈ d.registry.calls) ∧
    ∀ env plugin, 0 < (Config.resolve env plugin).pollMs := by
  intro T p q ended granted looks
  have hlooks : times start (pace d) T = looks := times_pause hpoll hdue start
  have hended : Ends (d.registry.calls ++ [(start, .asked device false),
      (start, .requested device)]) device granted T (start + T) looks ended := by
    rw [← hlooks]
    exact ends_call hclock hstrategy hpoll hinitial
  refine ⟨hended, ?_, outcome_ne_denied _ _, ?_, Config.resolve_pollMs_pos⟩
  · refine Nat.le_trans (length_upTo_le granted looks) (Nat.le_of_eq ?_)
    simp [looks, times]
  · intro t request hmem
    rw [hended.calls] at hmem
    simpa using hmem

/-- Two calls.  While the first one waits access is granted twice: the first grant is over before
anybody looks, and the second one lasts until the last look.  The second call makes a single pause,
of sixty years. -/
theorem polls_at_its_times_revoked :
    let stick : DeviceInfo := ⟨"usb1", none, none, 1, 2⟩
    let grants (put : Bool) (_ : DeviceInfo) (t : Nat) : Bool :=
      put && (1100 < t && t < 1400 || 1700 < t)
    let desk (timeoutMs pollMs : UInt64) : Desk Timetable :=
      { registry := { grants, now := 500 }, config := ⟨timeoutMs, pollMs, .poll⟩ }
    let ended (timeoutMs pollMs : UInt64) := Schedule.run
      (PetitionQueue.moments
        { desk := desk timeoutMs pollMs, petitions := [{ device := stick }], now := 500 }
        timeoutMs.toNat)
      (ticks 500 timeoutMs.toNat) none
      { desk := desk timeoutMs pollMs, petitions := [{ device := stick }], now := 500 }
    (desk 1250 500).timers.FireWhenDue (min 500 1250) ∧ 0 < (desk 1250 500).config.pollMs ∧
    (Registry.hasPermission stick (desk 1250 500).registry).1 = false ∧
    ((ended 1250 500).1 = .finished ∧
      (ended 1250 500).2.phase? 0 = some (.over (.ok .granted)) ∧
      (ended 1250 500).2.now = 1750 ∧
      (ended 1250 500).2.desk.registry.calls =
        [(500, .asked stick false), (500, .requested stick), (500, .asked stick false),
          (1000, .asked stick false), (1500, .asked stick false), (1750, .asked stick true)]) ∧
    (ended 1892160000000 1892160000000).1 = .finished ∧
      (ended 1892160000000 1892160000000).2.desk.registry.calls =
        [(500, .asked stick false), (500, .requested stick), (500, .asked stick false),
          (1892160000500, .asked stick true)] := by
  intro stick grants desk ended
  have hdue (timeoutMs pollMs : UInt64) (longest : Nat) :
      (desk timeoutMs pollMs).timers.FireWhenDue longest := Timers.patient_fireWhenDue longest
  have hends (timeoutMs pollMs : UInt64) (hpoll : 0 < pollMs) {looks : List Nat}
      (hlooks : times 500 pollMs.toNat timeoutMs.toNat = looks) :
      Ends [(500, .asked stick false), (500, .requested stick)] stick (grants true stick)
        timeoutMs.toNat (500 + timeoutMs.toNat) looks (ended timeoutMs pollMs) := by
    have htheorem := (@polls_at_its_times (desk timeoutMs pollMs) stick 500 (hdue _ _ _) rfl rfl
      hpoll rfl).1
    rw [length_ticks] at htheorem
    exact hlooks ▸ htheorem
  have hlooks : times 500 (500 : UInt64).toNat (1250 : UInt64).toNat = [500, 1000, 1500, 1750] := by
    decide
  have hfirst : [500, 1000, 1500, 1750].find? (grants true stick) = some 1750 := by decide
  have hshort := hends 1250 500 (by decide) hlooks
  have hanswer := hshort.answer
  have htime := hshort.time
  rw [hfirst] at hanswer htime
  have hlooks' : times 500 (1892160000000 : UInt64).toNat (1892160000000 : UInt64).toNat =
      [500, 1892160000500] := by decide
  have hlong := hends 1892160000000 1892160000000 (by decide) hlooks'
  exact ⟨hdue _ _ _, by decide, rfl, ⟨hshort.finished, hanswer, htime, hshort.calls⟩,
    hlong.finished, hlong.calls⟩

end Polling
end ThumbDrive

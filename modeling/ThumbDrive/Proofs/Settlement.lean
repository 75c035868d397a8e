import ThumbDrive.Proofs.Waits

/-! # Every wait settles for itself

What the waits of a desk come to, put together.  Each is accounted for and looks like its `Solo`
(`orderly_afterAll`, `tracks_afterAll`).  Here are the consequences for those that have ended: they
leave no receiver behind, what they came to is written down, and nothing that happens later changes
it unless somebody asks for the same device again.

A wait whose time is up may be looked after late, and an answer that gets there first counts.  Where
the clock stops at every deadline, as it does for timers, this cannot be: no wait is in flight when
its deadline has passed (`Timely`, `onTime_afterAll`). -/
namespace ThumbDrive

/-- A wait that goes on and has not ended has time left. -/
theorem Solo.lt_of_look {s : Solo} {timeoutMs now : Nat} {request : RequestId} {deadline : Nat}
    {answer : Option Bool} (h : s.look timeoutMs now = .waiting request deadline answer) :
    now < deadline := by
  cases s with
  | waiting request' deadline' answer' =>
    dsimp only [look] at h
    cases hverdict : Wait.verdict? timeoutMs deadline' now answer' with
    | some outcome =>
      rw [hverdict] at h
      cases h
    | none =>
      rw [hverdict] at h
      cases h
      unfold Wait.verdict? at hverdict
      split at hverdict
      · cases hverdict
      · cases hverdict
      · split at hverdict
        · cases hverdict
        · next htime => exact Nat.lt_of_not_le htime
  | _ => cases h

theorem Solo.lt_of_go {s : Solo} {q : PetitionQueue (Watched Bus)} {device : DeviceInfo}
    {request : RequestId} {deadline : Nat} {answer : Option Bool}
    (h : s.go q device = .waiting request deadline answer) : q.now < deadline := by
  cases s with
  | new =>
    dsimp only [go] at h
    unfold ask at h
    split at h
    · cases h
    · split at h
      · cases h
      · exact lt_of_look h
  | waiting request' deadline' answer' =>
    have hlook : (Solo.waiting request' deadline' answer').look q.desk.config.timeoutMs.toNat
        q.now = .waiting request deadline answer := h
    exact lt_of_look hlook
  | ended r => cases h
  | dropped => cases h

namespace PetitionQueue
variable {q : PetitionQueue (Watched Bus)} {i : Nat} {p : Petition} {device : DeviceInfo} {s : Solo}

/-! ## Endings -/

theorem Tracks.phase?_ended {r : Except IoError PermissionOutcome}
    (ht : q.Tracks i device (.ended r)) : q.phase? i = some (.over r) := by
  obtain ⟨phase, hp, hs⟩ := ht
  cases hs
  exact congrArg (Option.map Petition.phase) hp

theorem Tracks.of_over {r : Except IoError PermissionOutcome} (ht : q.Tracks i device s)
    (hphase : q.phase? i = some (.over r)) : q.Tracks i device (.ended r) := by
  obtain ⟨phase, hp, hs⟩ := ht
  have hover : some phase = some (.over r) :=
    (congrArg (Option.map Petition.phase) hp).symm.trans hphase
  cases hover
  exact ⟨.over r, hp, .ended r⟩

/-- Who is over has no receiver. -/
theorem receiver?_of_isOver (hover : Concurrent.isOver q i = true)
    (hp : q.petitions[i]? = some p) : p.phase.receiver? = none := by
  have hphase : q.phase? i = some p.phase := congrArg (Option.map Petition.phase) hp
  simp only [Concurrent.isOver, hphase] at hover
  cases hcase : p.phase with
  | new => rfl
  | waiting w =>
    rw [hcase] at hover
    cases hover
  | _ => rfl

/-- When all are over, nobody is registered. -/
theorem table_of_isOver (h : q.Orderly) (hover : ∀ i, Concurrent.isOver q i = true) :
    q.desk.registry.registry.receivers.table = [] := by
  have hflight : q.inFlight = [] := by
    refine List.flatMap_eq_nil_iff.mpr fun p hin => ?_
    obtain ⟨i, hp⟩ := List.mem_iff_getElem?.mp hin
    rw [receiver?_of_isOver (hover i) hp]
    rfl
  have hactive : q.desk.registry.active = [] := by
    refine List.eq_nil_iff_forall_not_mem.mpr fun id hin => ?_
    have hcount := h.tidy.balanced.active id
    rw [hflight] at hcount
    exact absurd (List.count_pos_iff.mpr hin) (Nat.not_lt.mpr (Nat.le_of_eq hcount))
  exact List.map_eq_nil_iff.mp hactive

/-- **No wait outlives its deadline.** -/
theorem over_of_timer (h : q.Orderly) {w : Wait} (hphase : q.phase? i = some (.waiting w))
    (htime : w.timer ≤ q.now) : ∃ r, (q.step i).phase? i = some (.over r) := by
  obtain ⟨p, hp, hwaits⟩ := Option.map_eq_some_iff.mp hphase
  obtain ⟨s, phase, hp', hs⟩ := h.tracks hp
  have hsame : phase = .waiting w := by
    rw [← hwaits, Option.some.inj (hp.symm.trans hp')]
  subst hsame
  have ht := tracks_after h ⟨_, hp', hs⟩ (.step i)
  cases hs with
  | @waiting receiver request deadline hawaits =>
    obtain ⟨r, hlook⟩ := Solo.look_of_le q.desk.config.timeoutMs.toNat htime request
      (q.desk.answer? receiver)
    have hgo : (Solo.waiting request deadline (q.desk.answer? receiver)).after i p.device q
        (.step i) = .ended r := (if_pos rfl).trans hlook
    rw [hgo] at ht
    exact ⟨r, ht.phase?_ended⟩

/-! ## Deadlines that are kept -/

/-- No wait is in flight when its deadline has passed. -/
def OnTime (q : PetitionQueue (Watched Bus)) : Prop :=
  ∀ i wait, q.phase? i = some (.waiting wait) → q.now ≤ wait.timer

/-- The clock stops at the deadline of every wait until the wait has ended. -/
def Timely : PetitionQueue (Watched Bus) → List Happening → Prop
  | _, [] => True
  | q, h :: history =>
      (∀ now, h = .clock now → ∀ i wait, q.phase? i = some (.waiting wait) → now ≤ wait.timer) ∧
        Timely (q.after h) history

theorem phase?_setPhase (q : PetitionQueue (Watched Bus)) (i j : Nat) (phase : Petition.Phase) :
    (q.setPhase i phase).phase? j =
      if i = j then (q.phase? j).map fun _ => phase else q.phase? j := by
  unfold phase?
  rw [petitions_setPhase, Option.map_map]
  by_cases hij : i = j
  · simp only [if_pos hij, Option.map_map]
    rfl
  · simp only [if_neg hij]
    rfl

/-- Of a step, a petition in flight was in flight before, or has just been looked after. -/
theorem waiting_of_step (h : q.Orderly) {j : Nat} {wait : Wait}
    (hwait : (q.step i).phase? j = some (.waiting wait)) :
    q.phase? j = some (.waiting wait) ∨ q.now < wait.timer := by
  cases hp : q.petitions[i]? with
  | none =>
    rw [(step_of_none hp).1] at hwait
    exact .inl hwait
  | some p =>
    obtain ⟨s, ht⟩ := h.tracks hp
    rcases goes_step h ht with ⟨-, hstep, -⟩ | ⟨-, phase, rest, n, d', -, -, hstep, hgoes⟩
    · rw [hstep] at hwait
      exact .inl hwait
    · rw [hstep, phase?_setPhase] at hwait
      split at hwait
      · obtain ⟨_, -, hphase⟩ := Option.map_eq_some_iff.mp hwait
        have hshows := hgoes.shows
        rw [hphase] at hshows
        generalize hgo : s.go q p.device = s' at hshows
        cases hshows with
        | waiting hawaits => exact .inr (Solo.lt_of_go hgo)
      · exact .inl hwait

theorem waiting_of_drop {j : Nat} {wait : Wait}
    (hwait : (q.drop i).phase? j = some (.waiting wait)) :
    q.phase? j = some (.waiting wait) := by
  have hsetPhase : ∀ d' : Desk (Watched Bus), ({ q with desk := d' }.setPhase i .dropped).phase? j =
      some (.waiting wait) → q.phase? j = some (.waiting wait) := by
    intro d' hphase
    rw [phase?_setPhase] at hphase
    split at hphase
    · obtain ⟨_, -, hdropped⟩ := Option.map_eq_some_iff.mp hphase
      cases hdropped
    · exact hphase
  unfold drop at hwait
  split at hwait
  · exact hsetPhase q.desk hwait
  · exact hsetPhase _ hwait
  · exact hwait

theorem now_step (q : PetitionQueue (Watched Bus)) (i : Nat) :
    (q.step i).now = q.now ∧ (q.drop i).now = q.now := by
  refine ⟨?_, ?_⟩
  · unfold step
    split
    · rfl
    · split <;> rfl
  · unfold drop
    split <;> rfl

theorem onTime_after (h : q.Orderly) (hontime : q.OnTime) {happening : Happening}
    (hclock : ∀ now, happening = .clock now → ∀ i wait, q.phase? i = some (.waiting wait) →
      now ≤ wait.timer) : (q.after happening).OnTime := by
  intro i wait hwait
  cases happening with
  | file device =>
    obtain ⟨p, hp, hphase⟩ := Option.map_eq_some_iff.mp hwait
    rcases List.mem_append.mp (List.mem_of_getElem? hp) with hin | hin
    · obtain ⟨k, hk⟩ := List.mem_iff_getElem?.mp hin
      exact hontime k wait ((congrArg (Option.map Petition.phase) hk).trans (congrArg some hphase))
    · cases List.mem_singleton.mp hin
      cases hphase
  | clock now => exact hclock now rfl i wait hwait
  | outside e => exact hontime i wait hwait
  | step j =>
    show (q.step j).now ≤ wait.timer
    rw [(now_step q j).1]
    rcases waiting_of_step h hwait with hbefore | hlt
    · exact hontime i wait hbefore
    · exact Nat.le_of_lt hlt
  | drop j =>
    show (q.drop j).now ≤ wait.timer
    rw [(now_step q j).2]
    exact hontime i wait (waiting_of_drop hwait)

theorem onTime_afterAll (h : q.Orderly) (hontime : q.OnTime) {history : List Happening}
    (htimely : Timely q history) : (q.afterAll history).OnTime := by
  induction history generalizing q with
  | nil => exact hontime
  | cons happening history ih =>
    obtain ⟨hfirst, hrest⟩ := htimely
    exact ih (orderly_after h happening) (onTime_after h hontime hfirst) hrest

/-! ## What is written down -/

/-- A petition for a device of that name goes on. -/
def Touches (name : String) (q : PetitionQueue (Watched Bus)) : Happening → Prop
  | .step i =>
      Concurrent.isOver q i = false ∧
        q.petitions[i]?.map (fun p => p.device.deviceName) = some name
  | _ => False

/-- No petition for a device of that name goes on. -/
def Untouched (name : String) : PetitionQueue (Watched Bus) → List Happening → Prop
  | _, [] => True
  | q, h :: history => ¬ Touches name q h ∧ Untouched name (q.after h) history

/-- The next step of petition `i`, which is for `device`, is its last, and `r` comes of it. -/
structure Ends (q : PetitionQueue (Watched Bus)) (i : Nat) (device : DeviceInfo)
    (r : Except IoError PermissionOutcome) : Prop where
  device : q.petitions[i]?.map Petition.device = some device
  before : Concurrent.isOver q i = false
  after : (q.step i).phase? i = some (.over r)

theorem state?_drop (q : PetitionQueue (Watched Bus)) (i : Nat) (name : String) :
    (q.drop i).desk.state? name = q.desk.state? name := by
  unfold drop
  split
  · rfl
  · next w _ => cases w <;> rfl
  · rfl

theorem state?_after {name : String} (h : q.Orderly) {happening : Happening}
    (huntouched : ¬ Touches name q happening) :
    (q.after happening).desk.state? name = q.desk.state? name := by
  cases happening with
  | file device => rfl
  | clock now => rfl
  | outside e => rfl
  | drop i => exact state?_drop q i name
  | step i =>
    show (q.step i).desk.state? name = _
    cases hp : q.petitions[i]? with
    | none => rw [(step_of_none hp).1]
    | some p =>
      obtain ⟨s, hs⟩ := h.tracks hp
      rcases goes_step h hs with ⟨-, hstep, -⟩ | ⟨hlive, phase, rest, n, d', -, -, hstep, hgoes⟩
      · rw [hstep]
      · rw [hstep]
        refine hgoes.others name fun hname => huntouched ⟨hlive, ?_⟩
        rw [hp, hname]
        rfl

theorem state?_afterAll {name : String} (h : q.Orderly) {history : List Happening}
    (huntouched : Untouched name q history) :
    (q.afterAll history).desk.state? name = q.desk.state? name := by
  induction history generalizing q with
  | nil => rfl
  | cons happening history ih =>
    obtain ⟨hfirst, hrest⟩ := huntouched
    exact (ih (orderly_after h happening) hrest).trans (state?_after h hfirst)

/-- What a wait comes to is written down. -/
theorem Ends.recorded {r : Except IoError PermissionOutcome} (h : q.Orderly)
    (hends : q.Ends i device r) :
    (q.step i).Tracks i device (.ended r) ∧
      (q.step i).desk.state? device.deviceName = Desk.stateAfter r := by
  obtain ⟨p, hp, rfl⟩ := Option.map_eq_some_iff.mp hends.device
  obtain ⟨s, ht⟩ := h.tracks hp
  refine ⟨((moves_step h ht).own ht).of_over hends.after, ?_⟩
  rcases goes_step h ht with ⟨hover, -⟩ | ⟨-, phase, rest, n, d', hp', -, hstep, hgoes⟩
  · cases hends.before.symm.trans hover
  · have hphase : (q.step i).phase? i = some (phaseOf n) := by
      rw [hstep]
      unfold phase?
      rw [petitions_setPhase]
      show (q.petitions[i]?.map _).map _ = _
      rw [hp, Option.map_some, if_pos rfl]
      rfl
    rw [hstep]
    refine hgoes.recorded r ?_
    have hended : phaseOf n = .over r := Option.some.inj (hphase.symm.trans hends.after)
    cases n with
    | waiting w => cases hended
    | ended r' =>
      cases hended
      rfl

/-! ## Watching changes nothing -/

/-- The queue at the registry that is watched. -/
def unwatched {ρ : Type} (q : PetitionQueue (Watched ρ)) : PetitionQueue ρ where
  desk := q.desk.unwatched
  petitions := q.petitions
  now := q.now

theorem unwatched_step (h : q.Orderly) (i : Nat) : (q.step i).unwatched = q.unwatched.step i := by
  cases hp : q.petitions[i]? with
  | none =>
    have hp' : q.unwatched.petitions[i]? = none := hp
    rw [(step_of_none hp).1, (step_of_none hp').1]
  | some p =>
    obtain ⟨s, phase, hphase, hs⟩ := h.tracks hp
    have hphase' : q.unwatched.petitions[i]? = some ⟨p.device, phase⟩ := hphase
    cases hs with
    | new =>
      have hensure := Desk.ensure_unwatched p.device q.now q.desk
      rw [step_new hphase, step_new hphase']
      show _ = setPhase i (phaseOf (Desk.ensure p.device q.now q.desk.unwatched).1)
        { q.unwatched with desk := (Desk.ensure p.device q.now q.desk.unwatched).2 }
      rw [hensure]
      rfl
    | @waiting receiver request deadline hawaits =>
      have hcheck := Desk.check_unwatched p.device q.now receiver deadline q.desk
      rw [step_waiting hphase, step_waiting hphase']
      show _ = setPhase i (phaseOf (Desk.check p.device q.now _ q.desk.unwatched).1)
        { q.unwatched with desk := (Desk.check p.device q.now _ q.desk.unwatched).2 }
      rw [hcheck]
      rfl
    | ended r =>
      unfold step
      rw [hphase, hphase']
    | dropped =>
      unfold step
      rw [hphase, hphase']

theorem unwatched_drop (q : PetitionQueue (Watched Bus)) (i : Nat) :
    (q.drop i).unwatched = q.unwatched.drop i := by
  have hphase : q.unwatched.phase? i = q.phase? i := rfl
  unfold drop
  rw [hphase]
  split
  · rfl
  · next w _ => cases w <;> rfl
  · rfl

/-! ## Every wait settles for itself -/

/-- **Every wait settles for itself**, whatever has happened since the desk was opened.

* Every receiver is registered at most once, stands in the table as long as its wait is in flight,
  and is unregistered exactly once afterwards.  When all petitions are over, the table is empty.
* A petition that is filed now looks like its `Solo` after whatever comes later.
* A wait that goes on when its time is up ends.  Where the clock stops at every deadline, no wait is
  in flight after its own.
* What a wait has come to never changes, and stays written down until a petition for the same device
  goes on.
* Watching the registry changes none of this. -/
theorem each_wait_settles_alone (w : Bus.World) (timeoutMs pollMs : UInt64)
    (history : List Happening) :
    let q := (opening w timeoutMs pollMs).afterAll history
    q.desk.registry.Balanced q.inFlight ∧
      ((∀ i, Concurrent.isOver q i = true) →
        q.desk.registry.registry.receivers.table = []) ∧
      (∀ device later,
        ((q.after (.file device)).afterAll later).Tracks q.petitions.length device
          (Solo.afterAll q.petitions.length device (q.after (.file device)) .new later)) ∧
      (∀ i wait, q.phase? i = some (.waiting wait) → wait.timer ≤ q.now →
        ∃ r, (q.step i).phase? i = some (.over r)) ∧
      (Timely (opening w timeoutMs pollMs) history → q.OnTime) ∧
      (∀ i device r later, q.Ends i device r →
        ((q.step i).afterAll later).phase? i = some (.over r) ∧
          (Untouched device.deviceName (q.step i) later →
            ((q.step i).afterAll later).desk.state? device.deviceName = Desk.stateAfter r)) ∧
      ∀ i, (q.step i).unwatched = q.unwatched.step i ∧
        (q.drop i).unwatched = q.unwatched.drop i := by
  intro q
  have h : q.Orderly := orderly_afterAll (orderly_opening w timeoutMs pollMs) history
  refine ⟨h.tidy.balanced, table_of_isOver h, ?_, ?_, ?_, ?_, ?_⟩
  · intro device later
    exact tracks_afterAll (orderly_after h _) (tracks_file q device) later
  · intro i wait hphase htime
    exact over_of_timer h hphase htime
  · intro htimely
    refine onTime_afterAll (orderly_opening w timeoutMs pollMs) ?_ htimely
    intro i wait hwait
    cases hwait
  · intro i device r later hends
    obtain ⟨hended, hrecorded⟩ := hends.recorded h
    have hstep : (q.step i).Orderly := orderly_after h (.step i)
    refine ⟨?_, ?_⟩
    · have hlater := tracks_afterAll hstep hended later
      rw [Solo.afterAll_ended] at hlater
      exact hlater.phase?_ended
    · intro huntouched
      exact (state?_afterAll hstep huntouched).trans hrecorded
  · intro i
    exact ⟨unwatched_step h i, unwatched_drop q i⟩

/-- A stick. -/
def stick : DeviceInfo := ⟨"usb1", none, none, 1, 2⟩

/-- A card reader. -/
def card : DeviceInfo := ⟨"usb2", none, none, 3, 4⟩

/-- A user who lets questions wait, with notifications that contradict themselves. -/
def slowUser : PetitionQueue (Watched Bus) :=
  opening { response := .ignore, contradicts := true } 1000 500

/-- Three petitions, two of them for the stick.  The one for the card is given up, the second one
for the stick is answered, and then it is time. -/
def untilDeadline : List Happening :=
  [.file stick, .file card, .file stick, .step 0, .step 1, .step 2, .drop 1,
    .outside (.notify ⟨2, stick⟩ false), .clock 1000]

/-- The first petition is answered as well, but it is over. -/
def tooLate : List Happening :=
  [.outside (.notify ⟨0, stick⟩ true), .step 0, .step 1, .outside (.answer true)]

theorem each_wait_settles_alone_late :
    (Timely slowUser untilDeadline ∧ (slowUser.afterAll untilDeadline).OnTime) ∧
      (∃ r, ((slowUser.afterAll untilDeadline).step 0).phase? 0 = some (.over r)) ∧
      ((slowUser.afterAll untilDeadline).Ends 0 stick (.ok (.timedOut 1000)) ∧
        Untouched "usb1" ((slowUser.afterAll untilDeadline).step 0) tooLate ∧
        (((slowUser.afterAll untilDeadline).step 0).afterAll tooLate).phase? 0 =
          some (.over (.ok (.timedOut 1000))) ∧
        (((slowUser.afterAll untilDeadline).step 0).afterAll tooLate).desk.state? "usb1" = none) ∧
      (slowUser.afterAll
        (untilDeadline ++ [.step 0, .step 2])).desk.registry.registry.receivers.table = [] := by
  obtain ⟨-, -, -, hends, hontime, hkept, -⟩ :=
    each_wait_settles_alone { response := .ignore, contradicts := true } 1000 500 untilDeadline
  obtain ⟨-, hempty, -⟩ :=
    each_wait_settles_alone { response := .ignore, contradicts := true } 1000 500
      (untilDeadline ++ [.step 0, .step 2])
  have htimely : Timely slowUser untilDeadline := by
    refine ⟨nofun, nofun, nofun, nofun, nofun, nofun, nofun, nofun, ?_, trivial⟩
    rintro now ⟨⟩ i wait hwait
    match i with
    | 0 =>
      cases hwait
      exact Nat.le_refl 1000
    | 1 => cases hwait
    | 2 =>
      cases hwait
      exact Nat.le_refl 1000
    | i + 3 => cases hwait
  have hlast : (slowUser.afterAll untilDeadline).Ends 0 stick (.ok (.timedOut 1000)) :=
    ⟨rfl, rfl, rfl⟩
  have huntouched : Untouched "usb1" ((slowUser.afterAll untilDeadline).step 0) tooLate := by
    refine ⟨nofun, ?_, ?_, nofun, trivial⟩
    · rintro ⟨hlive, -⟩
      cases hlive
    · rintro ⟨hlive, -⟩
      cases hlive
  obtain ⟨hphase, hstate⟩ := hkept 0 stick _ tooLate hlast
  refine ⟨⟨htimely, hontime htimely⟩, ?_, ⟨hlast, huntouched, hphase, hstate huntouched⟩, ?_⟩
  · exact hends 0 (.notification 1 1000) rfl (Nat.le_refl 1000)
  · refine hempty fun i => ?_
    match i with
    | 0 => rfl
    | 1 => rfl
    | 2 => rfl
    | i + 3 => rfl

end PetitionQueue
end ThumbDrive

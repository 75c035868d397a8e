import ThumbDrive.Proofs.Negotiation

/-! # Any number of waits

Petitions are filed, looked after and given up in any order.  Between these steps the clock is set,
the user answers what is open, single requests are answered again or out of turn, and devices, the
user's habits and the failures of the bus change.  The strategy is to wait for a notification.

`Orderly` is what all of this keeps: the receivers of the waits in flight are accounted for, and
every petition looks like some `Solo`.  That it looks like its *own* `Solo`, the one that sees
nothing but its own steps, the clock and the answers to its own request, follows step by step
(`tracks_after`): a turn of one wait spares all others, and an answer reaches the receivers of its
own request. -/
namespace ThumbDrive

/-! ## What can happen -/

/-- What others make of the bus. -/
structure Bus.World where
  devices : List BusDevice := []
  response : Response := .grant
  requestError : Option IoError := none
  contradicts : Bool := false

/-- What happens to the bus while somebody waits. -/
inductive Bus.Event where
  /-- The user answers all open questions. -/
  | answer (granted : Bool)
  /-- One request is answered, be it open, answered already, given up or unknown. -/
  | notify (q : PermissionRequest) (granted : Bool)
  | change (world : Bus.World)

namespace Bus

/-- The bus in another world. -/
def inWorld (b : Bus) (w : World) : Bus :=
  { b with
    devices := w.devices, response := w.response,
    requestError := w.requestError, contradicts := w.contradicts }

/-- The bus after an event. -/
def meet (b : Bus) : Event → Bus
  | .answer granted => b.answerPending granted
  | .notify q granted => b.deliver q granted
  | .change w => b.inWorld w

end Bus

/-- A watched bus meets an event, and nobody calls the registry. -/
def Desk.meet (d : Desk (Watched Bus)) (e : Bus.Event) : Desk (Watched Bus) :=
  { d with registry := { d.registry with registry := d.registry.registry.meet e } }

namespace PetitionQueue

/-- What happens next. -/
inductive Happening where
  | file (device : DeviceInfo)
  | step (i : Nat)
  | drop (i : Nat)
  | clock (now : Nat)
  | outside (e : Bus.Event)

/-- The queue after something has happened. -/
def after (q : PetitionQueue (Watched Bus)) : Happening → PetitionQueue (Watched Bus)
  | .file device => { q with petitions := q.petitions ++ [{ device }] }
  | .step i => q.step i
  | .drop i => q.drop i
  | .clock now => { q with now }
  | .outside e => { q with desk := q.desk.meet e }

/-- The queue after a history. -/
def afterAll (q : PetitionQueue (Watched Bus)) (history : List Happening) :
    PetitionQueue (Watched Bus) :=
  history.foldl after q

/-- A desk that waits for notifications, with nobody in front of it. -/
def opening (w : Bus.World) (timeoutMs pollMs : UInt64) : PetitionQueue (Watched Bus) where
  desk :=
    { registry := { registry := Bus.inWorld {} w }
      config := ⟨timeoutMs, pollMs, .event⟩ }

end PetitionQueue

namespace Solo
open PetitionQueue

/-- Goes on, with what the queue knows of the bus and the clock. -/
def go (q : PetitionQueue (Watched Bus)) (device : DeviceInfo) : Solo → Solo
  | .new =>
      ask q.desk.registry.registry device q.desk.nextRequest q.desk.config.timeoutMs.toNat q.now
  | s => s.look q.desk.config.timeoutMs.toNat q.now

/-- Once its time is up, a wait ends when it goes on. -/
theorem look_of_le (timeoutMs : Nat) {deadline now : Nat} (h : deadline ≤ now)
    (request : RequestId) (answer : Option Bool) :
    ∃ r, (Solo.waiting request deadline answer).look timeoutMs now = .ended r := by
  unfold look Wait.verdict?
  cases answer with
  | none => exact ⟨.ok (.timedOut timeoutMs), by simp [h]⟩
  | some granted => cases granted <;> exact ⟨_, rfl⟩

/-- Hears what happens on the bus: of single answers, only those to its own request. -/
def meet (s : Solo) : Bus.Event → Solo
  | .answer granted => s.hear granted
  | .notify q granted => if s.request? = some q.id then s.hear granted else s
  | .change _ => s

/-- Who has no request has nothing to hear. -/
theorem meet_of_request? {s : Solo} (h : s.request? = none) (e : Bus.Event) : s.meet e = s := by
  cases s with
  | waiting request deadline answer => cases h
  | new => cases e <;> simp [meet, hear]
  | ended r => cases e <;> simp [meet, hear]
  | dropped => cases e <;> simp [meet, hear]

/-- The petition with number `i` after something has happened. Steps of others are not seen. -/
def after (i : Nat) (device : DeviceInfo) (q : PetitionQueue (Watched Bus)) (s : Solo) :
    Happening → Solo
  | .step j => if j = i then s.go q device else s
  | .drop j => if j = i then s.quit else s
  | .outside e => s.meet e
  | .file _ => s
  | .clock _ => s

/-- The petition with number `i` after a history. -/
def afterAll (i : Nat) (device : DeviceInfo) :
    PetitionQueue (Watched Bus) → Solo → List Happening → Solo
  | _, s, [] => s
  | q, s, h :: history => afterAll i device (q.after h) (s.after i device q h) history

/-- What has ended stays so. -/
theorem afterAll_ended (i : Nat) (device : DeviceInfo) (q : PetitionQueue (Watched Bus))
    (r : Except IoError PermissionOutcome) (history : List Happening) :
    afterAll i device q (.ended r) history = .ended r := by
  induction history generalizing q with
  | nil => rfl
  | cons h history ih =>
    have hstays : (Solo.ended r).after i device q h = .ended r := by
      cases h with
      | step j => exact ite_self _
      | drop j => exact ite_self _
      | outside e => exact meet_of_request? rfl e
      | file device' => rfl
      | clock now => rfl
    show afterAll i device (q.after h) ((Solo.ended r).after i device q h) history = _
    rw [hstays]
    exact ih (q.after h)

end Solo

namespace PetitionQueue

/-! ## Who is in flight -/

/-- The receivers of some petitions. -/
def receiversOf (ps : List Petition) : List ReceiverId :=
  ps.flatMap fun p => p.phase.receiver?.toList

/-- The receivers of the waits in flight. -/
def inFlight (q : PetitionQueue (Watched Bus)) : List ReceiverId := receiversOf q.petitions

/-- Petition `p` has number `i`, and `rest` are the receivers of the others. -/
structure Parted (ps : List Petition) (i : Nat) (p : Petition) (rest : List ReceiverId) : Prop where
  whole : ∀ id, (receiversOf ps).count id = (p.phase.receiver?.toList ++ rest).count id
  changed : ∀ phase id, (receiversOf (ps.modify i fun p => { p with phase })).count id =
    (phase.receiver?.toList ++ rest).count id
  others : ∀ {j p' receiver}, j ≠ i → ps[j]? = some p' →
    p'.phase.receiver? = some receiver → receiver ∈ rest

theorem exists_parted {ps : List Petition} {i : Nat} {p : Petition} (h : ps[i]? = some p) :
    ∃ rest, Parted ps i p rest := by
  induction ps generalizing i with
  | nil => cases h
  | cons first ps ih =>
    cases i with
    | zero =>
      cases h
      refine ⟨receiversOf ps, fun _ => rfl, fun _ _ => rfl, ?_⟩
      intro j p' receiver hj hp' hreceiver
      cases j with
      | zero => exact absurd rfl hj
      | succ j =>
        refine List.mem_flatMap.mpr ⟨p', List.mem_of_getElem? hp', ?_⟩
        rw [hreceiver]
        exact List.mem_singleton_self _
    | succ i =>
      obtain ⟨rest, hrest⟩ := ih h
      refine ⟨first.phase.receiver?.toList ++ rest, ?_, ?_, ?_⟩
      · intro id
        have hwhole := hrest.whole id
        show (first.phase.receiver?.toList ++ receiversOf ps).count id = _
        simp only [List.count_append] at hwhole ⊢
        omega
      · intro phase id
        have hchanged := hrest.changed phase id
        show (first.phase.receiver?.toList ++
          receiversOf (ps.modify i fun p => { p with phase })).count id = _
        simp only [List.count_append] at hchanged ⊢
        omega
      · intro j p' receiver hj hp' hreceiver
        cases j with
        | zero =>
          cases hp'
          rw [hreceiver]
          exact List.mem_append_left _ (List.mem_singleton_self _)
        | succ j =>
          have hji : j ≠ i := fun hji => hj (congrArg Nat.succ hji)
          exact List.mem_append_right _ (hrest.others hji hp' hreceiver)

/-! ## What is kept -/

/-- Petition `i`, for `device`, looks like `s`. -/
def Tracks (q : PetitionQueue (Watched Bus)) (i : Nat) (device : DeviceInfo) (s : Solo) : Prop :=
  ∃ phase, q.petitions[i]? = some ⟨device, phase⟩ ∧ q.desk.Shows s phase

/-- **Everybody who waits is accounted for**, and waits for a notification. -/
structure Orderly (q : PetitionQueue (Watched Bus)) : Prop where
  event : q.desk.config.strategy = .event
  tidy : q.desk.Tidy q.inFlight
  tracks : ∀ {i p}, q.petitions[i]? = some p → ∃ s, q.Tracks i p.device s

end PetitionQueue

namespace Desk
variable {d d' : Desk (Watched Bus)} {flight flight' : List ReceiverId} {s : Solo}
  {phase : Petition.Phase}

theorem Tidy.congr (h : d.Tidy flight) (hflight : ∀ id, flight'.count id = flight.count id) :
    d.Tidy flight' :=
  ⟨h.balanced.congr rfl rfl rfl hflight, h.matched⟩

/-- Whose receiver is spared looks as before. -/
theorem Shows.of_spares (hs : d.Shows s phase)
    (h : ∀ receiver, phase.receiver? = some receiver → Spares d d' receiver) :
    d'.Shows s phase := by
  cases hs with
  | new => exact .new
  | @waiting receiver request deadline hawaits =>
    obtain ⟨hkept, hanswer⟩ := h receiver rfl
    rw [← hanswer]
    exact .waiting (hkept request hawaits)
  | ended r => exact .ended r
  | dropped => exact .dropped

theorem table_meet (d : Desk (Watched Bus)) (e : Bus.Event) :
    (d.meet e).registry.registry.receivers.table = d.registry.registry.receivers.table ∧
      (d.meet e).registry.registry.receivers.next = d.registry.registry.receivers.next := by
  cases e with
  | answer granted =>
    have hreceivers := d.registry.registry.receivers_answerPending granted
    unfold meet Bus.meet
    rw [hreceivers]
    exact Receivers.table_deliverAll ..
  | notify q granted =>
    have hreceivers := (d.registry.registry.receivers_deliver q granted).1
    unfold meet Bus.meet
    rw [hreceivers]
    exact ⟨rfl, rfl⟩
  | change w => exact ⟨rfl, rfl⟩

/-- Events on the bus register and unregister nobody. -/
theorem Tidy.meet (h : d.Tidy flight) (e : Bus.Event) : (d.meet e).Tidy flight := by
  obtain ⟨htable, hnext⟩ := d.table_meet e
  refine ⟨h.balanced.congr rfl htable hnext fun _ => rfl, ?_⟩
  cases e with
  | answer granted => exact h.matched.answerPending granted
  | notify q granted => exact h.matched.deliver q granted
  | change w => exact h.matched.shrink (Nat.le_refl _) (fun _ hin => hin) (Nat.le_refl _) rfl rfl

/-- The first answer to its request counts for a receiver, and no other. -/
theorem Tidy.answer?_meet (h : d.Tidy flight) {receiver : ReceiverId} {request : RequestId}
    (hawaits : d.Awaits receiver request) (deadline : Nat) (e : Bus.Event) :
    (Solo.waiting request deadline (d.answer? receiver)).meet e =
      .waiting request deadline ((d.meet e).answer? receiver) := by
  cases e with
  | answer granted =>
    exact congrArg _ (h.matched.answer?_answerPending granted hawaits).symm
  | notify q granted =>
    have hanswer : (d.meet (.notify q granted)).answer? receiver = (d.answer? receiver).or
        (if (receiver, q.id) ∈ d.registry.registry.receivers.table then some granted else none) :=
      d.registry.registry.answer?_deliver q granted receiver
    rw [hanswer]
    dsimp only [Solo.meet]
    by_cases hq : request = q.id
    · subst hq
      have hown : (Solo.waiting q.id deadline (d.answer? receiver)).request? = some q.id := rfl
      have hin : (receiver, q.id) ∈ d.registry.registry.receivers.table := hawaits
      rw [if_pos hown, if_pos hin]
      rfl
    · -- a receiver is registered for one request
      have hother : (receiver, q.id) ∉ d.registry.registry.receivers.table :=
        fun hin => hq (h.matched.single hawaits hin)
      have hforeign : (Solo.waiting request deadline (d.answer? receiver)).request? ≠ some q.id :=
        fun heq => hq (Option.some.inj heq)
      rw [if_neg hforeign, if_neg hother, Option.or_none]
  | change w => rfl

/-- **An answer reaches those who wait for it, and nobody else.** -/
theorem Shows.meet (h : d.Tidy flight) (hs : d.Shows s phase) (e : Bus.Event) :
    (d.meet e).Shows (s.meet e) phase := by
  cases hs with
  | new =>
    rw [Solo.meet_of_request? rfl]
    exact .new
  | @waiting receiver request deadline hawaits =>
    rw [h.answer?_meet hawaits deadline e]
    refine .waiting ?_
    unfold Awaits
    rw [(d.table_meet e).1]
    exact hawaits
  | ended r =>
    rw [Solo.meet_of_request? rfl]
    exact .ended r
  | dropped =>
    rw [Solo.meet_of_request? rfl]
    exact .dropped

end Desk

namespace PetitionQueue
variable {q : PetitionQueue (Watched Bus)} {i : Nat} {p : Petition} {device : DeviceInfo} {s : Solo}
  {rest : List ReceiverId}

/-! ## One petition moves -/

theorem petitions_setPhase (q : PetitionQueue (Watched Bus)) (i : Nat) (phase : Petition.Phase)
    (j : Nat) : (q.setPhase i phase).petitions[j]? =
      q.petitions[j]?.map fun p => if i = j then { p with phase } else p := by
  show (q.petitions.modify i _)[j]? = _
  rw [List.getElem?_modify]
  rfl

/-- **One petition moves**, and what looked like `s` looks like `s'` afterwards. -/
inductive Moves (q : PetitionQueue (Watched Bus)) (i : Nat) (device : DeviceInfo) (s : Solo) :
    Solo → PetitionQueue (Watched Bus) → Prop where
  | stays : Moves q i device s s q
  | turns {phase phase' : Petition.Phase} {rest : List ReceiverId} {d' : Desk (Watched Bus)}
      {s' : Solo} (hp : q.petitions[i]? = some ⟨device, phase⟩)
      (hparted : Parted q.petitions i ⟨device, phase⟩ rest)
      (hturns : q.desk.Turns d' rest phase'.receiver?) (hs : d'.Shows s' phase') :
      Moves q i device s s' ({ q with desk := d' }.setPhase i phase')

namespace Moves
variable {q' : PetitionQueue (Watched Bus)} {s' : Solo}

theorem own (h : Moves q i device s s' q') (ht : q.Tracks i device s) :
    q'.Tracks i device s' := by
  cases h with
  | stays => exact ht
  | @turns phase phase' rest d' s' hp hparted hturns hs =>
    refine ⟨phase', ?_, hs⟩
    rw [petitions_setPhase]
    show q.petitions[i]?.map _ = _
    rw [hp, Option.map_some, if_pos rfl]

/-- The others look as before. -/
theorem others (h : Moves q i device s s' q') {j : Nat} (hji : j ≠ i) {device' : DeviceInfo}
    {other : Solo} (ht : q.Tracks j device' other) : q'.Tracks j device' other := by
  cases h with
  | stays => exact ht
  | @turns phase phase' rest d' s' hp hparted hturns hs =>
    obtain ⟨phase₀, hp₀, hs₀⟩ := ht
    refine ⟨phase₀, ?_, ?_⟩
    · rw [petitions_setPhase]
      show q.petitions[j]?.map _ = _
      rw [hp₀, Option.map_some, if_neg (Ne.symm hji)]
    · refine hs₀.of_spares fun receiver hreceiver => ?_
      exact hturns.spares receiver (hparted.others hji hp₀ hreceiver)

theorem orderly (h : Moves q i device s s' q') (ht : q.Tracks i device s) (ho : q.Orderly) :
    q'.Orderly := by
  cases h with
  | stays => exact ho
  | @turns phase phase' rest d' s' hp hparted hturns hs =>
    refine ⟨hturns.config ▸ ho.event, hturns.tidy.congr (hparted.changed phase'), ?_⟩
    intro j p' hp'
    have hmoves : Moves q i device s s' ({ q with desk := d' }.setPhase i phase') :=
      .turns hp hparted hturns hs
    rw [petitions_setPhase] at hp'
    obtain ⟨p₀, hp₀, rfl⟩ := Option.map_eq_some_iff.mp hp'
    by_cases hij : i = j
    · subst hij
      have hsame : p₀ = ⟨device, phase⟩ := Option.some.inj (hp₀.symm.trans hp)
      subst hsame
      rw [if_pos rfl]
      exact ⟨s', hmoves.own ht⟩
    · rw [if_neg hij]
      obtain ⟨other, hother⟩ := ho.tracks hp₀
      exact ⟨other, hmoves.others (Ne.symm hij) hother⟩

end Moves

theorem step_new {ρ : Type} [Registry ρ] {q : PetitionQueue ρ}
    (hp : q.petitions[i]? = some ⟨device, .new⟩) :
    q.step i = { q with desk := (Desk.ensure device q.now q.desk).2 }.setPhase i
      (phaseOf (Desk.ensure device q.now q.desk).1) := by
  unfold step
  rw [hp]
  rfl

theorem step_waiting {ρ : Type} [Registry ρ] {q : PetitionQueue ρ} {w : Wait}
    (hp : q.petitions[i]? = some ⟨device, .waiting w⟩) :
    q.step i = { q with desk := (Desk.check device q.now w q.desk).2 }.setPhase i
      (phaseOf (Desk.check device q.now w q.desk).1) := by
  unfold step
  rw [hp]
  rfl

/-- **A step of a petition is a turn of its wait**, unless it is over. -/
theorem goes_step (h : q.Orderly) (ht : q.Tracks i device s) :
    (Concurrent.isOver q i = true ∧ q.step i = q ∧ s.go q device = s) ∨
      Concurrent.isOver q i = false ∧
        ∃ phase rest n d', q.petitions[i]? = some ⟨device, phase⟩ ∧
          Parted q.petitions i ⟨device, phase⟩ rest ∧
          q.step i = { q with desk := d' }.setPhase i (phaseOf n) ∧
          q.desk.Goes device rest (s.go q device) (n, d') := by
  obtain ⟨phase, hp, hs⟩ := ht
  obtain ⟨rest, hparted⟩ := exists_parted hp
  have htidy := h.tidy.congr fun id => (hparted.whole id).symm
  have hphase : q.phase? i = some phase := congrArg (Option.map Petition.phase) hp
  cases hs with
  | new =>
    refine .inr ⟨?_, _, rest, _, _, hp, hparted, step_new hp, ?_⟩
    · simp only [Concurrent.isOver, hphase]
    · exact Desk.goes_ensure htidy h.event device q.now
  | @waiting receiver request deadline hawaits =>
    refine .inr ⟨?_, _, rest, _, _, hp, hparted, step_waiting hp, ?_⟩
    · simp only [Concurrent.isOver, hphase]
    · exact Desk.goes_check htidy hawaits device q.now deadline
  | ended r =>
    refine .inl ⟨?_, ?_, rfl⟩
    · simp only [Concurrent.isOver, hphase]
    · unfold step
      rw [hp]
  | dropped =>
    refine .inl ⟨?_, ?_, rfl⟩
    · simp only [Concurrent.isOver, hphase]
    · unfold step
      rw [hp]

theorem moves_step (h : q.Orderly) (ht : q.Tracks i device s) :
    Moves q i device s (s.go q device) (q.step i) := by
  rcases goes_step h ht with ⟨-, hstep, hgo⟩ | ⟨-, phase, rest, n, d', hp, hparted, hstep, hgoes⟩
  · rw [hstep, hgo]
    exact .stays
  · rw [hstep]
    exact .turns hp hparted hgoes.turns hgoes.shows

/-- A petition is given up, unless it is over. -/
theorem moves_drop (h : q.Orderly) (ht : q.Tracks i device s) :
    Moves q i device s s.quit (q.drop i) := by
  obtain ⟨phase, hp, hs⟩ := ht
  obtain ⟨rest, hparted⟩ := exists_parted hp
  have htidy := h.tidy.congr fun id => (hparted.whole id).symm
  have hphase : q.phase? i = some phase := congrArg (Option.map Petition.phase) hp
  unfold drop
  rw [hphase]
  cases hs with
  | new =>
    have hturns : q.desk.Turns q.desk rest none := ⟨htidy, rfl, fun receiver _ => .of_eq rfl rfl⟩
    exact .turns hp hparted hturns .dropped
  | @waiting receiver request deadline hawaits =>
    exact .turns hp hparted (Desk.turns_unregister htidy) .dropped
  | ended r => exact .stays
  | dropped => exact .stays

/-! ## Whatever happens -/

/-- A number that no petition has. -/
theorem step_of_none {ρ : Type} [Registry ρ] {q : PetitionQueue ρ}
    (hp : q.petitions[i]? = none) : q.step i = q ∧ q.drop i = q := by
  unfold step drop phase?
  rw [hp]
  exact ⟨rfl, rfl⟩

/-- At most petition `j` moves. -/
def Turn (q : PetitionQueue (Watched Bus)) (j : Nat) (q' : PetitionQueue (Watched Bus)) : Prop :=
  q' = q ∨ ∃ device s s', q.Tracks j device s ∧ Moves q j device s s' q'

theorem turn_step (h : q.Orderly) (j : Nat) : Turn q j (q.step j) := by
  cases hp : q.petitions[j]? with
  | none => exact .inl (step_of_none hp).1
  | some p =>
    obtain ⟨s, hs⟩ := h.tracks hp
    exact .inr ⟨p.device, s, _, hs, moves_step h hs⟩

theorem turn_drop (h : q.Orderly) (j : Nat) : Turn q j (q.drop j) := by
  cases hp : q.petitions[j]? with
  | none => exact .inl (step_of_none hp).2
  | some p =>
    obtain ⟨s, hs⟩ := h.tracks hp
    exact .inr ⟨p.device, s, _, hs, moves_drop h hs⟩

theorem Turn.others {q' : PetitionQueue (Watched Bus)} {j : Nat} (h : Turn q j q') (hij : i ≠ j)
    (ht : q.Tracks i device s) : q'.Tracks i device s := by
  obtain rfl | ⟨_, _, _, -, hmoves⟩ := h
  · exact ht
  · exact hmoves.others hij ht

theorem Turn.orderly {q' : PetitionQueue (Watched Bus)} {j : Nat} (h : Turn q j q')
    (ho : q.Orderly) : q'.Orderly := by
  obtain rfl | ⟨_, _, _, ht, hmoves⟩ := h
  · exact ho
  · exact hmoves.orderly ht ho

/-- **Every petition sees its own steps and the answers to its own request.** -/
theorem tracks_after (h : q.Orderly) (ht : q.Tracks i device s) (happening : Happening) :
    (q.after happening).Tracks i device (s.after i device q happening) := by
  cases happening with
  | file device' =>
    obtain ⟨phase, hp, hs⟩ := ht
    refine ⟨phase, ?_, hs⟩
    show (q.petitions ++ _)[i]? = _
    rw [List.getElem?_append_left (List.getElem?_eq_some_iff.mp hp).1, hp]
  | clock now => exact ht
  | outside e =>
    obtain ⟨phase, hp, hs⟩ := ht
    exact ⟨phase, hp, hs.meet h.tidy e⟩
  | step j =>
    show (q.step j).Tracks i device (if j = i then s.go q device else s)
    by_cases hji : j = i
    · subst hji
      rw [if_pos rfl]
      exact (moves_step h ht).own ht
    · rw [if_neg hji]
      exact (turn_step h j).others (Ne.symm hji) ht
  | drop j =>
    show (q.drop j).Tracks i device (if j = i then s.quit else s)
    by_cases hji : j = i
    · subst hji
      rw [if_pos rfl]
      exact (moves_drop h ht).own ht
    · rw [if_neg hji]
      exact (turn_drop h j).others (Ne.symm hji) ht

/-- A petition that was just filed is new. -/
theorem tracks_file (q : PetitionQueue (Watched Bus)) (device : DeviceInfo) :
    (q.after (.file device)).Tracks q.petitions.length device .new :=
  ⟨.new, List.getElem?_concat_length, .new⟩

/-- **What is in order stays in order.** -/
theorem orderly_after (h : q.Orderly) (happening : Happening) : (q.after happening).Orderly := by
  cases happening with
  | file device' =>
    have hflight :
        receiversOf (q.petitions ++ [{ device := device' }]) = receiversOf q.petitions := by
      unfold receiversOf
      rw [List.flatMap_append]
      exact List.append_nil _
    refine ⟨h.event, h.tidy.congr fun id => congrArg (List.count id) hflight, ?_⟩
    intro i p hp
    by_cases hi : i < q.petitions.length
    · have hold : q.petitions[i]? = some p := by
        rw [← hp]
        exact (List.getElem?_append_left hi).symm
      obtain ⟨s, hs⟩ := h.tracks hold
      exact ⟨_, tracks_after h hs (.file device')⟩
    · have hnew : i = q.petitions.length := by
        have hlength : i < (q.petitions ++ [Petition.mk device' .new]).length :=
          (List.getElem?_eq_some_iff.mp hp).1
        rw [List.length_append, List.length_singleton] at hlength
        omega
      subst hnew
      have hp : (q.petitions ++ [Petition.mk device' .new])[q.petitions.length]? = some p := hp
      rw [List.getElem?_concat_length] at hp
      cases hp
      exact ⟨.new, tracks_file q device'⟩
  | clock now => exact ⟨h.event, h.tidy, h.tracks⟩
  | outside e =>
    refine ⟨h.event, h.tidy.meet e, ?_⟩
    intro i p hp
    obtain ⟨s, hs⟩ := h.tracks hp
    exact ⟨_, tracks_after h hs (.outside e)⟩
  | step i => exact (turn_step h i).orderly h
  | drop i => exact (turn_drop h i).orderly h

theorem orderly_opening (w : Bus.World) (timeoutMs pollMs : UInt64) :
    (opening w timeoutMs pollMs).Orderly := by
  refine ⟨rfl, ⟨⟨fun _ => rfl, fun _ => rfl, fun _ => Nat.zero_le _, fun _ _ => rfl⟩, ?_⟩, ?_⟩
  · exact ⟨nofun, nofun, nofun, nofun, nofun⟩
  · intro i p hp
    cases hp

theorem orderly_afterAll (h : q.Orderly) (history : List Happening) :
    (q.afterAll history).Orderly := by
  induction history generalizing q with
  | nil => exact h
  | cons happening history ih => exact ih (orderly_after h happening)

theorem tracks_afterAll (h : q.Orderly) (ht : q.Tracks i device s) (history : List Happening) :
    (q.afterAll history).Tracks i device (Solo.afterAll i device q s history) := by
  induction history generalizing q s with
  | nil => exact ht
  | cons happening history ih => exact ih (orderly_after h happening) (tracks_after h ht happening)

end PetitionQueue
end ThumbDrive

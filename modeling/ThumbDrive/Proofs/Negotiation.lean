import ThumbDrive.Permission.Queue
import ThumbDrive.Proofs.Receivers

/-! # One wait at the desk

What a wait for a notification comes to depends on few things: whether access was granted or the
question could not be put when it started, the first answer to its own request, and the clock when
it is looked after.  `Solo` is such a wait by itself.  It has no table of receivers, no numbers of
receivers and nobody beside it.

A step of the desk for one petition agrees with a step of its `Solo`, keeps the books of the
receivers, and spares the receivers of all other waits (`Desk.goes_ensure`, `Desk.goes_check`). -/
namespace ThumbDrive

/-- How a wait for a notification ends that is looked after at `now`, if it does: with its answer,
or with its time. -/
def Wait.verdict? (timeoutMs deadline now : Nat) : Option Bool → Option PermissionOutcome
  | some true => some .granted
  | some false => some .denied
  | none => if deadline ≤ now then some (.timedOut timeoutMs) else none

/-! ## A wait by itself -/

/-- A petition for access, without the desk. -/
inductive Solo where
  | new
  /-- With the first answer to its request, once there is one. -/
  | waiting (request : RequestId) (deadline : Nat) (answer : Option Bool)
  | ended (r : Except IoError PermissionOutcome)
  | dropped

namespace Solo

/-- Looks whether there is an answer, and only then at the clock. -/
def look (timeoutMs now : Nat) : Solo → Solo
  | .waiting request deadline answer =>
      match Wait.verdict? timeoutMs deadline now answer with
      | some outcome => .ended (.ok outcome)
      | none => .waiting request deadline answer
  | s => s

/-- Puts the question, unless access is granted; the user may answer on the spot. -/
def ask (b : Bus) (device : DeviceInfo) (request : RequestId) (timeoutMs now : Nat) : Solo :=
  if b.isGranted device then .ended (.ok .granted)
  else
    match b.requestError with
    | some e => .ended (.error e)
    | none => (waiting request (now + timeoutMs) b.response.answer?).look timeoutMs now

/-- Hears an answer to its request. Only the first one counts. -/
def hear (granted : Bool) : Solo → Solo
  | .waiting request deadline answer => .waiting request deadline (answer.or (some granted))
  | s => s

/-- The request of a wait. -/
def request? : Solo → Option RequestId
  | .waiting request _ _ => some request
  | _ => none

/-- Gives up. -/
def quit : Solo → Solo
  | .ended r => .ended r
  | _ => .dropped

end Solo

namespace Petition.Phase

/-- The receiver of a wait. -/
def receiver? : Phase → Option ReceiverId
  | .waiting (.notification receiver _) => some receiver
  | _ => none

end Petition.Phase

/-- A map of registries under which every call to them does the same. -/
structure Registry.Respects {ρ ρ' : Type} [Registry ρ] [Registry ρ'] (f : ρ → ρ') : Prop where
  hasPermission : ∀ device r, Registry.hasPermission device (f r) =
    ((Registry.hasPermission device r).1, f (Registry.hasPermission device r).2)
  register : ∀ request r, Registry.register request (f r) =
    ((Registry.register request r).1, f (Registry.register request r).2)
  unregister : ∀ receiver r, Registry.unregister receiver (f r) = f (Registry.unregister receiver r)
  request : ∀ q r, Registry.request q (f r) = ((Registry.request q r).1, f (Registry.request q r).2)
  deliveries : ∀ r, Registry.deliveries (f r) = Registry.deliveries r

/-! ## What the desk does -/

namespace Desk
variable {ρ : Type}

theorem bind_apply {α β : Type} (x : StateM (Desk ρ) α) (f : α → StateM (Desk ρ) β) (d : Desk ρ) :
    (x >>= f) d = f (x d).1 (x d).2 := rfl

theorem get_apply (d : Desk ρ) : (get : StateM (Desk ρ) (Desk ρ)) d = (d, d) := rfl

variable [Registry ρ]

/-- The desk after a wait: its receiver is unregistered, and what it came to is written down. -/
def settle (device : DeviceInfo) (receiver : ReceiverId) (r : Except IoError PermissionOutcome)
    (d : Desk ρ) : Desk ρ :=
  setState device.deviceName (stateAfter r)
    { d with registry := Registry.unregister receiver d.registry }

/-- The desk with a new receiver and a new question. -/
def ask (device : DeviceInfo) (d : Desk ρ) : Except IoError Unit × ReceiverId × Desk ρ :=
  let (_, asked) := Registry.hasPermission device d.registry
  let (receiver, registered) := Registry.register d.nextRequest asked
  let (r, registry) := Registry.request ⟨d.nextRequest, device⟩ registered
  (r, receiver,
    { setState device.deviceName (some (.pending d.nextRequest)) d with
      registry, nextRequest := d.nextRequest + 1 })

theorem check_eq (device : DeviceInfo) (now : Nat) (receiver : ReceiverId) (deadline : Nat)
    (d : Desk ρ) :
    check device now (.notification receiver deadline) d =
      match Wait.verdict? d.config.timeoutMs.toNat deadline now (d.answer? receiver) with
      | some outcome => (.ended (.ok outcome), d.settle device receiver (.ok outcome))
      | none => (.waiting (.notification receiver deadline), d) := by
  rw [check, bind_apply, get_apply]
  dsimp only
  cases d.answer? receiver with
  | some granted => cases granted <;> rfl
  | none =>
    by_cases htime : deadline ≤ now
    · simp only [Wait.verdict?, if_pos htime]
      rfl
    · simp only [Wait.verdict?, if_neg htime]
      rfl

/-- To poll is to look at the registry, and only then at the clock. -/
theorem check_polling_eq (device : DeviceInfo) (now started deadline wake : Nat) (d : Desk ρ) :
    check device now (.polling started deadline wake) d =
      if now < wake then (.waiting (.polling started deadline wake), d)
      else
        let asked := { d with registry := (Registry.hasPermission device d.registry).2 }
        if (Registry.hasPermission device d.registry).1 then
          (.ended (.ok .granted), asked.setState device.deviceName (some .granted))
        else if deadline ≤ now then
          (.ended (.ok (.timedOut (now - started))), asked.setState device.deviceName none)
        else
          (.waiting (.polling started deadline
            (now + d.timers.pause (min d.config.pollMs.toNat (deadline - now)))), asked) := by
  by_cases hwake : now < wake
  · simp only [check, if_pos hwake]
    rfl
  · simp only [check, if_neg hwake]
    rw [bind_apply]
    show (if (Registry.hasPermission device d.registry).1 then (_ : StateM (Desk ρ) Negotiation)
      else _) _ = _
    by_cases hgranted : (Registry.hasPermission device d.registry).1 = true
    · rw [if_pos hgranted, if_pos hgranted]
      rfl
    · rw [if_neg hgranted, if_neg hgranted]
      by_cases htime : deadline ≤ now
      · rw [if_pos htime, if_pos htime]
        rfl
      · rw [if_neg htime, if_neg htime]
        rfl

/-- The desk when a question is about to be put. -/
def pend (device : DeviceInfo) (d : Desk ρ) : Desk ρ :=
  { setState device.deviceName (some (.pending d.nextRequest)) d with
    registry := (Registry.hasPermission device d.registry).2, nextRequest := d.nextRequest + 1 }

theorem ensure_await (device : DeviceInfo) (now : Nat) (d : Desk ρ) :
    ensure device now d =
      if (Registry.hasPermission device d.registry).1 then
        (.ended (.ok .granted),
          setState device.deviceName (some .granted)
            { d with registry := (Registry.hasPermission device d.registry).2 })
      else
        await device d.nextRequest now (now + d.config.timeoutMs.toNat) d.config.strategy
          (d.pend device) := by
  show (if (Registry.hasPermission device d.registry).1 then (_ : StateM (Desk ρ) Negotiation)
    else _) _ = _
  by_cases hgranted : (Registry.hasPermission device d.registry).1 = true
  · rw [if_pos hgranted, if_pos hgranted]
    rfl
  · rw [if_neg hgranted, if_neg hgranted]
    rfl

theorem await_event_eq (device : DeviceInfo) (id : RequestId) (now deadline : Nat) (d : Desk ρ) :
    await device id now deadline .event d =
      awaitNotification device now deadline (register id d).1
        (request id device (register id d).2).1 (request id device (register id d).2).2 := rfl

theorem await_poll_eq (device : DeviceInfo) (id : RequestId) (now deadline : Nat) (d : Desk ρ) :
    await device id now deadline .poll d =
      match (request id device d).1 with
      | .ok _ => check device now (.polling now deadline now) (request id device d).2
      | .error e =>
          (.ended (.error e), (request id device d).2.setState device.deviceName none) := by
  simp only [await]
  rw [bind_apply]
  cases (request id device d).1 with
  | ok _ => rfl
  | error e => rfl

theorem ensure_eq (device : DeviceInfo) (now : Nat) {d : Desk ρ}
    (h : d.config.strategy = .event) :
    ensure device now d =
      if (Registry.hasPermission device d.registry).1 then
        (.ended (.ok .granted),
          setState device.deviceName (some .granted)
            { d with registry := (Registry.hasPermission device d.registry).2 })
      else
        awaitNotification device now (now + d.config.timeoutMs.toNat) (d.ask device).2.1
          (d.ask device).1 (d.ask device).2.2 := by
  rw [ensure_await, h]
  rfl

/-! ## Desks at registries that do the same -/

/-- The desk at another registry. -/
def map {ρ' : Type} (f : ρ → ρ') (d : Desk ρ) : Desk ρ' where
  registry := f d.registry
  config := d.config
  timers := d.timers
  states := d.states
  nextRequest := d.nextRequest

section Respects
variable {ρ' : Type} [Registry ρ'] {f : ρ → ρ'}

theorem settle_map (hf : Registry.Respects f) (device : DeviceInfo) (receiver : ReceiverId)
    (r : Except IoError PermissionOutcome) (d : Desk ρ) :
    (d.map f).settle device receiver r = (d.settle device receiver r).map f := by
  unfold settle map
  simp only [hf.unregister]
  rfl

theorem check_map (hf : Registry.Respects f) (device : DeviceInfo) (now : Nat) (w : Wait)
    (d : Desk ρ) :
    check device now w (d.map f) = ((check device now w d).1, (check device now w d).2.map f) := by
  cases w with
  | notification receiver deadline =>
    have hanswer : (d.map f).answer? receiver = d.answer? receiver := by
      unfold answer?
      rw [show (d.map f).registry = f d.registry from rfl, hf.deliveries]
    have hconfig : (d.map f).config = d.config := rfl
    rw [check_eq, check_eq, hanswer, hconfig]
    cases Wait.verdict? d.config.timeoutMs.toNat deadline now (d.answer? receiver) with
    | some outcome => exact congrArg (Prod.mk _) (settle_map hf device receiver (.ok outcome) d)
    | none => rfl
  | polling started deadline wake =>
    simp only [check_polling_eq, map, hf.hasPermission]
    split
    · rfl
    · split
      · rfl
      · split <;> rfl

theorem abandon_map (hf : Registry.Respects f) (w : Wait) (d : Desk ρ) :
    abandon w (d.map f) = ((), (abandon w d).2.map f) := by
  cases w with
  | notification receiver deadline =>
    refine congrArg (Prod.mk ()) (?_ : Desk.mk _ _ _ _ _ = _)
    simp only [map, hf.unregister]
    rfl
  | polling started deadline wake => rfl

theorem awaitNotification_map (hf : Registry.Respects f) (device : DeviceInfo) (now deadline : Nat)
    (receiver : ReceiverId) (r : Except IoError Unit) (d : Desk ρ) :
    awaitNotification device now deadline receiver r (d.map f) =
      ((awaitNotification device now deadline receiver r d).1,
        (awaitNotification device now deadline receiver r d).2.map f) := by
  cases r with
  | ok _ => exact check_map hf device now (.notification receiver deadline) d
  | error e => exact congrArg (Prod.mk _) (settle_map hf device receiver (.error e) d)

theorem request_map (hf : Registry.Respects f) (id : RequestId) (device : DeviceInfo) (d : Desk ρ) :
    request id device (d.map f) = ((request id device d).1, (request id device d).2.map f) := by
  unfold request
  simp only [map, hf.request]

theorem register_map (hf : Registry.Respects f) (id : RequestId) (d : Desk ρ) :
    register id (d.map f) = ((register id d).1, (register id d).2.map f) := by
  unfold register
  simp only [map, hf.register]

theorem await_map (hf : Registry.Respects f) (device : DeviceInfo) (id : RequestId)
    (now deadline : Nat) (strategy : WaitStrategy) (d : Desk ρ) :
    await device id now deadline strategy (d.map f) =
      ((await device id now deadline strategy d).1,
        (await device id now deadline strategy d).2.map f) := by
  cases strategy with
  | event =>
    rw [await_event_eq, await_event_eq, register_map hf, request_map hf]
    exact awaitNotification_map hf device now deadline _ _ _
  | poll =>
    rw [await_poll_eq, await_poll_eq, request_map hf]
    cases (request id device d).1 with
    | ok _ => exact check_map hf device now _ _
    | error e => rfl

/-- **Desks at registries that do the same do the same.** -/
theorem ensure_map (hf : Registry.Respects f) (device : DeviceInfo) (now : Nat) (d : Desk ρ) :
    ensure device now (d.map f) = ((ensure device now d).1, (ensure device now d).2.map f) := by
  have hpend : (d.map f).pend device = (d.pend device).map f := by
    unfold pend
    simp only [map, hf.hasPermission]
    rfl
  rw [ensure_await, ensure_await, hpend]
  simp only [map, hf.hasPermission]
  split
  · rfl
  · exact await_map hf device _ now _ _ (d.pend device)

end Respects

/-- The desk at the registry that is watched. -/
def unwatched (d : Desk (Watched ρ)) : Desk ρ where
  registry := d.registry.registry
  config := d.config
  timers := d.timers
  states := d.states
  nextRequest := d.nextRequest

/-- Watching changes nothing. -/
theorem respects_watched : Registry.Respects (Watched.registry : Watched ρ → ρ) :=
  ⟨fun _ _ => rfl, fun _ _ => rfl, fun _ _ => rfl, fun _ _ => rfl, fun _ => rfl⟩

theorem check_unwatched (device : DeviceInfo) (now : Nat) (receiver : ReceiverId) (deadline : Nat)
    (d : Desk (Watched ρ)) :
    check device now (.notification receiver deadline) d.unwatched =
      ((check device now (.notification receiver deadline) d).1,
        (check device now (.notification receiver deadline) d).2.unwatched) :=
  check_map respects_watched device now (.notification receiver deadline) d

theorem ensure_unwatched (device : DeviceInfo) (now : Nat) (d : Desk (Watched ρ)) :
    ensure device now d.unwatched =
      ((ensure device now d).1, (ensure device now d).2.unwatched) :=
  ensure_map respects_watched device now d

/-! ## The books are kept -/

/-- The receivers of the waits in `flight` are accounted for, and so are their answers. -/
structure Tidy (d : Desk (Watched Bus)) (flight : List ReceiverId) : Prop where
  balanced : d.registry.Balanced flight
  matched : d.registry.registry.Matched d.nextRequest

/-- The request that a receiver is registered for. -/
def Awaits (d : Desk (Watched Bus)) (receiver : ReceiverId) (request : RequestId) : Prop :=
  (receiver, request) ∈ d.registry.registry.receivers.table

/-- Nothing has happened to a receiver. -/
def Spares (d d' : Desk (Watched Bus)) (receiver : ReceiverId) : Prop :=
  (∀ request, d.Awaits receiver request → d'.Awaits receiver request) ∧
    d'.answer? receiver = d.answer? receiver

/-- **What a turn of one wait does to the others**, whose receivers are in `flight`: nothing.  From
now on the wait has the receiver `own`, or none. -/
structure Turns (d d' : Desk (Watched Bus)) (flight : List ReceiverId) (own : Option ReceiverId) :
    Prop where
  tidy : d'.Tidy (own.toList ++ flight)
  config : d'.config = d.config
  spares : ∀ receiver ∈ flight, Spares d d' receiver

/-- The phase of a petition, seen from the petitioner's side. -/
inductive Shows (d : Desk (Watched Bus)) : Solo → Petition.Phase → Prop where
  | new : Shows d .new .new
  | waiting {receiver : ReceiverId} {request : RequestId} {deadline : Nat}
      (h : d.Awaits receiver request) :
      Shows d (.waiting request deadline (d.answer? receiver))
        (.waiting (.notification receiver deadline))
  | ended (r : Except IoError PermissionOutcome) : Shows d (.ended r) (.over r)
  | dropped : Shows d .dropped .dropped

/-- **A turn of the wait for `device`**, with what it comes to. -/
structure Goes (d : Desk (Watched Bus)) (device : DeviceInfo) (flight : List ReceiverId) (s : Solo)
    (result : Negotiation × Desk (Watched Bus)) : Prop where
  turns : Turns d result.2 flight (PetitionQueue.phaseOf result.1).receiver?
  shows : result.2.Shows s (PetitionQueue.phaseOf result.1)
  recorded : ∀ r, result.1 = .ended r → result.2.state? device.deviceName = stateAfter r
  others : ∀ name, name ≠ device.deviceName → result.2.state? name = d.state? name

variable {d d' : Desk (Watched Bus)} {flight : List ReceiverId} {receiver : ReceiverId}

/-- A wait in flight is registered for some request. -/
theorem Tidy.awaits (h : d.Tidy flight) (hin : receiver ∈ flight) :
    ∃ request, d.Awaits receiver request := by
  have hcount : 0 < d.registry.active.count receiver := by
    rw [h.balanced.active receiver]
    exact List.count_pos_iff.mpr hin
  obtain ⟨⟨id, request⟩, hentry, rfl⟩ := List.mem_map.mp (List.count_pos_iff.mp hcount)
  exact ⟨request, hentry⟩

/-- No wait in flight has the receiver of another one. -/
theorem Tidy.ne_of_mem (h : d.Tidy (receiver :: flight)) {other : ReceiverId}
    (hin : other ∈ flight) : other ≠ receiver := by
  rintro rfl
  have hcount := h.balanced.count_le_one other
  have hmore := List.count_pos_iff.mpr hin
  rw [List.count_cons_self] at hcount
  omega

theorem Spares.trans {d'' : Desk (Watched Bus)} (h : Spares d d' receiver)
    (h' : Spares d' d'' receiver) : Spares d d'' receiver :=
  ⟨fun request hin => h'.1 request (h.1 request hin), h'.2.trans h.2⟩

theorem Spares.of_eq
    (htable : d'.registry.registry.receivers.table = d.registry.registry.receivers.table)
    (hdelivered : d'.registry.registry.receivers.delivered =
      d.registry.registry.receivers.delivered) : Spares d d' receiver := by
  refine ⟨fun request hin => ?_, ?_⟩
  · unfold Awaits
    rw [htable]
    exact hin
  · show d'.registry.registry.receivers.answer? receiver = _
    unfold Receivers.answer?
    rw [hdelivered]
    rfl

/-- A wait is unregistered. -/
theorem turns_unregister (h : d.Tidy (receiver :: flight)) :
    Turns d { d with registry := Registry.unregister receiver d.registry } flight none := by
  have hreceivers := d.registry.registry.receivers_unregister receiver
  refine ⟨⟨h.balanced.unregister, h.matched.unregister receiver⟩, rfl, ?_⟩
  intro other hother
  refine ⟨?_, ?_⟩
  · intro request hin
    show (other, request) ∈ (d.registry.registry.unregister receiver).receivers.table
    rw [hreceivers]
    exact List.mem_filter.mpr ⟨hin, bne_iff_ne.mpr (h.ne_of_mem hother)⟩
  · show (d.registry.registry.unregister receiver).receivers.answer? other = _
    rw [hreceivers]
    rfl

/-- What a wait has come to is written down. -/
theorem goes_setState {device : DeviceInfo} (h : Turns d d' flight none)
    (hothers : ∀ name, name ≠ device.deviceName → d'.state? name = d.state? name)
    (r : Except IoError PermissionOutcome) :
    Goes d device flight (.ended r)
      (.ended r, d'.setState device.deviceName (stateAfter r)) := by
  obtain ⟨htidy, hconfig, hspares⟩ := h
  refine ⟨⟨⟨htidy.balanced, htidy.matched⟩, hconfig, hspares⟩, .ended r, ?_, ?_⟩
  · intro r' hr
    cases hr
    exact state?_setState ..
  · intro name hname
    exact (state?_setState_ne hname ..).trans (hothers name hname)

/-- A wait ends. -/
theorem goes_settle (h : d.Tidy (receiver :: flight)) (device : DeviceInfo)
    (r : Except IoError PermissionOutcome) :
    Goes d device flight (.ended r) (.ended r, d.settle device receiver r) :=
  goes_setState (turns_unregister h) (fun _ _ => rfl) r

/-- **A wait is looked after.** -/
theorem goes_check (h : d.Tidy (receiver :: flight)) {request : RequestId}
    (hawaits : d.Awaits receiver request) (device : DeviceInfo) (now deadline : Nat) :
    Goes d device flight
      ((Solo.waiting request deadline (d.answer? receiver)).look d.config.timeoutMs.toNat now)
      (check device now (.notification receiver deadline) d) := by
  rw [check_eq]
  dsimp only [Solo.look]
  cases Wait.verdict? d.config.timeoutMs.toNat deadline now (d.answer? receiver) with
  | some outcome => exact goes_settle h device (.ok outcome)
  | none =>
    refine ⟨⟨h, rfl, fun other _ => .of_eq rfl rfl⟩, .waiting hawaits, ?_, fun _ _ => rfl⟩
    intro r hr
    cases hr

/-- To ask whether access is granted changes nothing that matters. -/
theorem Tidy.asked (h : d.Tidy flight) (device : DeviceInfo) :
    Tidy { d with registry := (Registry.hasPermission device d.registry).2 } flight where
  balanced := h.balanced.congr rfl rfl rfl fun _ => rfl
  matched := h.matched.shrink (Nat.le_refl _) (fun _ hin => hin) (Nat.le_refl _) rfl rfl

/-- A question is put, and a receiver stands ready for the answer. -/
theorem turns_ask (h : d.Tidy flight) (device : DeviceInfo)
    (herror : d.registry.registry.requestError = none) :
    ∃ receiver d', d.ask device = (.ok (), receiver, d') ∧ Turns d d' flight (some receiver) ∧
      d'.Awaits receiver d.nextRequest ∧
      d'.answer? receiver = d.registry.registry.response.answer? := by
  obtain ⟨hbalanced, hmatched⟩ := h.asked device
  obtain ⟨hmatched', htable, hnext, hnew, hold⟩ := hmatched.ask device herror
  have hok : (d.ask device).1 = .ok () :=
    (Bus.receivers_request ⟨d.nextRequest, device⟩
      (b := ((d.registry.registry.hasPermission device).2.register d.nextRequest).2) herror).1
  have hawaits : ∀ {id request}, (d.ask device).2.2.Awaits id request ↔
      d.Awaits id request ∨ (id, request) = ((d.ask device).2.1, d.nextRequest) := by
    intro id request
    unfold Awaits
    rw [← List.mem_singleton, ← List.mem_append]
    exact iff_of_eq (congrArg ((id, request) ∈ ·) htable)
  refine ⟨(d.ask device).2.1, (d.ask device).2.2, Prod.ext hok rfl, ?_,
    hawaits.mpr (.inr rfl), hnew⟩
  refine ⟨⟨?_, hmatched'⟩, rfl, ?_⟩
  · exact (hbalanced.register d.nextRequest).congr rfl htable hnext fun _ => rfl
  · intro other hother
    obtain ⟨request, hin⟩ := h.awaits hother
    exact ⟨fun _ hin => hawaits.mpr (.inl hin), hold hin⟩

/-- The question cannot be put, and the receiver goes away again. -/
theorem turns_refused (h : d.Tidy flight) (device : DeviceInfo) {e : IoError}
    (herror : d.registry.registry.requestError = some e) :
    ∃ receiver d', d.ask device = (.error e, receiver, d') ∧
      Turns d { d' with registry := Registry.unregister receiver d'.registry } flight none := by
  obtain ⟨hbalanced, hmatched⟩ := h.asked device
  -- the registry has a new receiver and nothing else
  have hrequest := Bus.request_of_error ⟨d.nextRequest, device⟩
    (b := ((d.registry.registry.hasPermission device).2.register d.nextRequest).2) herror
  have hregistry : (d.ask device).2.2.registry =
      (Registry.register d.nextRequest (Registry.hasPermission device d.registry).2).2 :=
    congrArg (fun b => Watched.mk b (.made d.registry.registry.receivers.next :: d.registry.log))
      (congrArg Prod.snd hrequest)
  have hfailed : (d.ask device).1 = .error e := congrArg Prod.fst hrequest
  refine ⟨(d.ask device).2.1, (d.ask device).2.2, Prod.ext hfailed rfl, ?_⟩
  rw [hregistry]
  have hback := hmatched.unregister_register d.nextRequest
  refine ⟨⟨(hbalanced.register d.nextRequest).unregister, ?_⟩, rfl, ?_⟩
  · refine hmatched.shrink (Nat.le_succ _) ?_ ?_ ?_ (Bus.pending_unregister ..)
    · exact hback ▸ fun x hin => hin
    · exact hback ▸ Nat.le_succ _
    · exact hback ▸ rfl
  · intro other _
    have htable := congrArg Receivers.table hback
    have hdelivered := congrArg Receivers.delivered hback
    exact .of_eq htable hdelivered

/-- What went before the turn spared the others, too. -/
theorem Goes.of_turns {device : DeviceInfo} {s : Solo} {own : Option ReceiverId}
    {result : Negotiation × Desk (Watched Bus)} (h : Goes d' device flight s result)
    (hturns : Turns d d' flight own)
    (hothers : ∀ name, name ≠ device.deviceName → d'.state? name = d.state? name) :
    Goes d device flight s result where
  turns :=
    { tidy := h.turns.tidy
      config := h.turns.config.trans hturns.config
      spares := fun receiver hin =>
        (hturns.spares receiver hin).trans (h.turns.spares receiver hin) }
  shows := h.shows
  recorded := h.recorded
  others name hname := (h.others name hname).trans (hothers name hname)

theorem state?_ask (device : DeviceInfo) (d : Desk (Watched Bus)) (name : String)
    (h : name ≠ device.deviceName) : (d.ask device).2.2.state? name = d.state? name :=
  state?_setState_ne h (some (.pending d.nextRequest)) d

/-- **A wait starts.** -/
theorem goes_ensure (h : d.Tidy flight) (hevent : d.config.strategy = .event)
    (device : DeviceInfo) (now : Nat) :
    Goes d device flight
      (Solo.ask d.registry.registry device d.nextRequest d.config.timeoutMs.toNat now)
      (ensure device now d) := by
  rw [ensure_eq device now hevent]
  unfold Solo.ask
  show Goes d device flight _ (if d.registry.registry.isGranted device then _ else _)
  by_cases hgranted : d.registry.registry.isGranted device = true
  · rw [if_pos hgranted, if_pos hgranted]
    have hturns : Turns d { d with registry := (Registry.hasPermission device d.registry).2 }
        flight none := ⟨h.asked device, rfl, fun other _ => .of_eq rfl rfl⟩
    exact goes_setState hturns (fun _ _ => rfl) (.ok .granted)
  · rw [if_neg hgranted, if_neg hgranted]
    cases herror : d.registry.registry.requestError with
    | some e =>
      obtain ⟨receiver, d', hask, hturns⟩ := turns_refused h device herror
      have hothers := state?_ask device d
      rw [hask] at hothers ⊢
      exact goes_setState hturns hothers (.error e)
    | none =>
      obtain ⟨receiver, d', hask, hturns, hawaits, hanswer⟩ := turns_ask h device herror
      have hothers := state?_ask device d
      rw [hask] at hothers ⊢
      have hgoes := goes_check hturns.tidy hawaits device now (now + d.config.timeoutMs.toNat)
      rw [hturns.config, hanswer] at hgoes
      exact hgoes.of_turns hturns hothers

end Desk
end ThumbDrive

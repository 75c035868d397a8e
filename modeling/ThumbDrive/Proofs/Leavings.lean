import ThumbDrive.Proofs.Tenants
import ThumbDrive.Proofs.Waits

/-! # What is left when all calls have come to their end

A call may hold four things: the receiver of its wait, the note that the user has been asked, the
entry of its lock, and an open device.  It gives them back when it returns.  If its caller gives up,
the receiver goes with the wait and the device is closed by the worker, who goes on; but nobody
takes the note back, and nobody looks at the entry.

`Desk.Passes` says what a desk has to do with a call that goes from one phase to another, and
`Passed` says once, for anything that happens, which call that is.  `Accounted` is the invariant;
like `Tenanted` it has a part for what was `left` behind. -/
namespace ThumbDrive

namespace Phase

/-- The receiver of the wait that a call is in. -/
def receiver? : Phase → Option ReceiverId
  | .negotiating _ (.notification receiver _) => some receiver
  | _ => none

/-- The device that the user has been asked about. -/
def asks? : Phase → Option String
  | .negotiating device _ => some device.deviceName
  | _ => none

/-- A call that has asked for nothing and has nothing open. -/
def Idle (p : Phase) : Prop := p.asks? = none ∧ p.openName? = none

theorem receiver?_of_asks? {p : Phase} (h : p.asks? = none) : p.receiver? = none := by
  cases p with
  | negotiating device w => cases h
  | _ => rfl

theorem Idle.receiver_ne {p : Phase} (h : p.Idle) (id : ReceiverId) : p.receiver? ≠ some id := by
  rw [receiver?_of_asks? h.1]
  simp

theorem receiver?_polling_ne {device : DeviceInfo} {started deadline wake : Nat}
    (id : ReceiverId) :
    (negotiating device (.polling started deadline wake)).receiver? ≠ some id := by
  simp [receiver?]

/-- A negotiation asks about its own device. -/
theorem eq_of_asks? {device : DeviceInfo} {w : Wait} (name : String)
    (h : (negotiating device w).asks? = some name) : name = device.deviceName :=
  (Option.some.inj h).symm

/-- Whether a call has a device open. -/
def isServing (p : Phase) : Bool := p.openName?.isSome

theorem not_isServing {p : Phase} (h : p.openName? = none) : ¬ p.isServing = true := by
  simp [isServing, h]

/-- A call that has come to its end, and so has its worker. -/
def hasEnded : Phase → Bool
  | .over _ => true
  | .dropped => true
  | _ => false

theorem idle_of_hasEnded {p : Phase} (h : p.hasEnded = true) : p.Idle := by
  cases p <;> first | exact ⟨rfl, rfl⟩ | cases h

theorem tends?_of_hasEnded {p : Phase} (h : p.hasEnded = true) : p.tends? = none := by
  cases p <;> first | rfl | cases h

end Phase

namespace Bus

/-- The receivers that are registered. -/
def active (b : Bus) : List ReceiverId := b.receivers.table.map Prod.fst

theorem active_unregister (id : ReceiverId) (b : Bus) :
    (b.unregister id).active = b.active.filter (· != id) := by
  unfold active
  rw [receivers_unregister, List.filter_map]
  rfl

theorem openNow_unregister (id : ReceiverId) (b : Bus) :
    (b.unregister id).counters.openNow = b.counters.openNow := by
  unfold unregister
  split <;> rfl

theorem active_register (b : Bus) (q : RequestId) :
    (b.register q).2.active = b.active ++ [b.receivers.next] :=
  List.map_append

theorem active_deliver (q : PermissionRequest) (granted : Bool) (b : Bus) :
    (b.deliver q granted).active = b.active ∧
      (b.deliver q granted).counters.openNow = b.counters.openNow := by
  cases granted <;> exact ⟨rfl, rfl⟩

theorem active_request (q : PermissionRequest) (b : Bus) :
    (b.request q).2.active = b.active ∧
      (b.request q).2.counters.openNow = b.counters.openNow := by
  unfold request
  cases b.requestError with
  | some e => exact ⟨rfl, rfl⟩
  | none =>
    dsimp only
    cases hresponse : (b.count _).response with
    | grant => exact active_deliver q true _
    | deny => exact active_deliver q false _
    | ignore => exact ⟨rfl, rfl⟩

theorem active_attached (b : Bus) :
    (Host.attached b).2.active = b.active ∧
      (Host.attached b).2.counters.openNow = b.counters.openNow := by
  simp only [Host.attached]
  split <;> exact ⟨rfl, rfl⟩

/-- Only a device that was opened counts. -/
theorem active_openDevice (device : DeviceInfo) (b : Bus) :
    (Host.openDevice device b).2.active = b.active ∧
      ((∃ medium, (Host.openDevice device b).1 = .finished (.ok medium)) ∧
          (Host.openDevice device b).2.counters.openNow = b.counters.openNow + 1 ∨
        (∀ medium, (Host.openDevice device b).1 ≠ .finished (.ok medium)) ∧
          (Host.openDevice device b).2.counters.openNow = b.counters.openNow) := by
  simp only [Host.openDevice]
  split
  · exact ⟨rfl, .inr ⟨by simp, rfl⟩⟩
  · unfold openDevice
    cases b.diskOf device with
    | error e => exact ⟨rfl, .inr ⟨by simp, rfl⟩⟩
    | ok medium => exact ⟨rfl, .inl ⟨⟨medium, rfl⟩, rfl⟩⟩

/-- A change in which nobody registers, and nothing is opened or closed. -/
def Tame (change : Bus → Bus) : Prop :=
  ∀ b, (change b).active = b.active ∧ (change b).counters.openNow = b.counters.openNow

/-- The user may answer, in order or out of it, and devices may come and go. -/
theorem tame_meet (e : Event) : Tame fun b => b.meet e := by
  intro b
  cases e with
  | notify q granted => exact b.active_deliver q granted
  | change world => exact ⟨rfl, rfl⟩
  | answer granted =>
    show (b.answerPending granted).active = _ ∧ _
    unfold answerPending
    suffices h : ∀ b' : Bus,
        (b.pending.foldl (fun b q => b.deliver q granted) b').active = b'.active ∧
        (b.pending.foldl (fun b q => b.deliver q granted) b').counters.openNow =
          b'.counters.openNow from h _
    intro b'
    induction b.pending generalizing b' with
    | nil => exact ⟨rfl, rfl⟩
    | cons q pending ih =>
      obtain ⟨hactive, hopen⟩ := b'.active_deliver q granted
      obtain ⟨hactive', hopen'⟩ := ih (b'.deliver q granted)
      exact ⟨hactive'.trans hactive, hopen'.trans hopen⟩

end Bus

/-! ## A call goes from one phase to another -/

namespace Desk

theorem not_pending_stateAfter (r : Except IoError PermissionOutcome) (request : RequestId) :
    stateAfter r ≠ some (.pending request) := by
  unfold stateAfter
  split <;> simp

/-- **What a desk has to do with a call that goes from `p` to `p'`.**  Whatever is registered, open
or noted down was so before, and not for this call, or it is for this call now.  A caller who gives
up leaves a note that a device was asked about: that device is `gone`. -/
structure Passes (d d' : Desk Bus) (p p' : Phase) (gone : Option String) : Prop where
  heard : ∀ id ∈ d'.registry.active,
    id ∈ d.registry.active ∧ p.receiver? ≠ some id ∨ p'.receiver? = some id
  opened : d'.registry.counters.openNow =
    d.registry.counters.openNow - (if p.isServing then 1 else 0) + (if p'.isServing then 1 else 0)
  asked : ∀ name request, d'.state? name = some (.pending request) →
    d.state? name = some (.pending request) ∧ (p.asks? ≠ some name ∨ gone = some name) ∨
      p'.asks? = some name

variable {d d' d'' : Desk Bus} {p p' p'' : Phase}

theorem Passes.trans (h : Passes d d' p p' none) (h' : Passes d' d'' p' p'' none) :
    Passes d d'' p p'' none where
  heard id hid := by
    rcases h'.heard id hid with ⟨hid, hne⟩ | hown
    · exact (h.heard id hid).imp_right fun h => absurd h hne
    · exact .inr hown
  opened := by
    have hopen := h.opened
    have hopen' := h'.opened
    omega
  asked name request hstate := by
    rcases h'.asked name request hstate with ⟨hstate, hne | hgone⟩ | hown
    · exact (h.asked name request hstate).imp_right fun h => absurd h hne
    · cases hgone
    · exact .inr hown

/-- Nothing is asked, opened or given back. -/
theorem Passes.idle (hp : p.Idle) (hp' : p'.Idle)
    (hactive : d'.registry.active = d.registry.active)
    (hopen : d'.registry.counters.openNow = d.registry.counters.openNow)
    (hstates : ∀ name request, d'.state? name = some (.pending request) →
      d.state? name = some (.pending request)) : Passes d d' p p' none where
  heard id hid := .inl ⟨hactive ▸ hid, hp.receiver_ne id⟩
  opened := by
    rw [hopen, if_neg (Phase.not_isServing hp.2), if_neg (Phase.not_isServing hp'.2)]
    rfl
  asked name request hstate := by
    refine .inl ⟨hstates name request hstate, .inl ?_⟩
    rw [hp.1]
    simp

/-- A negotiation about one device. -/
theorem Passes.about (device : DeviceInfo) (hp : p.openName? = none) (hp' : p'.openName? = none)
    (hasks : ∀ name, p.asks? = some name → name = device.deviceName)
    (hheard : ∀ id ∈ d'.registry.active,
      id ∈ d.registry.active ∧ p.receiver? ≠ some id ∨ p'.receiver? = some id)
    (hopen : d'.registry.counters.openNow = d.registry.counters.openNow)
    (hstates : ∀ name, name ≠ device.deviceName → d'.state? name = d.state? name)
    (hown : ∀ request, d'.state? device.deviceName = some (.pending request) →
      p'.asks? = some device.deviceName) : Passes d d' p p' none where
  heard := hheard
  opened := by
    rw [hopen, if_neg (Phase.not_isServing hp), if_neg (Phase.not_isServing hp')]
    rfl
  asked name request hstate := by
    by_cases hname : name = device.deviceName
    · subst hname
      exact .inr (hown request hstate)
    · rw [hstates name hname] at hstate
      exact .inl ⟨hstate, .inl fun h => hname (hasks name h)⟩

/-- What a negotiation has come to is written down. -/
theorem passes_conclude {device : DeviceInfo} (d' : Desk Bus) (r : Except IoError PermissionOutcome)
    (hp : p.openName? = none) (hp' : p'.openName? = none)
    (hasks : ∀ name, p.asks? = some name → name = device.deviceName)
    (hactive : ∀ id ∈ d'.registry.active, id ∈ d.registry.active ∧ p.receiver? ≠ some id)
    (hopen : d'.registry.counters.openNow = d.registry.counters.openNow)
    (hstates : ∀ name, name ≠ device.deviceName → d'.state? name = d.state? name) :
    Passes d (d'.setState device.deviceName (stateAfter r)) p p' none := by
  refine .about device hp hp' hasks (fun id hid => .inl (hactive id hid)) hopen ?_ ?_
  · intro name hname
    exact (state?_setState_ne hname _ _).trans (hstates name hname)
  · intro request hstate
    rw [state?_setState] at hstate
    exact absurd hstate (not_pending_stateAfter r request)

theorem heard_unregister {device : DeviceInfo} {receiver id : ReceiverId} {deadline : Nat}
    (h : id ∈ (Bus.unregister receiver d.registry).active) :
    id ∈ d.registry.active ∧
      (Phase.negotiating device (.notification receiver deadline)).receiver? ≠ some id := by
  rw [Bus.active_unregister] at h
  obtain ⟨hid, hne⟩ := List.mem_filter.mp h
  exact ⟨hid, fun h => bne_iff_ne.mp hne (Option.some.inj h).symm⟩

/-- A wait ends, and its receiver is unregistered. -/
theorem passes_settle (device : DeviceInfo) (receiver : ReceiverId) (deadline : Nat)
    (r : Except IoError PermissionOutcome) (hp' : p'.openName? = none) (d : Desk Bus) :
    Passes d (d.settle device receiver r)
      (.negotiating device (.notification receiver deadline)) p' none := by
  refine passes_conclude { d with registry := Registry.unregister receiver d.registry } r rfl hp'
    Phase.eq_of_asks? ?_ (Bus.openNow_unregister receiver d.registry) fun _ _ => rfl
  exact fun id hid => heard_unregister hid

/-- A wait goes on. -/
theorem passes_wait {device : DeviceInfo} {w w' : Wait}
    (hheard : ∀ id ∈ d'.registry.active,
      id ∈ d.registry.active ∧ (Phase.negotiating device w).receiver? ≠ some id ∨
        (Phase.negotiating device w').receiver? = some id)
    (hopen : d'.registry.counters.openNow = d.registry.counters.openNow)
    (hstates : ∀ name, name ≠ device.deviceName → d'.state? name = d.state? name) :
    Passes d d' (.negotiating device w) (.negotiating device w') none :=
  .about device rfl rfl Phase.eq_of_asks? hheard hopen hstates fun _ _ => rfl

theorem passes_check (device : DeviceInfo) (now : Nat) (w : Wait) (d : Desk Bus) :
    Passes d (check device now w d).2 (.negotiating device w)
      (Service.phaseOf device (check device now w d).1) none := by
  have hpolling : ∀ {started deadline wake : Nat}, ∀ id ∈ d.registry.active,
      id ∈ d.registry.active ∧
        (Phase.negotiating device (.polling started deadline wake)).receiver? ≠ some id := by
    intro started deadline wake id hid
    exact ⟨hid, Phase.receiver?_polling_ne id⟩
  cases w with
  | notification receiver deadline =>
    rw [check_eq]
    cases Wait.verdict? d.config.timeoutMs.toNat deadline now (d.answer? receiver) with
    | some outcome => exact passes_settle device receiver deadline (.ok outcome) rfl d
    | none =>
      refine passes_wait ?_ rfl fun _ _ => rfl
      intro id hid
      by_cases hown : receiver = id
      · exact .inr (congrArg some hown)
      · exact .inl ⟨hid, fun h => hown (Option.some.inj h)⟩
  | polling started deadline wake =>
    rw [check_polling_eq]
    let asked : Desk Bus := { d with registry := (Registry.hasPermission device d.registry).2 }
    dsimp only
    split
    · exact passes_wait (fun id hid => .inl (hpolling id hid)) rfl fun _ _ => rfl
    · split
      · exact passes_conclude asked (.ok .granted) rfl rfl Phase.eq_of_asks? hpolling rfl
          fun _ _ => rfl
      · split
        · exact passes_conclude asked (.ok (.timedOut (now - started))) rfl rfl Phase.eq_of_asks?
            hpolling rfl fun _ _ => rfl
        · exact passes_wait (fun id hid => .inl (hpolling id hid)) rfl fun _ _ => rfl

/-- The question is noted down before it is put. -/
theorem passes_pend (hp : p.Idle) (device : DeviceInfo) (started deadline wake : Nat)
    (d : Desk Bus) :
    Passes d (d.pend device) p (.negotiating device (.polling started deadline wake)) none := by
  refine .about device hp.2 rfl ?_ ?_ rfl ?_ fun _ _ => rfl
  · intro name hname
    cases hp.1.symm.trans hname
  · exact fun id hid => .inl ⟨hid, hp.receiver_ne id⟩
  · intro name hname
    exact state?_setState_ne hname (some (.pending d.nextRequest)) d

theorem passes_await (device : DeviceInfo) (id : RequestId) (now deadline : Nat)
    (strategy : WaitStrategy) (d : Desk Bus) :
    Passes d (await device id now deadline strategy d).2
      (.negotiating device (.polling now deadline now))
      (Service.phaseOf device (await device id now deadline strategy d).1) none := by
  cases strategy with
  | event =>
    -- a receiver is registered, then the question is put
    have hpasses : Passes d
        (request id device (register id d).2).2 (.negotiating device (.polling now deadline now))
        (.negotiating device (.notification (register id d).1 deadline)) none := by
      obtain ⟨hactive, hopen⟩ := (register id d).2.registry.active_request ⟨id, device⟩
      refine passes_wait ?_ hopen fun _ _ => rfl
      intro other hother
      have hactive : (request id device (register id d).2).2.registry.active =
          d.registry.active ++ [(register id d).1] :=
        hactive.trans (d.registry.active_register id)
      rw [hactive, List.mem_append] at hother
      refine hother.imp (fun hother => ⟨hother, Phase.receiver?_polling_ne other⟩) fun hother => ?_
      exact congrArg some (List.mem_singleton.mp hother).symm
    rw [await_event_eq]
    cases (request id device (register id d).2).1 with
    | ok _ => exact hpasses.trans (passes_check device now _ _)
    | error e => exact hpasses.trans (passes_settle device _ deadline (.error e) rfl _)
  | poll =>
    have hpasses : Passes d (request id device d).2
        (.negotiating device (.polling now deadline now))
        (.negotiating device (.polling now deadline now)) none := by
      obtain ⟨hactive, hopen⟩ := d.registry.active_request ⟨id, device⟩
      refine passes_wait ?_ hopen fun _ _ => rfl
      intro other hother
      exact .inl ⟨hactive ▸ hother, Phase.receiver?_polling_ne other⟩
    rw [await_poll_eq]
    cases (request id device d).1 with
    | ok _ => exact hpasses.trans (passes_check device now _ _)
    | error e =>
      refine hpasses.trans (passes_conclude (request id device d).2 (.error e) rfl rfl
        Phase.eq_of_asks? ?_ rfl fun _ _ => rfl)
      exact fun other hother => ⟨hother, Phase.receiver?_polling_ne other⟩

theorem passes_ensure (hp : p.Idle) (device : DeviceInfo) (now : Nat) (d : Desk Bus) :
    Passes d (ensure device now d).2 p (Service.phaseOf device (ensure device now d).1) none := by
  rw [ensure_await]
  split
  · refine passes_conclude { d with registry := (Registry.hasPermission device d.registry).2 }
      (.ok .granted) hp.2 rfl ?_ ?_ rfl fun _ _ => rfl
    · intro name hname
      cases hp.1.symm.trans hname
    · exact fun id hid => ⟨hid, hp.receiver_ne id⟩
  · exact (passes_pend hp device now _ now d).trans (passes_await device d.nextRequest now _ _ _)

/-- A wait is given up. -/
theorem passes_abandon (device : DeviceInfo) (w : Wait) (d : Desk Bus) :
    Passes d (abandon w d).2 (.negotiating device w) .dropped (some device.deviceName) := by
  have hasked : ∀ name request, d.state? name = some (.pending request) →
      d.state? name = some (.pending request) ∧
        ((Phase.negotiating device w).asks? ≠ some name ∨ some device.deviceName = some name) := by
    intro name request hstate
    exact ⟨hstate, (em (some device.deviceName = some name)).symm⟩
  cases w with
  | notification receiver deadline =>
    refine ⟨?_, Bus.openNow_unregister receiver d.registry,
      fun name request h => .inl (hasked name request h)⟩
    exact fun id hid => .inl (heard_unregister hid)
  | polling started deadline wake =>
    refine ⟨?_, rfl, fun name request h => .inl (hasked name request h)⟩
    exact fun id hid => .inl ⟨hid, Phase.receiver?_polling_ne id⟩

/-- A device whose state is kept keeps it. -/
theorem state?_retain {devices : List DeviceInfo} {name : String} {state : PermissionState}
    (h : (d.retain devices).state? name = some state) : d.state? name = some state := by
  have h : (if devices.any fun a => a.deviceName == name then d.state? name else none) =
      some state :=
    (lookup_filter (fun n => devices.any fun a => a.deviceName == n) name d.states).symm.trans h
  split at h
  · exact h
  · cases h

end Desk

/-! ## Anything that happens -/

namespace Service
open Desk

/-- How far the calls are. -/
def phases {π : Type} (s : Service π) : List Phase := s.calls.map Call.phase

theorem phases_modify {calls : List Call} {i : Nat} {c : Call} (hi : calls[i]? = some c)
    (f : Call → Call) :
    (calls.modify i f).map Call.phase = (calls.map Call.phase).set i (f c).phase := by
  refine List.ext_getElem? fun j => ?_
  by_cases hij : i = j
  · subst hij
    rw [List.getElem?_map, List.getElem?_modify_eq, hi,
      List.getElem?_set_self (by simpa using (List.getElem?_eq_some_iff.mp hi).1)]
    rfl
  · rw [List.getElem?_map, List.getElem?_modify_ne _ _ hij, List.getElem?_set_ne hij,
      List.getElem?_map]

/-- **What may happen to a service**, as far as the phases of its calls and its desk go: one call
goes from one phase to another, or a call begins, or neither. -/
inductive Passed (s s' : Service Bus) : Option String → Prop where
  | stays (hphases : s'.phases = s.phases) (hstates : s'.desk.states = s.desk.states)
      (hactive : s'.desk.registry.active = s.desk.registry.active)
      (hopen : s'.desk.registry.counters.openNow = s.desk.registry.counters.openNow) :
      Passed s s' none
  | begins {p : Phase} (hp : p.Idle) (hphases : s'.phases = s.phases ++ [p])
      (hdesk : s'.desk = s.desk) : Passed s s' none
  | turns {i : Nat} {p p' : Phase} {gone : Option String} (hi : s.phases[i]? = some p)
      (hphases : s'.phases = s.phases.set i p') (h : Passes s.desk s'.desk p p' gone) :
      Passed s s' gone

/-- **Whatever is registered, open or noted down is so for some call**, or it was `left` behind. -/
structure Accounted (s : Service Bus) (left : String → RequestId → Prop) : Prop where
  heard : ∀ id ∈ s.desk.registry.active, ∃ p ∈ s.phases, p.receiver? = some id
  opened : s.desk.registry.counters.openNow = s.phases.countP Phase.isServing
  asked : ∀ name request, s.desk.state? name = some (.pending request) →
    (∃ p ∈ s.phases, p.asks? = some name) ∨ left name request

variable {s s' : Service Bus} {gone : Option String} {left left' : String → RequestId → Prop}

theorem Accounted.mono (h : Accounted s left)
    (hleft : ∀ name request, left name request → left' name request) : Accounted s left' where
  heard := h.heard
  opened := h.opened
  asked name request hstate := (h.asked name request hstate).imp_right (hleft name request)

theorem mem_set_of_ne {α : Type} {l : List α} {i : Nat} {a b c : α} (hi : l[i]? = some a)
    (hc : c ∈ l) (hne : c ≠ a) : c ∈ l.set i b := by
  obtain ⟨j, hj⟩ := List.mem_iff_getElem?.mp hc
  have hij : i ≠ j := by
    rintro rfl
    exact hne (Option.some.inj (hj.symm.trans hi))
  exact List.mem_of_getElem? ((List.getElem?_set_ne hij).trans hj)

/-- **Whatever happens, everything stays accounted for.** -/
theorem Accounted.passed (h : Accounted s left) (hpassed : Passed s s' gone) :
    Accounted s' fun name request =>
      (left name request ∨ gone = some name) ∧ s'.desk.state? name = some (.pending request) := by
  cases hpassed with
  | stays hphases hstates hactive hopen =>
    refine ⟨?_, ?_, ?_⟩
    · rw [hactive, hphases]
      exact h.heard
    · rw [hopen, hphases]
      exact h.opened
    · intro name request hstate
      rw [hphases]
      have hold : s.desk.state? name = some (.pending request) := by
        rw [← hstate]
        unfold state?
        rw [hstates]
      exact (h.asked name request hold).imp_right fun hl => ⟨.inl hl, hstate⟩
  | @begins p hp hphases hdesk =>
    -- a new call has nothing yet
    have hmem : ∀ q ∈ s.phases, q ∈ s'.phases := by
      intro q hq
      rw [hphases]
      exact List.mem_append_left [p] hq
    refine ⟨?_, ?_, ?_⟩
    · intro id hid
      obtain ⟨q, hq, hid⟩ := h.heard id (hdesk ▸ hid)
      exact ⟨q, hmem q hq, hid⟩
    · rw [hdesk, hphases, h.opened, List.countP_append, List.countP_singleton,
        if_neg (Phase.not_isServing hp.2), Nat.add_zero]
    · intro name request hstate
      have hold : s.desk.state? name = some (.pending request) := hdesk ▸ hstate
      rcases h.asked name request hold with ⟨q, hq, hasks⟩ | hl
      · exact .inl ⟨q, hmem q hq, hasks⟩
      · exact .inr ⟨.inl hl, hstate⟩
  | @turns i p p' _ hi hphases hpasses =>
    obtain ⟨hlt, hget⟩ := List.getElem?_eq_some_iff.mp hi
    have hnew : p' ∈ s'.phases := by
      rw [hphases]
      exact List.mem_set hlt p'
    have hmem : ∀ q ∈ s.phases, q ≠ p → q ∈ s'.phases := by
      intro q hq hne
      rw [hphases]
      exact mem_set_of_ne hi hq hne
    refine ⟨?_, ?_, ?_⟩
    · intro id hid
      rcases hpasses.heard id hid with ⟨hid, hne⟩ | hown
      · obtain ⟨q, hq, hid⟩ := h.heard id hid
        exact ⟨q, hmem q hq fun heq => hne (heq ▸ hid), hid⟩
      · exact ⟨p', hnew, hown⟩
    · rw [hpasses.opened, h.opened, hphases, List.countP_set hlt, hget]
    · intro name request hstate
      rcases hpasses.asked name request hstate with ⟨hold, hgone⟩ | hown
      · -- the note was for another call, or the caller of this one has just given up
        rcases h.asked name request hold with ⟨q, hq, hasks⟩ | hl
        · rcases hgone with hne | hgone
          · exact .inl ⟨q, hmem q hq fun heq => hne (heq ▸ hasks), hasks⟩
          · exact .inr ⟨.inr hgone, hstate⟩
        · exact .inr ⟨.inl hl, hstate⟩
      · exact .inl ⟨p', hnew, hown⟩

/-! ## What does happen -/

theorem phase_of_call {i : Nat} {c : Call} (hi : s.calls[i]? = some c) :
    s.phases[i]? = some c.phase := by
  unfold phases
  rw [List.getElem?_map, hi]
  rfl

/-- A call goes to another phase. -/
theorem Passed.turn {i : Nat} {c : Call} {p p' : Phase} (hi : s.calls[i]? = some c)
    (hp : c.phase = p) (hcalls : s'.calls = s.calls.modify i fun c => { c with phase := p' })
    (h : Passes s.desk s'.desk p p' gone) : Passed s s' gone := by
  refine .turns (hp ▸ phase_of_call hi) ?_ h
  unfold phases
  rw [hcalls, phases_modify hi]

/-- A call that has asked for nothing goes to another such phase, and the desk is as it was. -/
theorem Passed.quietly {i : Nat} {c : Call} {p' : Phase} (hi : s.calls[i]? = some c)
    (hp : c.phase.Idle) (hp' : p'.Idle)
    (hcalls : s'.calls = s.calls.modify i fun c => { c with phase := p' })
    (hactive : s'.desk.registry.active = s.desk.registry.active)
    (hopen : s'.desk.registry.counters.openNow = s.desk.registry.counters.openNow)
    (hstates : ∀ name request, s'.desk.state? name = some (.pending request) →
      s.desk.state? name = some (.pending request)) : Passed s s' none :=
  .turn hi rfl hcalls (.idle hp hp' hactive hopen hstates)

theorem passed_start (s : Service Bus) (name : String) (args : Json) :
    Passed s (s.start name args) none := by
  cases hcall : Method.ofCall name args with
  | ok m => exact .begins (p := .listing) ⟨rfl, rfl⟩ (by simp [start, hcall, phases]) rfl
  | error e => exact .begins (p := .over (.error e)) ⟨rfl, rfl⟩ (by simp [start, hcall, phases]) rfl

/-- A call goes on with the device it is about; by then the desk has forgotten other devices. -/
theorem passed_proceed {i : Nat} {c : Call} {r : Job (List DeviceInfo)}
    (hi : s.calls[i]? = some c) (hp : c.phase = .listed r) (devices : List DeviceInfo)
    (task : DeviceTask) (device : DeviceInfo) :
    Passed s ({ s with desk := s.desk.retain devices }.proceed i task device) none := by
  have hidle : (Phase.listed r).Idle := ⟨rfl, rfl⟩
  have hretain : Passes s.desk (s.desk.retain devices) (.listed r) (.listed r) none :=
    .idle hidle hidle rfl rfl fun _ _ => state?_retain
  cases task with
  | hasPermission =>
    exact .quietly hi (hp ▸ hidle) ⟨rfl, rfl⟩ rfl rfl rfl fun _ _ => state?_retain
  | requestPermission =>
    exact .turn hi hp rfl (hretain.trans (passes_ensure hidle device s.now _))
  | files task =>
    unfold proceed lockOf
    dsimp only
    split <;> exact .quietly hi (hp ▸ hidle) ⟨rfl, rfl⟩ rfl rfl rfl fun _ _ => state?_retain

theorem passed_resolve {i : Nat} {c : Call} {r : Job (List DeviceInfo)}
    (hi : s.calls[i]? = some c) (hp : c.phase = .listed r) :
    Passed s (s.resolve i c.method r) none := by
  have hidle : c.phase.Idle := hp ▸ ⟨rfl, rfl⟩
  cases r with
  | crashed message =>
    cases c.method <;> exact .quietly hi hidle ⟨rfl, rfl⟩ rfl rfl rfl fun _ _ => id
  | finished devices =>
    cases c.method with
    | getDevices => exact .quietly hi hidle ⟨rfl, rfl⟩ rfl rfl rfl fun _ _ => state?_retain
    | onDevice v q task =>
      simp only [resolve]
      cases Discovery.find? devices v q with
      | none => exact .quietly hi hidle ⟨rfl, rfl⟩ rfl rfl rfl fun _ _ => state?_retain
      | some device => exact passed_proceed hi hp devices task device

/-- A worker opens its device and closes it. -/
theorem passes_work (device : DeviceInfo) (task : FileTask) (lock : LockId) (w : Worker)
    (s : Service Bus) :
    Passes s.desk (s.work device task w).2.desk (.working device task lock w)
      (.working device task lock (s.work device task w).1) none := by
  cases w with
  | starting =>
    refine .idle ⟨rfl, rfl⟩ ⟨rfl, ?_⟩ rfl rfl fun _ _ => id
    show (Phase.working device task lock
      (if (hasPermission device s.desk).1 then .permitted else .done _)).openName? = none
    split <;> rfl
  | permitted =>
    obtain ⟨hactive, hcount⟩ := s.desk.registry.active_openDevice device
    unfold work
    generalize Host.openDevice device s.desk.registry = opened at hactive hcount
    obtain ⟨r, bus⟩ := opened
    rcases hcount with ⟨⟨medium, hr⟩, hopen⟩ | ⟨hr, hopen⟩
    · subst hr
      refine ⟨fun id hid => .inl ⟨hactive ▸ hid, by simp [Phase.receiver?]⟩, hopen, ?_⟩
      intro name request hstate
      exact .inl ⟨hstate, .inl (by simp [Phase.asks?])⟩
    · refine .idle ⟨rfl, rfl⟩ ⟨rfl, ?_⟩ hactive hopen fun _ _ => id
      cases r with
      | crashed message => rfl
      | finished r =>
        cases r with
        | error e => rfl
        | ok medium => exact absurd rfl (hr medium)
  | serving medium =>
    refine ⟨fun id hid => .inl ⟨hid, by simp [Phase.receiver?]⟩, rfl, ?_⟩
    intro name request hstate
    exact .inl ⟨hstate, .inl (by simp [Phase.asks?])⟩
  | done r => exact .idle ⟨rfl, rfl⟩ ⟨rfl, rfl⟩ rfl rfl fun _ _ => id

theorem passed_step (s : Service Bus) (i : Nat) : Passed s (s.step i) none := by
  unfold step
  cases hi : s.calls[i]? with
  | none => exact .stays rfl rfl rfl rfl
  | some c =>
    dsimp only
    cases hp : c.phase with
    | listing =>
      obtain ⟨hactive, hopen⟩ := s.desk.registry.active_attached
      exact .quietly hi (hp ▸ ⟨rfl, rfl⟩) ⟨rfl, rfl⟩ rfl hactive hopen fun _ _ => id
    | listed r => exact passed_resolve hi hp
    | negotiating device w => exact .turn hi hp rfl (passes_check device s.now w s.desk)
    | queued device task lock =>
      dsimp only
      split
      · exact .stays rfl rfl rfl rfl
      · exact .quietly hi (hp ▸ ⟨rfl, rfl⟩) ⟨rfl, rfl⟩ rfl rfl rfl fun _ _ => id
    | working device task lock w =>
      have hturn : Passed s ((s.work device task w).2.setPhase i
          (.working device task lock (s.work device task w).1)) none := by
        refine .turn hi hp ?_ (passes_work device task lock w s)
        unfold setPhase
        rw [calls_work]
      cases w with
      | done r =>
        refine .quietly hi (hp ▸ ⟨rfl, rfl⟩) ⟨?_, ?_⟩ rfl rfl rfl fun _ _ => id
        · split <;> rfl
        · split <;> rfl
      | starting => exact hturn
      | permitted => exact hturn
      | serving medium => exact hturn
    | freed device r =>
      obtain ⟨hcalls, hdesk⟩ := s.prune_frame device.deviceName
      have hpasses : Passes s.desk (s.prune device.deviceName).desk (.freed device r)
          (.over (resultOf r)) none := by
        rw [hdesk]
        exact .idle ⟨rfl, rfl⟩ ⟨rfl, rfl⟩ rfl rfl fun _ _ => id
      refine .turn hi hp ?_ hpasses
      exact congrArg (List.modify · i fun c => { c with phase := .over (resultOf r) }) hcalls
    | _ => exact .stays rfl rfl rfl rfl

/-- A caller gives up.  The receiver of its wait goes, the note about the question stays. -/
theorem passed_drop (s : Service Bus) (i : Nat) :
    ∃ gone, Passed s (s.drop i) gone ∧
      ∀ name, gone = some name → ∃ c, s.calls[i]? = some c ∧ c.phase.asks? = some name := by
  unfold drop
  cases hi : s.calls[i]? with
  | none => exact ⟨none, .stays rfl rfl rfl rfl, by simp⟩
  | some c =>
    have hquietly : ∀ {p}, c.phase = p → p.Idle → Passed s (s.setPhase i .dropped) none := by
      intro p hp hidle
      exact .quietly hi (hp ▸ hidle) ⟨rfl, rfl⟩ rfl rfl rfl fun _ _ => id
    dsimp only
    cases hp : c.phase with
    | negotiating device w =>
      exact ⟨some device.deviceName, .turn hi hp rfl (passes_abandon device w s.desk),
        fun name hname => ⟨c, rfl, hp ▸ hname⟩⟩
    | working device task lock w =>
      refine ⟨none, .stays ?_ rfl rfl rfl, by simp⟩
      obtain ⟨hlt, hget⟩ := List.getElem?_eq_some_iff.mp (phase_of_call hi)
      refine (phases_modify hi _).trans ?_
      rw [← hget]
      exact List.set_getElem_self hlt
    | queued device task lock => exact ⟨none, hquietly hp ⟨rfl, rfl⟩, by simp⟩
    | freed device r => exact ⟨none, hquietly hp ⟨rfl, rfl⟩, by simp⟩
    | listing => exact ⟨none, hquietly hp ⟨rfl, rfl⟩, by simp⟩
    | listed r => exact ⟨none, hquietly hp ⟨rfl, rfl⟩, by simp⟩
    | dropped => exact ⟨none, hquietly hp ⟨rfl, rfl⟩, by simp⟩
    | _ => exact ⟨none, .stays rfl rfl rfl rfl, by simp⟩

theorem passed_crash (s : Service Bus) (i : Nat) (message : String) :
    Passed s (s.crash i message) none := by
  unfold crash
  cases hi : s.calls[i]? with
  | none => exact .stays rfl rfl rfl rfl
  | some c =>
    have hquietly : ∀ {p p'}, c.phase = p → p.Idle → p'.Idle → Passed s (s.setPhase i p') none := by
      intro p p' hp hidle hidle'
      exact .quietly hi (hp ▸ hidle) hidle' rfl rfl rfl fun _ _ => id
    dsimp only
    cases hp : c.phase with
    | listing => exact hquietly hp ⟨rfl, rfl⟩ ⟨rfl, rfl⟩
    | working device task lock w =>
      cases w with
      | done r => exact .stays rfl rfl rfl rfl
      | starting => exact hquietly hp ⟨rfl, rfl⟩ ⟨rfl, rfl⟩
      | permitted => exact hquietly hp ⟨rfl, rfl⟩ ⟨rfl, rfl⟩
      | serving medium =>
        refine .turn hi hp rfl ⟨fun id hid => .inl ⟨hid, by simp [Phase.receiver?]⟩, rfl, ?_⟩
        intro name request hstate
        exact .inl ⟨hstate, .inl (by simp [Phase.asks?])⟩
    | _ => exact .stays rfl rfl rfl rfl

/-- The bus is not tampered with. -/
def Incident.Tame : Incident Bus → Prop
  | .ordinary (.machine change) => Bus.Tame change
  | _ => True

/-- What any incident is to the phases and the desk; a name is told only if a caller gives up. -/
theorem passed_face (s : Service Bus) {x : Incident Bus} (hx : x.Tame) :
    ∃ gone, Passed s (s.face x) gone ∧ ∀ name, gone = some name →
      ∃ i c, x = .ordinary (.drop i) ∧ s.calls[i]? = some c ∧ c.phase.asks? = some name := by
  cases x with
  | crash i message => exact ⟨none, passed_crash s i message, by simp⟩
  | ordinary x =>
    cases x with
    | start method args => exact ⟨none, passed_start s method args, by simp⟩
    | step i => exact ⟨none, passed_step s i, by simp⟩
    | drop i =>
      obtain ⟨gone, hpassed, hgone⟩ := passed_drop s i
      refine ⟨gone, hpassed, fun name hname => ?_⟩
      obtain ⟨c, hi, hc⟩ := hgone name hname
      exact ⟨i, c, rfl, hi, hc⟩
    | machine change =>
      obtain ⟨hactive, hopen⟩ := hx s.desk.registry
      exact ⟨none, .stays rfl rfl hactive hopen, by simp⟩
    | clock now => exact ⟨none, .stays rfl rfl rfl rfl, by simp⟩

/-- **All along a history**, what is registered, open or noted down is so for some call, or a call
was given up while it waited for an answer, and its note has been there ever since. -/
theorem accounted_through {bus : Bus} (hactive : bus.active = [])
    (hopen : bus.counters.openNow = 0) (config : Config) {history : List (Incident Bus)}
    (htame : ∀ x ∈ history, x.Tame) :
    Accounted (Service.through { desk := { registry := bus, config } } history)
      fun name request => GaveUp { desk := { registry := bus, config } } history
        (fun c => c.phase.asks? = some name)
        fun s => s.desk.state? name = some (.pending request) := by
  induction history using List.reverseRecOn with
  | nil =>
    refine ⟨?_, hopen, ?_⟩
    · intro id hid
      exact absurd (hactive ▸ hid : id ∈ []) List.not_mem_nil
    · intro name request hstate
      cases hstate
  | append_singleton history x ih =>
    have h := ih fun y hy => htame y (List.mem_append_left [x] hy)
    rw [through_concat]
    obtain ⟨gone, hpassed, hgone⟩ := passed_face
      (Service.through { desk := { registry := bus, config } } history)
      (htame x (List.mem_append_right history (List.mem_singleton_self x)))
    refine (h.passed hpassed).mono ?_
    rintro name request ⟨hleft | hname, hstate⟩
    · exact hleft.concat (by rw [through_concat]; exact hstate)
    · obtain ⟨i, c, rfl, hi, hc⟩ := hgone name hname
      exact .last hi hc (by rw [through_concat]; exact hstate)

/-- All calls have come to their end, and so have their workers. -/
def Quiet {π : Type} (s : Service π) : Prop := ∀ p ∈ s.phases, p.hasEnded = true

/-- To give up takes neither an entry nor a note back. -/
theorem drop_frame (s : Service Bus) (i : Nat) :
    (s.drop i).locks = s.locks ∧ (s.drop i).desk.states = s.desk.states := by
  unfold drop
  cases s.calls[i]? with
  | none => exact ⟨rfl, rfl⟩
  | some c =>
    dsimp only
    cases c.phase with
    | negotiating device w => cases w <;> exact ⟨rfl, rfl⟩
    | _ => exact ⟨rfl, rfl⟩

/-- **What is left when all calls have come to their end**, by an answer or because their callers
gave up.  No receiver is registered and no device is open.  But to give up takes neither an entry of
the table nor a note back.  So the table has an entry exactly if a call was given up that had asked
for the lock and had not looked at the table yet, and the entry has been there ever since; and a
device is noted down as asked about exactly if a call was given up while it waited for the answer,
and the note has been there ever since. -/
theorem left_after_giving_up {bus : Bus} (hactive : bus.active = [])
    (hopen : bus.counters.openNow = 0) (config : Config) (history : List (Incident Bus))
    (htame : ∀ x ∈ history, x.Tame) :
    let start : Service Bus := { desk := { registry := bus, config } }
    let s := start.through history
    (∀ (s : Service Bus) i, (s.drop i).locks = s.locks ∧ (s.drop i).desk.states = s.desk.states) ∧
    (s.Quiet →
      s.desk.registry.active = [] ∧ s.desk.registry.counters.openNow = 0 ∧
      (∀ name lock, s.locks.lookup name = some lock ↔
        start.GaveUp history (fun c => c.phase.tends? = some name)
          fun s => s.locks.lookup name = some lock) ∧
      ∀ name request, s.desk.state? name = some (.pending request) ↔
        start.GaveUp history (fun c => c.phase.asks? = some name)
          fun s => s.desk.state? name = some (.pending request)) := by
  intro start s
  refine ⟨drop_frame, fun hquiet => ?_⟩
  obtain ⟨-, -, htenanted⟩ := tenanted_through { registry := bus, config } history
  have haccounted := accounted_through hactive hopen config htame
  have hidle : ∀ p ∈ s.phases, p.Idle ∧ p.tends? = none := by
    intro p hp
    exact ⟨Phase.idle_of_hasEnded (hquiet p hp), Phase.tends?_of_hasEnded (hquiet p hp)⟩
  refine ⟨?_, ?_, ?_, ?_⟩
  · refine List.eq_nil_iff_forall_not_mem.mpr fun id hid => ?_
    obtain ⟨p, hp, hid⟩ := haccounted.heard id hid
    exact (hidle p hp).1.receiver_ne id hid
  · rw [haccounted.opened, List.countP_eq_zero]
    intro p hp
    exact Phase.not_isServing (hidle p hp).1.2
  · intro name lock
    refine ⟨fun hlookup => ?_, GaveUp.now⟩
    rcases htenanted.tended hlookup with ⟨i, c, hi, -, htends⟩ | hleft
    · cases (hidle _ (List.mem_map_of_mem (List.mem_of_getElem? hi))).2.symm.trans htends
    · exact hleft
  · intro name request
    refine ⟨fun hstate => ?_, GaveUp.now⟩
    rcases haccounted.asked name request hstate with ⟨p, hp, hasks⟩ | hleft
    · cases (hidle p hp).1.1.symm.trans hasks
    · exact hleft

/-- One caller gives up before the user answers, another one before the lock is free for it.  The
user answers late, the last call ends, and both leave something behind. -/
theorem left_after_giving_up_both :
    let bus : Bus :=
      ((({ response := .ignore } : Bus).attach ⟨"usb1", none, none, 1, 2⟩ (.unreadable 8)).attach
        ⟨"usb2", none, none, 3, 4⟩ (.unreadable 8)).setGranted "usb2" true
    let ids (v p : Nat) : Json :=
      .obj [("vendorId", .nat v), ("productId", .nat p), ("path", .str "/")]
    let history : List (Incident Bus) :=
      [.ordinary (.start "requestPermission" (ids 1 2)), .ordinary (.start "readdir" (ids 3 4)),
        .ordinary (.start "read" (ids 3 4))] ++
      ([0, 0, 1, 1, 1, 2, 2].map fun i => .ordinary (.step i)) ++
      [.ordinary (.drop 0), .ordinary (.drop 1), .ordinary (.drop 2),
        .ordinary (.machine fun b => b.meet (.answer true))] ++
      ([1, 1, 1, 1].map fun i => .ordinary (.step i))
    let start : Service Bus := { desk := { registry := bus, config := .default } }
    let s := start.through history
    s.Quiet ∧ s.desk.registry.active = [] ∧ s.desk.registry.counters.openNow = 0 ∧
      s.locks.lookup "usb2" = some 0 ∧ s.desk.state? "usb1" = some (.pending 0) ∧
      (start.GaveUp history (fun c => c.phase.tends? = some "usb2")
        fun s => s.locks.lookup "usb2" = some 0) ∧
      start.GaveUp history (fun c => c.phase.asks? = some "usb1")
        fun s => s.desk.state? "usb1" = some (.pending 0) := by
  intro bus ids history
  have htame : ∀ x ∈ history, x.Tame := by
    simp [history, Incident.Tame, Bus.tame_meet]
  have hquiet :
      (Service.through { desk := { registry := bus, config := .default } } history).Quiet := by
    unfold Quiet
    decide +kernel
  obtain ⟨hactive, hopen, hlocks, hstates⟩ :=
    (left_after_giving_up (by decide +kernel) (by decide +kernel) .default history htame).2 hquiet
  have hlock := (hlocks "usb2" 0).mp (by decide +kernel)
  have hstate := (hstates "usb1" 0).mp (by decide +kernel)
  exact ⟨hquiet, hactive, hopen, hlock.now, hstate.now, hlock, hstate⟩

end Service
end ThumbDrive

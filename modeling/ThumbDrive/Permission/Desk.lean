import ThumbDrive.Config
import ThumbDrive.Host.Basic

/-! Asking for access to a device, and waiting for the answer.

A desk asks its registry on behalf of callers and remembers what became of each device. A wait
ends with the first answer to its own request or when its time is up; a wait by polling ends when
access turns out to be granted or when its time is up. Whatever happens, the receiver of a wait
is unregistered when the wait is over.

How long the pause between two polls is in the end depends on the timers of the runtime, which may
not be able to wait for as long as the configuration asks. The time of a wait for a notification is
never cut short. -/
namespace ThumbDrive

/-- What a desk knows about a device. -/
inductive PermissionState where
  | granted
  | denied
  | pending (request : RequestId)
  deriving DecidableEq, Repr

/-- How a wait ended. -/
inductive PermissionOutcome where
  | granted
  | denied
  | timedOut (waitedMs : Nat)
  deriving DecidableEq, Repr

/-- A wait under way. Times are in milliseconds. -/
inductive Wait where
  /-- For a notification, until the deadline. -/
  | notification (receiver : ReceiverId) (deadline : Nat)
  /-- Polling; the next check is at `wake`. -/
  | polling (started deadline wake : Nat)
  deriving DecidableEq, Repr

/-- The timers of a runtime. A pause ends when it is due, or before if it is longer than they can
wait. -/
structure Timers where
  /-- The longest pause they can make in milliseconds, if there is one. -/
  limit : Option Nat := none
  limit_ne_zero : limit ≠ some 0 := by decide

namespace Timers

/-- How long a pause takes that is meant to take `ms` milliseconds. -/
def pause (t : Timers) (ms : Nat) : Nat := t.limit.elim ms (min ms)

/-- Timers that can wait for any time. -/
def patient : Timers := {}

/-- **Timers that fire when they are due**, at least those of pauses up to `longest`. -/
def FireWhenDue (t : Timers) (longest : Nat) : Prop := ∀ ms ≤ longest, t.pause ms = ms

/-- A part of a pause is cut short as the whole is. -/
theorem pause_min (t : Timers) (ms rest : Nat) : t.pause (min ms rest) = min (t.pause ms) rest := by
  unfold pause
  cases t.limit with
  | none => rfl
  | some limit => exact Nat.min_right_comm ms rest limit

theorem pause_pos (t : Timers) {ms : Nat} (h : 0 < ms) : 0 < t.pause ms := by
  have hlimit := t.limit_ne_zero
  unfold pause
  cases ht : t.limit with
  | none => exact h
  | some limit =>
    refine Nat.lt_min.mpr ⟨h, Nat.pos_of_ne_zero ?_⟩
    rintro rfl
    exact hlimit ht

theorem patient_fireWhenDue (longest : Nat) : patient.FireWhenDue longest := fun _ _ => rfl

end Timers

/-- What a step of a negotiation leads to. -/
inductive Negotiation where
  | waiting (w : Wait)
  | ended (r : Except IoError PermissionOutcome)

/-- A registry with what was learned from it. -/
structure Desk (ρ : Type) where
  registry : ρ
  config : Config
  timers : Timers := .patient
  /-- Devices whose state is known, by name. -/
  states : List (String × PermissionState) := []
  nextRequest : RequestId := 0

namespace Desk
variable {ρ : Type}

/-- What is known about a device. -/
def state? (d : Desk ρ) (name : String) : Option PermissionState := d.states.lookup name

/-- Learns or forgets the state of a device. -/
def setState (name : String) (s : Option PermissionState) (d : Desk ρ) : Desk ρ :=
  let others := d.states.filter fun (n, _) => n != name
  { d with states :=
      match s with
      | some s => others ++ [(name, s)]
      | none => others }

/-- To drop entries by their names is to forget these names. -/
theorem lookup_filter {β : Type} (keep : String → Bool) (name : String)
    (table : List (String × β)) :
    (table.filter fun (n, _) => keep n).lookup name =
      if keep name then table.lookup name else none := by
  induction table with
  | nil => simp
  | cons entry table ih =>
    obtain ⟨n, b⟩ := entry
    by_cases hkeep : keep n = true
    · rw [List.filter_cons_of_pos (by exact hkeep), List.lookup_cons, List.lookup_cons, ih]
      by_cases hname : name = n
      · simp [hname, hkeep]
      · rw [beq_false_of_ne hname]
    · rw [List.filter_cons_of_neg (by exact hkeep), List.lookup_cons, ih]
      by_cases hname : name = n
      · simp [hname, hkeep]
      · rw [beq_false_of_ne hname]

theorem lookup_filter_ne {β : Type} {name other : String} (h : other ≠ name)
    (table : List (String × β)) :
    (table.filter fun (n, _) => n != name).lookup other = table.lookup other := by
  rw [lookup_filter (· != name), if_pos (bne_iff_ne.mpr h)]

theorem lookup_filter_self {β : Type} (name : String) (table : List (String × β)) :
    (table.filter fun (n, _) => n != name).lookup name = none := by
  rw [lookup_filter (· != name)]
  simp

theorem state?_setState (name : String) (s : Option PermissionState) (d : Desk ρ) :
    (d.setState name s).state? name = s := by
  cases s with
  | none => exact lookup_filter_self name d.states
  | some s =>
    show (d.states.filter (fun (n, _) => n != name) ++ [(name, s)]).lookup name = some s
    rw [List.lookup_append, lookup_filter_self]
    simp

theorem state?_setState_ne {name other : String} (h : other ≠ name) (s : Option PermissionState)
    (d : Desk ρ) : (d.setState name s).state? other = d.state? other := by
  cases s with
  | none => exact lookup_filter_ne h d.states
  | some s =>
    show (d.states.filter (fun (n, _) => n != name) ++ [(name, s)]).lookup other = _
    rw [List.lookup_append, lookup_filter_ne h, List.lookup_cons, beq_false_of_ne h]
    exact Option.or_none

/-- Forgets all devices but the attached ones. -/
def retain (attached : List DeviceInfo) (d : Desk ρ) : Desk ρ :=
  { d with states := d.states.filter fun (n, _) => attached.any fun a => a.deviceName == n }

/-- What an outcome leaves known about a device. -/
def stateAfter : Except IoError PermissionOutcome → Option PermissionState
  | .ok .granted => some .granted
  | .ok .denied => some .denied
  | .ok (.timedOut _) => none
  | .error _ => none

variable [Registry ρ]

/-- Asks the registry whether access is granted. -/
def hasPermission (device : DeviceInfo) : StateM (Desk ρ) Bool := fun d =>
  let (granted, registry) := Registry.hasPermission device d.registry
  (granted, { d with registry })

/-- Unregisters a receiver. -/
def unregister (receiver : ReceiverId) : StateM (Desk ρ) Unit :=
  modify fun d => { d with registry := Registry.unregister receiver d.registry }

/-- Ends a negotiation. -/
def conclude (device : DeviceInfo) (r : Except IoError PermissionOutcome) :
    StateM (Desk ρ) Negotiation := do
  modify (setState device.deviceName (stateAfter r))
  return .ended r

/-- The first answer that reached a receiver. -/
def answer? (receiver : ReceiverId) (d : Desk ρ) : Option Bool :=
  ((Registry.deliveries d.registry).find? fun x => x.receiver == receiver).map Delivery.granted

/-- Looks after a wait. An answer counts even if its time is up. -/
def check (device : DeviceInfo) (now : Nat) : Wait → StateM (Desk ρ) Negotiation
  | .notification receiver deadline => do
      let d ← get
      match d.answer? receiver with
      | some granted =>
          unregister receiver
          conclude device (.ok (if granted then .granted else .denied))
      | none =>
          if deadline ≤ now then
            unregister receiver
            conclude device (.ok (.timedOut d.config.timeoutMs.toNat))
          else return .waiting (.notification receiver deadline)
  | .polling started deadline wake => do
      if now < wake then return .waiting (.polling started deadline wake)
      if ← hasPermission device then conclude device (.ok .granted)
      else if deadline ≤ now then conclude device (.ok (.timedOut (now - started)))
      else
        let d ← get
        let pause := d.timers.pause (min d.config.pollMs.toNat (deadline - now))
        return .waiting (.polling started deadline (now + pause))

/-- Puts a question to the user. -/
def request (id : RequestId) (device : DeviceInfo) : StateM (Desk ρ) (Except IoError Unit) :=
  fun d =>
    let (r, registry) := Registry.request ⟨id, device⟩ d.registry
    (r, { d with registry })

/-- Registers a receiver for the answer to a request. -/
def register (id : RequestId) : StateM (Desk ρ) ReceiverId := fun d =>
  let (receiver, registry) := Registry.register id d.registry
  (receiver, { d with registry })

/-- A number for a new request. -/
def freshRequest : StateM (Desk ρ) RequestId := fun d =>
  (d.nextRequest, { d with nextRequest := d.nextRequest + 1 })

/-- Waits for a notification, if the question could be put. -/
def awaitNotification (device : DeviceInfo) (now deadline : Nat) (receiver : ReceiverId) :
    Except IoError Unit → StateM (Desk ρ) Negotiation
  | .ok _ => check device now (.notification receiver deadline)
  | .error e => do
      unregister receiver
      conclude device (.error e)

/-- Puts a question and waits for the answer. The receiver stands before the question is put, so an
answer given on the spot is not missed. -/
def await (device : DeviceInfo) (id : RequestId) (now deadline : Nat) :
    WaitStrategy → StateM (Desk ρ) Negotiation
  | .event => do
      let receiver ← register id
      awaitNotification device now deadline receiver (← request id device)
  | .poll => do
      match ← request id device with
      | .ok _ => check device now (.polling now deadline now)
      | .error e => conclude device (.error e)

/-- Makes sure of access to a device: nothing is asked where it is granted already. -/
def ensure (device : DeviceInfo) (now : Nat) : StateM (Desk ρ) Negotiation := do
  if ← hasPermission device then conclude device (.ok .granted)
  else
    let id ← freshRequest
    modify (setState device.deviceName (some (.pending id)))
    let config := (← get).config
    await device id now (now + config.timeoutMs.toNat) config.strategy

/-- Gives a wait up. What is known about the device stays as it is. -/
def abandon : Wait → StateM (Desk ρ) Unit
  | .notification receiver _ => unregister receiver
  | .polling .. => pure ()

/-- Whether a wait has something to do. -/
def isDue (d : Desk ρ) (now : Nat) : Wait → Bool
  | .notification receiver deadline => (d.answer? receiver).isSome || deadline ≤ now
  | .polling _ _ wake => wake ≤ now

/-- Enough moments for one wait: the polls that fit into its time, and those at which it starts
and ends. -/
def moments (d : Desk ρ) : Nat :=
  d.config.timeoutMs.toNat / d.timers.pause d.config.pollMs.toNat + 3

end Desk

namespace Wait

/-- When a wait has something to do even if nothing happens. -/
def timer : Wait → Nat
  | .notification _ deadline => deadline
  | .polling _ _ wake => wake

end Wait
end ThumbDrive

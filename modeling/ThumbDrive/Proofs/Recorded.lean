import ThumbDrive.Proofs.Locks
import ThumbDrive.Proofs.Negotiation

/-! # Machines whose calls are written down

A machine does not tell what it was asked to do.  Every machine may be `Recorded`: all calls to it
are written down, in order and with their answers, and passed on.  That changes nothing for the
service (`plain_afterAll`), because a service does nothing with its machine but call it
(`step_map`).

`platformCalls` are the calls to the machine that belong to one call to the service, whatever other
calls do in the meantime. -/
namespace ThumbDrive

/-- A call to a machine, with its answer where that matters. -/
inductive PlatformCall where
  | listed (r : Job (Except IoError (List Attached)))
  | asked (device : DeviceInfo) (granted : Bool)
  | registered (request : RequestId)
  | unregistered (receiver : ReceiverId)
  | requested (device : DeviceInfo)
  | opened (device : DeviceInfo)
  | closed

/-- A machine with the calls made to it. -/
structure Recorded (π : Type) where
  machine : π
  log : List PlatformCall := []

namespace Recorded
variable {π : Type}

instance [Host π] : Host (Recorded π) where
  attached := fun m =>
    let (r, machine) := Host.attached m.machine
    (r, { machine, log := m.log ++ [.listed r] })
  openDevice := fun device m =>
    let (r, machine) := Host.openDevice device m.machine
    (r, { machine, log := m.log ++ [.opened device] })
  closeDevice := fun m => { machine := Host.closeDevice m.machine, log := m.log ++ [.closed] }

instance [Registry π] : Registry (Recorded π) where
  hasPermission := fun device m =>
    let (granted, machine) := Registry.hasPermission device m.machine
    (granted, { machine, log := m.log ++ [.asked device granted] })
  register := fun request m =>
    let (receiver, machine) := Registry.register request m.machine
    (receiver, { machine, log := m.log ++ [.registered request] })
  unregister := fun receiver m =>
    { machine := Registry.unregister receiver m.machine, log := m.log ++ [.unregistered receiver] }
  request := fun q m =>
    let (r, machine) := Registry.request q m.machine
    (r, { machine, log := m.log ++ [.requested q.device] })
  deliveries := fun m => Registry.deliveries m.machine

end Recorded

/-! ## Services on machines that do the same -/

/-- A map of machines under which every call to them does the same. -/
structure Host.Respects {π π' : Type} [Host π] [Host π'] (f : π → π') : Prop where
  attached : ∀ m, Host.attached (f m) = ((Host.attached m).1, f (Host.attached m).2)
  openDevice : ∀ device m,
    Host.openDevice device (f m) = ((Host.openDevice device m).1, f (Host.openDevice device m).2)
  closeDevice : ∀ m, Host.closeDevice (f m) = f (Host.closeDevice m)

namespace Service
variable {π π' : Type}

/-- The service on another machine. -/
def map (f : π → π') (s : Service π) : Service π' where
  desk := s.desk.map f
  locks := s.locks
  nextLock := s.nextLock
  calls := s.calls
  now := s.now

section Respects
variable {f : π → π'}

theorem prune_map (f : π → π') (name : String) (s : Service π) :
    (s.map f).prune name = (s.prune name).map f := by
  unfold prune
  rw [show (s.map f).locks = s.locks from rfl]
  cases s.locks.lookup name with
  | none => rfl
  | some lock =>
    dsimp only
    rw [show (s.map f).hasHandle lock = s.hasHandle lock from rfl]
    split <;> rfl

theorem list_map [Host π] [Host π'] (hf : Host.Respects f) (i : Nat) (s : Service π) :
    (s.map f).list i = (s.list i).map f := by
  unfold list
  simp only [map, Desk.map, hf.attached]
  rfl

variable [Registry π] [Registry π']

theorem proceed_map (hf : Registry.Respects f) (i : Nat) (task : DeviceTask) (device : DeviceInfo)
    (s : Service π) : (s.map f).proceed i task device = (s.proceed i task device).map f := by
  cases task with
  | hasPermission =>
    unfold proceed Desk.hasPermission
    simp only [map, Desk.map, hf.hasPermission]
    rfl
  | requestPermission =>
    show setPhase i (phaseOf device (Desk.ensure device s.now (s.desk.map f)).1)
      { s.map f with desk := (Desk.ensure device s.now (s.desk.map f)).2 } = _
    rw [Desk.ensure_map hf]
    rfl
  | files task =>
    unfold proceed lockOf
    simp only [map]
    split <;> rfl

theorem resolve_map (hf : Registry.Respects f) (i : Nat) (m : Method) (r : Job (List DeviceInfo))
    (s : Service π) : (s.map f).resolve i m r = (s.resolve i m r).map f := by
  cases r with
  | crashed message => cases m <;> rfl
  | finished devices =>
    cases m with
    | getDevices => rfl
    | onDevice v p task =>
      simp only [resolve]
      cases Discovery.find? devices v p with
      | none => rfl
      | some device => exact proceed_map hf i task device { s with desk := s.desk.retain devices }

theorem drop_map (hf : Registry.Respects f) (i : Nat) (s : Service π) :
    (s.map f).drop i = (s.drop i).map f := by
  unfold drop
  rw [show (s.map f).calls = s.calls from rfl]
  cases s.calls[i]? with
  | none => rfl
  | some c =>
    dsimp only
    cases c.phase with
    | negotiating device w =>
      dsimp only
      rw [show (s.map f).desk = s.desk.map f from rfl, Desk.abandon_map hf]
      rfl
    | _ => rfl

variable [Host π] [Host π']

theorem work_map (hf : Host.Respects f) (hf' : Registry.Respects f) (device : DeviceInfo)
    (task : FileTask) (s : Service π) (w : Worker) :
    (s.map f).work device task w =
      ((s.work device task w).1, (s.work device task w).2.map f) := by
  cases w with
  | starting =>
    unfold work Desk.hasPermission
    simp only [map, Desk.map, hf'.hasPermission]
  | permitted =>
    unfold work
    simp only [map, Desk.map, hf.openDevice]
    rfl
  | serving medium =>
    unfold work onMachine
    simp only [map, Desk.map, hf.closeDevice]
  | done r => rfl

/-- **Services on machines that do the same do the same.** -/
theorem step_map (hf : Host.Respects f) (hf' : Registry.Respects f) (i : Nat) (s : Service π) :
    (s.map f).step i = (s.step i).map f := by
  unfold step
  rw [show (s.map f).calls = s.calls from rfl]
  cases s.calls[i]? with
  | none => rfl
  | some c =>
    dsimp only
    cases c.phase with
    | listing => exact list_map hf i s
    | listed r => exact resolve_map hf' i c.method r s
    | negotiating device w =>
      -- the desk and what it answers come from one and the same check
      show setPhase i (phaseOf device (Desk.check device s.now w (s.desk.map f)).1)
        { s.map f with desk := (Desk.check device s.now w (s.desk.map f)).2 } = _
      rw [Desk.check_map hf']
      rfl
    | queued device task lock =>
      dsimp only
      rw [show (s.map f).isHeld lock = s.isHeld lock from rfl]
      split <;> rfl
    | working device task lock w =>
      cases w with
      | done r => rfl
      | starting =>
        dsimp only
        rw [work_map hf hf']
        rfl
      | permitted =>
        dsimp only
        rw [work_map hf hf']
        rfl
      | serving medium =>
        dsimp only
        rw [work_map hf hf']
        rfl
    | freed device r =>
      dsimp only
      rw [prune_map]
      rfl
    | _ => rfl

end Respects

/-! ## Recording changes nothing -/

variable [Host π] [Registry π]

/-- The service with a record of the calls to its machine, none so far. -/
def recorded (s : Service π) : Service (Recorded π) := s.map fun machine => { machine }

/-- The service without the record. -/
def plain (s : Service (Recorded π)) : Service π := s.map Recorded.machine

/-- What is recorded. -/
def log (s : Service (Recorded π)) : List PlatformCall := s.desk.registry.log

/-- The same happens where the calls to the machine are recorded. -/
def Happening.seen : Happening π → Happening (Recorded π)
  | .start method args => .start method args
  | .step i => .step i
  | .drop i => .drop i
  | .machine change => .machine fun m => { m with machine := change m.machine }
  | .clock now => .clock now

theorem plain_after (s : Service (Recorded π)) (x : Happening π) :
    (s.after x.seen).plain = s.plain.after x := by
  have hhost : Host.Respects (Recorded.machine : Recorded π → π) :=
    ⟨fun _ => rfl, fun _ _ => rfl, fun _ => rfl⟩
  have hregistry : Registry.Respects (Recorded.machine : Recorded π → π) :=
    ⟨fun _ _ => rfl, fun _ _ => rfl, fun _ _ => rfl, fun _ _ => rfl, fun _ => rfl⟩
  cases x with
  | start method args => rfl
  | step i => exact (step_map hhost hregistry i s).symm
  | drop i => exact (drop_map hregistry i s).symm
  | machine change => rfl
  | clock now => rfl

/-- **Recording changes nothing.** -/
theorem plain_afterAll (s : Service (Recorded π)) (history : List (Happening π)) :
    (s.afterAll (history.map Happening.seen)).plain = s.plain.afterAll history := by
  induction history generalizing s with
  | nil => rfl
  | cons x history ih =>
    have hrest := ih (s.after x.seen)
    rw [plain_after] at hrest
    exact hrest

/-- What is recorded in the course of a history while call `i` does its steps. -/
def logOf (i : Nat) : Service (Recorded π) → List (Happening π) → List PlatformCall
  | _, [] => []
  | s, x :: history =>
      let s' := s.after x.seen
      match x with
      | .step j => (if j = i then s'.log.drop s.log.length else []) ++ logOf i s' history
      | _ => logOf i s' history

/-- The calls to the machine that call `i` makes in the course of a history. -/
def platformCalls (i : Nat) (s : Service π) (history : List (Happening π)) : List PlatformCall :=
  logOf i s.recorded history

end Service
end ThumbDrive

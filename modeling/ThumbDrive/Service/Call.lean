import ThumbDrive.Permission.Desk
import ThumbDrive.Schedule
import ThumbDrive.Service.Method
import ThumbDrive.Text.Quoted

/-! Calls to the storage service, side by side.

Every call lists the devices first, so a device that was plugged in anew is found. Operations on
files take the lock of their device from a table, wait for it, and have a worker open the device,
run a session and close the device while it holds the lock. When a call returns it drops the
table's entry if nobody else has a handle of the lock.

A caller may give up at any point at which it waits. Its worker does not notice: it finishes and
frees the lock, but nobody is left to look at the table. -/
namespace ThumbDrive

/-- The number of a lock. -/
abbrev LockId := Nat

/-- How far the worker of a call is, which holds the lock of its device. -/
inductive Worker where
  | starting
  | permitted
  | serving (medium : Medium)
  | done (r : Job (Except StorageError Answer))

/-- How far a call is. -/
inductive Phase where
  /-- A worker lists the devices. -/
  | listing
  /-- The devices are listed. -/
  | listed (r : Job (List DeviceInfo))
  /-- The user has been asked. -/
  | negotiating (device : DeviceInfo) (w : Wait)
  /-- The handle of a lock was taken from the table. -/
  | queued (device : DeviceInfo) (task : FileTask) (lock : LockId)
  /-- The lock is held. -/
  | working (device : DeviceInfo) (task : FileTask) (lock : LockId) (w : Worker)
  /-- The lock was given back; the table has not been looked at since. -/
  | freed (device : DeviceInfo) (r : Job (Except StorageError Answer))
  | over (r : Except StorageError Answer)
  | dropped

namespace Phase

/-- The lock a call has a handle of. -/
def handle? : Phase → Option LockId
  | .queued _ _ lock => some lock
  | .working _ _ lock _ => some lock
  | _ => none

/-- The lock a call holds. -/
def held? : Phase → Option LockId
  | .working _ _ lock _ => some lock
  | _ => none

end Phase

/-- A call. -/
structure Call where
  method : Method
  phase : Phase := .listing
  /-- Whether the caller has given up while the worker goes on. -/
  abandoned : Bool := false

/-- The storage service of a machine, and the calls made to it. -/
structure Service (π : Type) where
  desk : Desk π
  /-- The locks of devices, by device name. -/
  locks : List (String × LockId) := []
  nextLock : LockId := 0
  calls : List Call := []
  now : Nat := 0

namespace Service
variable {π : Type}

/-- Whether some call has a handle of a lock. -/
def hasHandle (s : Service π) (lock : LockId) : Bool :=
  s.calls.any fun c => c.phase.handle? == some lock

/-- Whether some call holds a lock. -/
def isHeld (s : Service π) (lock : LockId) : Bool :=
  s.calls.any fun c => c.phase.held? == some lock

/-- Puts a call into another phase. -/
def setPhase (i : Nat) (phase : Phase) (s : Service π) : Service π :=
  { s with calls := s.calls.modify i fun c => { c with phase } }

/-- The lock of a device, a new one if the table has none. -/
def lockOf (name : String) (s : Service π) : LockId × Service π :=
  match s.locks.lookup name with
  | some lock => (lock, s)
  | none =>
      (s.nextLock,
        { s with locks := s.locks ++ [(name, s.nextLock)], nextLock := s.nextLock + 1 })

/-- Drops the lock of a device from the table if no call has a handle of it. -/
def prune (name : String) (s : Service π) : Service π :=
  match s.locks.lookup name with
  | some lock =>
      if s.hasHandle lock then s else { s with locks := s.locks.filter fun (n, _) => n != name }
  | none => s

/-- A worker that crashed is a failure of the call. -/
def crashError (message : String) : StorageError :=
  .ioFailure ("Task failed: task # panicked with message " ++ Text.quote message)

/-- What a call answers when its worker is done. -/
def resultOf : Job (Except StorageError Answer) → Except StorageError Answer
  | .finished r => r
  | .crashed message => .error (crashError message)

/-- How a call answers when a negotiation has ended. -/
def answerOf (device : DeviceInfo) : Except IoError PermissionOutcome → Except StorageError Answer
  | .ok .granted => .ok (.granted true)
  | .ok .denied => .ok (.granted false)
  | .ok (.timedOut ms) => .error (.timedOut device.deviceName (UInt64.ofNat ms))
  | .error e => .error (.during "Permission request failed" e)

/-- Where a step of a negotiation takes a call. -/
def phaseOf (device : DeviceInfo) : Negotiation → Phase
  | .waiting w => .negotiating device w
  | .ended r => .over (answerOf device r)

variable [Host π] [Registry π]

/-- Acts on the machine. -/
def onMachine (f : π → π) (s : Service π) : Service π :=
  { s with desk := { s.desk with registry := f s.desk.registry } }

/-- A worker lists the devices. -/
def list (i : Nat) (s : Service π) : Service π :=
  let (r, machine) := Host.attached s.desk.registry
  let listed := match r with
    | .finished r => Job.finished (Discovery.devices r)
    | .crashed message => .crashed message
  (s.onMachine fun _ => machine).setPhase i (.listed listed)

/-- The call goes on with the device it is about. -/
def proceed (i : Nat) (task : DeviceTask) (device : DeviceInfo) (s : Service π) : Service π :=
  match task with
  | .hasPermission =>
      let (granted, desk) := Desk.hasPermission device s.desk
      { s with desk }.setPhase i (.over (.ok (.granted granted)))
  | .requestPermission =>
      let (n, desk) := Desk.ensure device s.now s.desk
      { s with desk }.setPhase i (phaseOf device n)
  | .files task =>
      let (lock, s) := s.lockOf device.deviceName
      s.setPhase i (.queued device task lock)

/-- The call looks at the list of devices. A list that could not be made is an empty one to those
who only ask for it. -/
def resolve (i : Nat) (m : Method) (r : Job (List DeviceInfo)) (s : Service π) : Service π :=
  match r, m with
  | .crashed _, .getDevices => s.setPhase i (.over (.ok (.devices [])))
  | .crashed message, .onDevice .. => s.setPhase i (.over (.error (crashError message)))
  | .finished devices, .getDevices =>
      { s with desk := s.desk.retain devices }.setPhase i (.over (.ok (.devices devices)))
  | .finished devices, .onDevice v p task =>
      let s := { s with desk := s.desk.retain devices }
      match Discovery.find? devices v p with
      | none => s.setPhase i (.over (.error (.deviceNotFound v p)))
      | some device => s.proceed i task device

/-- What a worker does next, and what it does to the machine. -/
def work (device : DeviceInfo) (task : FileTask) (s : Service π) : Worker → Worker × Service π
  | .starting =>
      let (granted, desk) := Desk.hasPermission device s.desk
      (if granted then .permitted
        else .done (.finished (.error (.permissionDenied device.deviceName))), { s with desk })
  | .permitted =>
      let (r, machine) := Host.openDevice device s.desk.registry
      (match r with
        | .crashed message => .done (.crashed message)
        | .finished (.error e) => .done (.finished (.error (Session.notOpened e)))
        | .finished (.ok medium) => .serving medium, s.onMachine fun _ => machine)
  | .serving medium =>
      (.done (.finished (task.run device.deviceName medium)), s.onMachine Host.closeDevice)
  | .done r => (.done r, s)

/-- Lets a call do one step. -/
def step (i : Nat) (s : Service π) : Service π :=
  match s.calls[i]? with
  | none => s
  | some c =>
      match c.phase with
      | .listing => s.list i
      | .listed r => s.resolve i c.method r
      | .negotiating device w =>
          let (n, desk) := Desk.check device s.now w s.desk
          { s with desk }.setPhase i (phaseOf device n)
      | .queued device task lock =>
          if s.isHeld lock then s else s.setPhase i (.working device task lock .starting)
      | .working device _ _ (.done r) =>
          s.setPhase i (if c.abandoned then .dropped else .freed device r)
      | .working device task lock w =>
          let (w, s) := s.work device task w
          s.setPhase i (.working device task lock w)
      | .freed device r => (s.prune device.deviceName).setPhase i (.over (resultOf r))
      | .over _ => s
      | .dropped => s

/-- The caller of a call gives up. -/
def drop (i : Nat) (s : Service π) : Service π :=
  match s.calls[i]? with
  | none => s
  | some c =>
      match c.phase with
      | .negotiating _ w => { s with desk := (Desk.abandon w s.desk).2 }.setPhase i .dropped
      | .working .. => { s with calls := s.calls.modify i fun c => { c with abandoned := true } }
      | .over _ => s
      | _ => s.setPhase i .dropped

/-- Whether a call can do something now. -/
def isReady (s : Service π) (i : Nat) : Bool :=
  match s.calls[i]? with
  | none => false
  | some c =>
      match c.phase with
      | .negotiating _ w => s.desk.isDue s.now w
      | .queued _ _ lock => !s.isHeld lock
      | .over _ => false
      | .dropped => false
      | _ => true

/-- Starts a call; one that cannot be understood is over at once. -/
def start (name : String) (args : Json) (s : Service π) : Service π :=
  let call : Call :=
    match Method.ofCall name args with
    | .ok m => { method := m }
    | .error e => { method := .getDevices, phase := .over (.error e) }
  { s with calls := s.calls ++ [call] }

instance : Concurrent (Service π) where
  callCount := fun s => s.calls.length
  isReady := isReady
  step := step
  isOver := fun s i =>
    match s.calls[i]?.map Call.phase with
    | some (.over _) => true
    | some .dropped => true
    | none => true
    | _ => false
  timer? := fun s i =>
    match s.calls[i]?.map Call.phase with
    | some (.negotiating _ w) => some w.timer
    | _ => none
  drop := drop
  now := Service.now
  setNow := fun now s => { s with now }

/-- The answer of a call that has come to its end. -/
def result? (s : Service π) (i : Nat) : Option (Except StorageError Answer) :=
  match s.calls[i]?.map Call.phase with
  | some (.over r) => some r
  | _ => none

/-- Enough moments for all calls: the polls of each, and one for every event. -/
def moments (s : Service π) (events : Nat) : Nat :=
  events + 2 + s.calls.length * s.desk.moments

end Service
end ThumbDrive

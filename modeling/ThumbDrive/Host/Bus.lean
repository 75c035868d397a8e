import ThumbDrive.Host.Basic

/-! A simulated bus.

Devices are attached with a disk image or without, a user who always gives the same answer sits in
front of it, and every call is counted. Calls can be made to fail or to crash on schedule. -/
namespace ThumbDrive

/-- What backs a simulated device. -/
inductive BusDisk where
  | memory (image : Image)
  | file (image : Image)
  /-- An image file that does not exist. -/
  | missing
  | unreadable (blockCount : Nat)

/-- A simulated device. -/
structure BusDevice where
  attached : Attached
  disk : Option BusDisk
  granted : Bool := false

/-- How the user answers. -/
inductive Response where
  | grant
  | deny
  /-- The question stays open. -/
  | ignore
  deriving DecidableEq, Repr

/-- Which calls were made how often. -/
structure Bus.Counters where
  hasPermissionCalls : Nat := 0
  permissionRequests : Nat := 0
  registered : Nat := 0
  unregistered : Nat := 0
  opens : Nat := 0
  openNow : Nat := 0
  maxOpen : Nat := 0
  deriving DecidableEq, Repr

/-- A call that is to crash, with its last words. -/
inductive Bus.Crash where
  | enumerating (message : String)
  | opening (message : String)

/-- A simulated bus. -/
structure Bus where
  devices : List BusDevice := []
  response : Response := .grant
  receivers : Receivers := {}
  /-- Questions that were left open, the oldest first. -/
  pending : List PermissionRequest := []
  failsEnumeration : Bool := false
  counters : Bus.Counters := {}
  /-- What every permission request fails with, before it gets to the user. -/
  requestError : Option IoError := none
  /-- Whether every notification is followed by its opposite. -/
  contradicts : Bool := false
  /-- Crashes to come. Only the first one is armed. -/
  crashes : List Bus.Crash := []

namespace Bus

/-- Attaches a mass-storage device. -/
def attach (b : Bus) (info : DeviceInfo) (disk : BusDisk) : Bus :=
  { b with devices := b.devices ++ [{ attached := ⟨info, [.bulkOnly]⟩, disk := some disk }] }

/-- Attaches a device without storage. -/
def attachOther (b : Bus) (info : DeviceInfo) (i : Interface) : Bus :=
  { b with devices := b.devices ++ [{ attached := ⟨info, [i]⟩, disk := none }] }

/-- Unplugs all devices of a name. -/
def detach (b : Bus) (name : String) : Bus :=
  { b with devices := b.devices.filter fun d => d.attached.info.deviceName != name }

/-- Grants or revokes access to all devices of a name. -/
def setGranted (b : Bus) (name : String) (granted : Bool) : Bus :=
  { b with devices := b.devices.map fun d =>
      if d.attached.info.deviceName == name then { d with granted } else d }

/-- Changes the counters. -/
def count (b : Bus) (f : Counters → Counters) : Bus := { b with counters := f b.counters }

/-- The user answers a question: a grant takes effect, and the receivers are told. -/
def deliver (b : Bus) (q : PermissionRequest) (granted : Bool) : Bus :=
  let b := if granted then b.setGranted q.device.deviceName true else b
  { b with receivers := b.receivers.deliver q.id granted b.contradicts }

/-- The user answers all open questions. -/
def answerPending (b : Bus) (granted : Bool) : Bus :=
  b.pending.foldl (fun b q => b.deliver q granted) { b with pending := [] }

/-- Whether some device of that name is granted. -/
def isGranted (b : Bus) (d : DeviceInfo) : Bool :=
  b.devices.any fun x => x.attached.info.deviceName == d.deviceName && x.granted

/-- Counts the question whether access is granted, and answers it. -/
def hasPermission (d : DeviceInfo) (b : Bus) : Bool × Bus :=
  (b.isGranted d, b.count fun c => { c with hasPermissionCalls := c.hasPermissionCalls + 1 })

/-- Registers a receiver. -/
def register (q : RequestId) (b : Bus) : ReceiverId × Bus :=
  let (id, receivers) := b.receivers.register q
  (id, { b with receivers }.count fun c => { c with registered := c.registered + 1 })

/-- Removes a receiver; only one that was there counts. -/
def unregister (id : ReceiverId) (b : Bus) : Bus :=
  if b.receivers.isActive id then
    { b with receivers := b.receivers.unregister id }.count fun c =>
      { c with unregistered := c.unregistered + 1 }
  else b

/-- Puts a question to the user. -/
def request (q : PermissionRequest) (b : Bus) : Except IoError Unit × Bus :=
  match b.requestError with
  | some e => (.error e, b)
  | none =>
      let b := b.count fun c => { c with permissionRequests := c.permissionRequests + 1 }
      (.ok (),
        match b.response with
        | .grant => b.deliver q true
        | .deny => b.deliver q false
        | .ignore => { b with pending := b.pending ++ [q] })

/-- Lists the devices. -/
def listing (b : Bus) : Except IoError (List Attached) :=
  if b.failsEnumeration then .error (.other "simulated enumeration failure")
  else .ok (b.devices.map BusDevice.attached)

/-- The disk of the first device of that name. -/
def diskOf (b : Bus) (d : DeviceInfo) : Except IoError Medium :=
  match b.devices.find? fun x => x.attached.info.deviceName == d.deviceName with
  | none => .error ⟨.notFound, "device was unplugged"⟩
  | some x =>
      match x.disk with
      | none => .error ⟨.unsupported, "not a mass storage device"⟩
      | some (.memory image) => .ok (.memory image)
      | some (.file image) => .ok (.file image)
      | some .missing => .error ⟨.notFound, "No such file or directory (os error 2)"⟩
      | some (.unreadable n) => .ok (.unreadable n)

/-- Opens a device; only a success counts. -/
def openDevice (d : DeviceInfo) (b : Bus) : Except IoError Medium × Bus :=
  match b.diskOf d with
  | .error e => (.error e, b)
  | .ok m =>
      (.ok m, b.count fun c =>
        { c with opens := c.opens + 1, openNow := c.openNow + 1,
                 maxOpen := max c.maxOpen (c.openNow + 1) })

/-- Counts that an opened device was closed. -/
def closeDevice (b : Bus) : Bus := b.count fun c => { c with openNow := c.openNow - 1 }

instance : Host Bus where
  attached := fun b =>
    match b.crashes with
    | .enumerating message :: crashes => (.crashed message, { b with crashes })
    | _ => (.finished b.listing, b)
  openDevice := fun d b =>
    match b.crashes with
    | .opening message :: crashes => (.crashed message, { b with crashes })
    | _ => let (r, b) := b.openDevice d; (.finished r, b)
  closeDevice := closeDevice

instance : Registry Bus where
  hasPermission := hasPermission
  register := register
  unregister := unregister
  request := request
  deliveries := fun b => b.receivers.delivered.reverse

end Bus

/-- A device of the bus that somebody opened. Closing it twice is harmless. -/
structure OpenDevice where
  medium : Medium
  isOpen : Bool := true

namespace OpenDevice

/-- Closes the device and tells its bus. -/
def close (d : OpenDevice) (b : Bus) : OpenDevice × Bus :=
  if d.isOpen then ({ d with isOpen := false }, b.closeDevice) else (d, b)

end OpenDevice
end ThumbDrive

import ThumbDrive.Block.Disk
import ThumbDrive.Usb

/-! Hosts: what lists, opens and guards the devices of a machine.

A host lists devices and opens them; its registry knows who may open what, asks the user, and
tells receivers what the user answered. A worker that calls a host may crash instead of getting
an answer. -/
namespace ThumbDrive

/-- What became of a worker. -/
inductive Job (α : Type) where
  | finished (a : α)
  | crashed (message : String)

/-- The disk inside an opened device. -/
inductive Medium where
  | memory (image : Image)
  /-- An image file: reads end at its last byte. -/
  | file (image : Image)
  /-- So many blocks, none of them readable. -/
  | unreadable (blockCount : Nat)

namespace Medium

/-- Block size of all media. -/
def blockSize : Nat := 512

/-- Offsets into a file are signed numbers of 64 bits. -/
def offsetBound : Nat := 9223372036854775808

/-- Number of blocks. -/
def blockCount : Medium → Nat
  | .memory m => m.size / blockSize
  | .file m => m.size / blockSize
  | .unreadable n => n

/-- The `length` bytes from block `lba` on. -/
def read (m : Medium) (lba length : Nat) : Except IoError Bytes :=
  match m with
  | .memory image => (Disk.mk image blockSize).read lba length
  | .file image =>
      let start := lba * blockSize
      if offsetBound ≤ start then .error ⟨.invalidInput, "Invalid argument (os error 22)"⟩
      else if length = 0 then .ok []
      else if start + length ≤ image.size then .ok (image.slice start length)
      else .error IoError.shortRead
  | .unreadable _ => .error (.other "simulated media error")

instance : BlockDevice Medium where
  blockSize := fun _ => blockSize
  blockCount := blockCount
  readBlocks := fun lba length => do IoOn.ofExcept ((← get).read lba length)
  close := pure ()

end Medium

/-- A machine's devices. -/
class Host (η : Type) where
  /-- Lists every attached device. -/
  attached : η → Job (Except IoError (List Attached)) × η
  /-- Opens a device. -/
  openDevice : DeviceInfo → η → Job (Except IoError Medium) × η
  /-- Takes note that an opened device was closed. -/
  closeDevice : η → η

/-- The number of a permission request. -/
abbrev RequestId := Nat

/-- The number of a registered receiver. -/
abbrev ReceiverId := Nat

/-- A question to the user: may this device be used? -/
structure PermissionRequest where
  id : RequestId
  device : DeviceInfo

/-- An answer that reached a receiver. -/
structure Delivery where
  receiver : ReceiverId
  granted : Bool
  deriving DecidableEq, Repr

/-- A machine's permissions. -/
class Registry (ρ : Type) where
  /-- Whether access is granted. The user is not asked. -/
  hasPermission : DeviceInfo → ρ → Bool × ρ
  /-- Registers a receiver for the answer to a request. -/
  register : RequestId → ρ → ReceiverId × ρ
  /-- Removes a receiver; an unknown one does not matter. -/
  unregister : ReceiverId → ρ → ρ
  /-- Has the user asked. The answer may reach the receivers at once. -/
  request : PermissionRequest → ρ → Except IoError Unit × ρ
  /-- The answers that have reached receivers, the oldest first. -/
  deliveries : ρ → List Delivery

instance {η ρ : Type} [Host η] : Host (η × ρ) where
  attached := fun (h, r) => let (a, h) := Host.attached h; (a, (h, r))
  openDevice := fun d (h, r) => let (a, h) := Host.openDevice d h; (a, (h, r))
  closeDevice := fun (h, r) => (Host.closeDevice h, r)

instance {η ρ : Type} [Registry ρ] : Registry (η × ρ) where
  hasPermission := fun d (h, r) => let (a, r) := Registry.hasPermission d r; (a, (h, r))
  register := fun i (h, r) => let (a, r) := Registry.register i r; (a, (h, r))
  unregister := fun i (h, r) => (h, Registry.unregister i r)
  request := fun q (h, r) => let (a, r) := Registry.request q r; (a, (h, r))
  deliveries := fun (_, r) => Registry.deliveries r

/-- Registered receivers, and what reached them. -/
structure Receivers where
  next : ReceiverId := 1
  table : List (ReceiverId × RequestId) := []
  /-- The answers delivered, the latest first. -/
  delivered : List Delivery := []

namespace Receivers

/-- A new receiver. -/
def register (r : Receivers) (request : RequestId) : ReceiverId × Receivers :=
  (r.next, { r with next := r.next + 1, table := r.table ++ [(r.next, request)] })

/-- Whether a receiver is registered. -/
def isActive (r : Receivers) (id : ReceiverId) : Bool := r.table.any fun (i, _) => i == id

/-- Without a receiver. -/
def unregister (r : Receivers) (id : ReceiverId) : Receivers :=
  { r with table := r.table.filter fun (i, _) => i != id }

/-- Tells an answer to every receiver of a request; where notifications contradict themselves,
the opposite follows at once. -/
def deliver (r : Receivers) (request : RequestId) (granted contradict : Bool) : Receivers :=
  let tell (told : List Delivery) (id : ReceiverId) : List Delivery :=
    if contradict then ⟨id, !granted⟩ :: ⟨id, granted⟩ :: told else ⟨id, granted⟩ :: told
  { r with
    delivered := ((r.table.filter fun (_, q) => q == request).map Prod.fst).foldl tell r.delivered }

end Receivers
end ThumbDrive

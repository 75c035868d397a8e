import ThumbDrive.Error
import ThumbDrive.Session.Basic
import ThumbDrive.Text.Base64
import ThumbDrive.Usb

/-! The operations callers ask for by name, with JSON arguments and answers.

Arguments that cannot be read count as missing, so every operation has one complaint about its
arguments. -/
namespace ThumbDrive

/-- What to do in a session. -/
inductive FileTask where
  | list (path : String)
  | read (path : String)
  deriving DecidableEq, Repr

/-- What to do about a device. -/
inductive DeviceTask where
  | hasPermission
  | requestPermission
  | files (task : FileTask)
  deriving DecidableEq, Repr

/-- An operation and its arguments. -/
inductive Method where
  | getDevices
  | onDevice (vendorId productId : UInt16) (task : DeviceTask)
  deriving DecidableEq, Repr

/-- What an operation answers. -/
inductive Answer where
  | devices (ds : List DeviceInfo)
  | granted (b : Bool)
  | files (names : List String)
  | data (contents : Option Bytes)
  deriving DecidableEq, Repr

namespace Method

/-- The complaint about missing ids. -/
def missingIds : StorageError := .invalidArgument "vendorId and productId are required"

/-- The complaint about missing ids or a missing path. -/
def missingIdsOrPath : StorageError :=
  .invalidArgument "vendorId, productId, and path are required"

/-- The two ids in a JSON value. -/
def ids? (args : Json) : Option (UInt16 × UInt16) := do
  match ← args.record? ["vendorId", "productId"] with
  | [vendorId, productId] => return (← vendorId.uint16?, ← productId.uint16?)
  | _ => none

/-- The two ids and the path in a JSON value. -/
def idsAndPath? (args : Json) : Option (UInt16 × UInt16 × String) := do
  match ← args.record? ["vendorId", "productId", "path"] with
  | [vendorId, productId, path] =>
      return (← vendorId.uint16?, ← productId.uint16?, ← path.str?)
  | _ => none

/-- An operation about a device only. -/
def aboutDevice (args : Json) (task : DeviceTask) : Except StorageError Method :=
  match ids? args with
  | some (v, p) => .ok (.onDevice v p task)
  | none => .error missingIds

/-- An operation about a path on a device. -/
def aboutPath (args : Json) (task : String → FileTask) : Except StorageError Method :=
  match idsAndPath? args with
  | some (v, p, path) => .ok (.onDevice v p (.files (task path)))
  | none => .error missingIdsOrPath

/-- The operation of that name. -/
def ofCall (name : String) (args : Json) : Except StorageError Method :=
  match name with
  | "getDevices" => .ok .getDevices
  | "requestPermission" => aboutDevice args .requestPermission
  | "hasPermission" => aboutDevice args .hasPermission
  | "readdir" => aboutPath args .list
  | "read" => aboutPath args .read
  | other => .error (.invalidArgument ("Unknown method: " ++ other))

end Method

namespace FileTask
variable {δ : Type} [BlockDevice δ]

/-- Does the task in a session. -/
def runIn (task : FileTask) (s : Session δ) : Except StorageError Answer :=
  match task with
  | .list path =>
      match Session.list path s with
      | .ok entries _ => .ok (.files (entries.map Session.Entry.name))
      | .error e _ => .error e
  | .read path =>
      match Session.read path s with
      | .ok data _ => .ok (.data data)
      | .error e _ => .error e

/-- Does the task in a session of its own on an opened device. -/
def run (task : FileTask) (name : String) (device : δ) : Except StorageError Answer :=
  match Session.mount name device with
  | .ok session => task.runIn session
  | .error refusal => .error refusal.error

end FileTask

namespace Answer

/-- The JSON form. File contents are base64, and null stands for a file that does not exist. -/
def toJson : Answer → Json
  | .devices ds => .obj [("devices", .arr (ds.map DeviceInfo.toJson))]
  | .granted b => .obj [("granted", .bool b)]
  | .files names => .obj [("files", .arr (names.map .str))]
  | .data contents => .obj [("data", .ofOption (fun b => .str (Base64.encode b)) contents)]

end Answer
end ThumbDrive

import ThumbDrive.IoError
import ThumbDrive.Json.Value

/-! What callers of the library see when an operation fails.

Each cause has a tag, a technical message, a message for the user, and a JSON form with the tag
first, then the fields of the cause, then the technical message. -/
namespace ThumbDrive

/-- Why an operation failed. -/
inductive StorageError where
  /-- No attached mass-storage device has these ids. -/
  | deviceNotFound (vendorId productId : UInt16)
  /-- Access to the device is not granted. -/
  | permissionDenied (deviceName : String)
  /-- A permission dialog was not answered in time. -/
  | timedOut (deviceName : String) (waitedMs : UInt64)
  /-- The device has nothing to mount. -/
  | noPartition (deviceName : String)
  /-- Nothing is at the path. -/
  | notFound (path : String)
  /-- A file is where a directory was expected. -/
  | notADirectory (path : String)
  /-- A directory is where a file was expected. -/
  | isADirectory (path : String)
  /-- The device or the filesystem failed. -/
  | ioFailure (message : String)
  /-- The request names no operation or lacks an argument. -/
  | invalidArgument (message : String)
  deriving DecidableEq, Repr

namespace StorageError

/-- A failure of input or output, told as it is. -/
def ofIo (e : IoError) : StorageError := .ioFailure e.message

/-- A failure of input or output while doing `what`. -/
def during (what : String) (e : IoError) : StorageError := .ioFailure (what ++ ": " ++ e.message)

/-- The tag of a cause. -/
def kind : StorageError → String
  | .deviceNotFound .. => "deviceNotFound"
  | .permissionDenied _ => "permissionDenied"
  | .timedOut .. => "timedOut"
  | .noPartition _ => "noPartition"
  | .notFound _ => "notFound"
  | .notADirectory _ => "notADirectory"
  | .isADirectory _ => "isADirectory"
  | .ioFailure _ => "ioFailure"
  | .invalidArgument _ => "invalidArgument"

/-- The technical message. -/
def message : StorageError → String
  | .deviceNotFound v p =>
      "USB device not found: " ++ Hex.padded 4 v.toNat ++ ":" ++ Hex.padded 4 p.toNat
  | .permissionDenied name => "Permission denied for " ++ name
  | .timedOut name ms =>
      "Permission request for " ++ name ++ " timed out after " ++ Decimal.write ms.toNat ++ " ms"
  | .noPartition name => "No partition found on " ++ name
  | .notFound path => "Not found: " ++ path
  | .notADirectory path => "Not a directory: " ++ path
  | .isADirectory path => "Is a directory: " ++ path
  | .ioFailure m => "I/O failure: " ++ m
  | .invalidArgument m => m

/-- The message for the user. -/
def userMessage : StorageError → String
  | .deviceNotFound .. => "USB device not found. It may have been unplugged."
  | .permissionDenied _ =>
      "No permission to access the USB device. Allow access when the system asks."
  | .timedOut .. => "The permission request was not answered in time. Try again."
  | .noPartition _ => "The USB device has no readable partition."
  | .notFound path => "File or folder not found: " ++ path
  | .notADirectory path => "Not a folder: " ++ path
  | .isADirectory path => "The path is a folder: " ++ path
  | .ioFailure m => "Couldn't read the USB device: " ++ m
  | .invalidArgument m => m

/-- The fields of a cause. The causes that are only a message have none: their message is told
once, as the technical message. -/
def details : StorageError → List (String × Json)
  | .deviceNotFound v p => [("vendor_id", .nat v.toNat), ("product_id", .nat p.toNat)]
  | .permissionDenied name => [("device_name", .str name)]
  | .timedOut name ms => [("device_name", .str name), ("waited_ms", .nat ms.toNat)]
  | .noPartition name => [("device_name", .str name)]
  | .notFound path => [("path", .str path)]
  | .notADirectory path => [("path", .str path)]
  | .isADirectory path => [("path", .str path)]
  | .ioFailure _ => []
  | .invalidArgument _ => []

/-- The JSON form. -/
def toJson (e : StorageError) : Json :=
  .obj (("type", .str e.kind) :: (e.details ++ [("message", .str e.message)]))

end StorageError
end ThumbDrive

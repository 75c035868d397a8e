import ThumbDrive.Json.Document
import ThumbDrive.Log
import ThumbDrive.IoError

/-! USB devices as a host lists them, and the mass-storage devices among them. -/
namespace ThumbDrive

/-- Description of a device. -/
structure DeviceInfo where
  /-- Path of the device on its host. -/
  deviceName : String
  manufacturerName : Option String
  productName : Option String
  vendorId : UInt16
  productId : UInt16
  deriving DecidableEq, Repr

namespace DeviceInfo

/-- The names of the fields. -/
def fieldNames : List String :=
  ["deviceName", "manufacturerName", "productName", "vendorId", "productId"]

/-- A description from the values of its fields. -/
def ofFields? : List Json → Option DeviceInfo
  | [name, manufacturer, product, vendorId, productId] => do
      return {
        deviceName := ← name.str?
        manufacturerName := ← manufacturer.optional? Json.str?
        productName := ← product.optional? Json.str?
        vendorId := ← vendorId.uint16?
        productId := ← productId.uint16? }
  | _ => none

/-- A description from a JSON value. -/
def ofJson? (j : Json) : Option DeviceInfo := do ofFields? (← j.record? fieldNames)

/-- A description from a JSON text. -/
def parse? (s : String) : Option DeviceInfo := do
  ofFields? (← (← Json.Document.parse? s).record? fieldNames)

/-- The JSON form. -/
def toJson (d : DeviceInfo) : Json :=
  .obj [("deviceName", .str d.deviceName), ("manufacturerName", .ofOption .str d.manufacturerName),
    ("productName", .ofOption .str d.productName), ("vendorId", .nat d.vendorId.toNat),
    ("productId", .nat d.productId.toNat)]

/-- The ids as written between people. -/
def idText (vendorId productId : UInt16) : String :=
  Hex.padded 4 vendorId.toNat ++ ":" ++ Hex.padded 4 productId.toNat

/-- The name to show: of the product, or of its maker, or else the ids. -/
def displayName (d : DeviceInfo) : String :=
  match d.productName, d.manufacturerName with
  | some product, _ => product
  | none, some manufacturer => manufacturer ++ " drive"
  | none, none => "USB drive (" ++ idText d.vendorId d.productId ++ ")"

/-- Whether the device has these ids. -/
def hasIds (d : DeviceInfo) (vendorId productId : UInt16) : Bool :=
  d.vendorId == vendorId && d.productId == productId

end DeviceInfo

/-- What an interface of a device speaks. -/
structure Interface where
  cls : UInt8
  subclass : UInt8
  protocol : UInt8
  deriving DecidableEq, Repr

namespace Interface

/-- SCSI commands over Bulk-Only Transport. -/
def bulkOnly : Interface := ⟨0x08, 0x06, 0x50⟩

/-- Whether the interface is one of mass storage that this library can use. -/
def isBulkOnly (i : Interface) : Bool := i == bulkOnly

end Interface

/-- A device as a host lists it. -/
structure Attached where
  info : DeviceInfo
  interfaces : List Interface
  deriving DecidableEq, Repr

namespace Attached

/-- Whether the device can be used for mass storage. -/
def isMassStorage (a : Attached) : Bool := a.interfaces.any Interface.isBulkOnly

end Attached

/-! ### Discovery -/

namespace Discovery

/-- The mass-storage devices of a host; none if it could not list its devices. -/
def devices : Except IoError (List Attached) → List DeviceInfo
  | .ok attached => (attached.filter Attached.isMassStorage).map Attached.info
  | .error _ => []

/-- What is logged about one listing. -/
def listingLog : Except IoError (List Attached) → List Log.Line
  | .error e => [⟨.warn, "Failed to enumerate USB devices: " ++ e.message⟩]
  | .ok attached =>
      let found := devices (.ok attached)
      found.map (fun d => ⟨.debug, "Mass storage device: name=" ++ d.deviceName ++ ", vendor="
          ++ Hex.padded 4 d.vendorId.toNat ++ ", product=" ++ Hex.padded 4 d.productId.toNat⟩)
        ++ [⟨.debug, "Found " ++ Decimal.write found.length ++ " mass storage device(s) among "
          ++ Decimal.write attached.length ++ " USB device(s)"⟩]

/-- The first device with these ids. -/
def find? (ds : List DeviceInfo) (vendorId productId : UInt16) : Option DeviceInfo :=
  ds.find? fun d => d.hasIds vendorId productId

/-- What is logged when several devices have these ids. -/
def findLog (ds : List DeviceInfo) (vendorId productId : UInt16) : List Log.Line :=
  match ds.filter fun d => d.hasIds vendorId productId with
  | first :: other :: others =>
      [⟨.warn, Decimal.write (other :: others).length ++ " more device(s) share "
        ++ DeviceInfo.idText vendorId productId ++ ", using " ++ first.deviceName⟩]
  | _ => []

end Discovery
end ThumbDrive

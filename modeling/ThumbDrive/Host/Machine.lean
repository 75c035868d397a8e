import ThumbDrive.Host.Basic
import ThumbDrive.Text.Blank

/-! The USB devices of a Linux machine.

There is no dialog there: whoever can read and write the node of a device may use it, so a
permission request is answered at once by the state of the node. -/
namespace ThumbDrive

/-- Device nodes that can be read and written, and the receivers of answers about them. -/
structure NodeRegistry where
  nodes : List String
  receivers : Receivers := {}

namespace NodeRegistry

/-- Whether a node can be used. No path has a NUL in it. -/
def isAccessible (r : NodeRegistry) (path : String) : Bool := r.nodes.contains path

instance : Registry NodeRegistry where
  hasPermission := fun d r => (r.isAccessible d.deviceName, r)
  register := fun q r =>
    let (id, receivers) := r.receivers.register q
    (id, { r with receivers })
  unregister := fun id r => { r with receivers := r.receivers.unregister id }
  request := fun q r =>
    (.ok (), { r with
      receivers := r.receivers.deliver q.id (r.isAccessible q.device.deviceName) false })
  deliveries := fun r => r.receivers.delivered.reverse

end NodeRegistry

/-- A USB device as the machine describes it. -/
structure UsbNode where
  bus : Nat
  address : Nat
  vendorId : UInt16
  productId : UInt16
  manufacturer : Option String
  product : Option String
  /-- The interfaces under their numbers. -/
  interfaces : List (Nat × Interface)
  /-- Whether the device node exists. -/
  hasNode : Bool

namespace UsbNode

/-- The path of the device node. -/
def path (n : UsbNode) : String :=
  "/dev/bus/usb/" ++ Decimal.padded 3 n.bus ++ "/" ++ Decimal.padded 3 n.address

/-- The device as hosts list it: names without blanks around them, interfaces by number. -/
def attached (n : UsbNode) : Attached where
  info :=
    { deviceName := n.path
      manufacturerName := n.manufacturer.map Text.trim
      productName := n.product.map Text.trim
      vendorId := n.vendorId
      productId := n.productId }
  interfaces := (n.interfaces.mergeSort fun a b => a.1 ≤ b.1).map Prod.snd

end UsbNode

/-- A machine: its USB devices, if it has USB at all, and the registry of its nodes. -/
structure Machine where
  devices : Option (List UsbNode)
  registry : NodeRegistry

namespace Machine

/-- Nodes that every machine lets everybody use. -/
def commonNodes : List String := ["/dev/null", "/dev/zero"]

/-- The nodes that can be used. -/
def nodes (devices : Option (List UsbNode)) : List String :=
  commonNodes ++ ((devices.getD []).filter UsbNode.hasNode).map UsbNode.path

/-- A machine with these devices. -/
def ofDevices (devices : Option (List UsbNode)) : Machine where
  devices
  registry := { nodes := nodes devices }

/-- The machine with other devices. -/
def replug (m : Machine) (devices : Option (List UsbNode)) : Machine where
  devices
  registry := { m.registry with nodes := nodes devices }

/-- The machine has no USB. -/
def noUsb : IoError := .other "/sys/bus/usb/devices/ not found (errno 2)"

/-- Lists the devices in the order of their nodes. -/
def listing (m : Machine) : Except IoError (List Attached) :=
  match m.devices with
  | none => .error noUsb
  | some devices =>
      .ok ((devices.map UsbNode.attached).mergeSort fun a b =>
        a.info.deviceName ≤ b.info.deviceName)

/-- Why a device cannot be opened. A node leads to no real device here. -/
def openError (m : Machine) (d : DeviceInfo) : IoError :=
  match m.devices with
  | none => noUsb
  | some devices =>
      match devices.find? fun n => n.path == d.deviceName with
      | none => ⟨.notFound, "device was unplugged"⟩
      | some n =>
          if !n.attached.isMassStorage then
            ⟨.unsupported, "no bulk-only mass storage interface"⟩
          else if n.hasNode then .other "invalid device descriptor"
          else .other "device not found (errno 2)"

instance : Host Machine where
  attached := fun m => (.finished m.listing, m)
  openDevice := fun d m => (.finished (.error (m.openError d)), m)
  closeDevice := id

instance : Registry Machine where
  hasPermission := fun d m =>
    let (a, registry) := Registry.hasPermission d m.registry
    (a, { m with registry })
  register := fun q m =>
    let (id, registry) := Registry.register q m.registry
    (id, { m with registry })
  unregister := fun id m => { m with registry := Registry.unregister id m.registry }
  request := fun q m =>
    let (a, registry) := Registry.request q m.registry
    (a, { m with registry })
  deliveries := fun m => Registry.deliveries m.registry

end Machine
end ThumbDrive

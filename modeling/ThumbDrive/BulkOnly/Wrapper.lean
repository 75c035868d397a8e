import ThumbDrive.Bytes
import ThumbDrive.IoError
import ThumbDrive.Text.Decimal
import ThumbDrive.Text.Hex

/-! The wrappers of Bulk-Only Transport: 31 bytes around a command, 13 bytes of status. -/
namespace ThumbDrive

/-- A command on its way to a device. -/
structure CommandWrapper where
  tag : UInt32
  /-- Bytes of the data phase. -/
  transferLength : UInt32
  /-- Whether data flows to the host. -/
  dataIn : Bool
  /-- Logical unit; its low four bits count. -/
  lun : UInt8
  /-- The command itself, 1 to 16 bytes. -/
  command : Bytes
  deriving DecidableEq, Repr

namespace CommandWrapper

/-- Longest command. -/
def commandLimit : Nat := 16

/-- The signature, the bytes `USBC`. -/
def signature : Nat := 0x43425355

/-- Whether the command is one that a wrapper can hold. -/
def fits (w : CommandWrapper) : Bool := !w.command.isEmpty && w.command.length ≤ commandLimit

/-- The wrapper in bytes, the command filled up with zeros. -/
def encode (w : CommandWrapper) : Bytes :=
  Bytes.little 4 signature ++ Bytes.little 4 w.tag.toNat ++ Bytes.little 4 w.transferLength.toNat
    ++ [if w.dataIn then 0x80 else 0, w.lun % 16, UInt8.ofNat w.command.length]
    ++ w.command ++ List.replicate (commandLimit - w.command.length) 0

/-- The wrapper in bytes, if the command fits. -/
def encode? (w : CommandWrapper) : Option Bytes := if w.fits then some w.encode else none

end CommandWrapper

/-- How a command ended. -/
inductive CommandStatus where
  | passed
  | failed
  | phaseError
  deriving DecidableEq, Repr

/-- The status of a command on its way back. -/
structure StatusWrapper where
  tag : UInt32
  /-- Bytes of the data phase that are missing or padding. -/
  residue : UInt32
  status : CommandStatus
  deriving DecidableEq, Repr

/-- A breach of the protocol. -/
def protocolError (message : String) : IoError := ⟨.invalidData, message⟩

namespace CommandStatus

/-- The status byte. -/
def code : CommandStatus → UInt8
  | .passed => 0
  | .failed => 1
  | .phaseError => 2

/-- The status a byte stands for. -/
def ofCode? : UInt8 → Option CommandStatus
  | 0 => some .passed
  | 1 => some .failed
  | 2 => some .phaseError
  | _ => none

end CommandStatus

namespace StatusWrapper

/-- Bytes in a status wrapper. -/
def size : Nat := 13

/-- The signature, the bytes `USBS`. -/
def signature : Nat := 0x53425355

/-- The wrapper in bytes, with any status byte. -/
def encodeWith (tag residue : UInt32) (status : UInt8) : Bytes :=
  Bytes.little 4 signature ++ Bytes.little 4 tag.toNat ++ Bytes.little 4 residue.toNat ++ [status]

/-- The wrapper in bytes. -/
def encode (w : StatusWrapper) : Bytes := encodeWith w.tag w.residue w.status.code

/-- Reads a wrapper: the length is checked first, then the signature, then the status. -/
def decode (b : Bytes) : Except IoError StatusWrapper :=
  let mark := Bytes.word32 b 0
  let status := b.getD 12 0
  if b.length ≠ size then
    .error (protocolError ("CSW is " ++ Decimal.write b.length ++ " bytes, expected 13"))
  else if mark ≠ signature then
    .error (protocolError ("bad CSW signature 0x" ++ Hex.padded 8 mark))
  else
    match CommandStatus.ofCode? status with
    | none => .error (protocolError ("unknown CSW status " ++ Decimal.write status.toNat))
    | some status =>
        .ok
          { tag := UInt32.ofNat (Bytes.word32 b 4)
            residue := UInt32.ofNat (Bytes.word32 b 8)
            status }

end StatusWrapper
end ThumbDrive

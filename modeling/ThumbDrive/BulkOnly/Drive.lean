import ThumbDrive.Block.Device
import ThumbDrive.BulkOnly.Target
import ThumbDrive.Log
import ThumbDrive.Text.Blank
import ThumbDrive.Text.Utf8

/-! Drives reached by SCSI commands over a pipe.

A command is a wrapper out, at most one data packet in, and a status in. Its tag is a running
number, and a status counts only with the tag of its command. A `Drive` is a block device: reads
are cut into commands of at most 65536 bytes, or one block if that is more. -/
namespace ThumbDrive

/-- A drive at the end of a pipe. -/
structure Drive (π : Type) where
  pipe : π
  nextTag : UInt32 := 1
  blockSize : Nat := 0
  blockCount : Nat := 0
  isOpen : Bool := true
  /-- What was logged, the latest first. -/
  log : List Log.Line := []

namespace Drive
variable {π : Type} [BulkPipe π]

/-- Most bytes asked for by one command. -/
def transferLimit : Nat := 65536

/-- The drive was closed. -/
def closedError : IoError := ⟨.notConnected, "device is closed"⟩

/-- Acts on the pipe. -/
def onPipe {α : Type} : IoOn π α → IoOn (Drive π) α :=
  IoOn.zoom pipe fun p d => { d with pipe := p }

/-- Logs a line. -/
def note (l : Log.Line) : IoOn (Drive π) Unit := modify fun d => { d with log := l :: d.log }

/-- The wrapper of the next command, which asks for `length` bytes. -/
def wrapper (d : Drive π) (cdb : Bytes) (length : Nat) : CommandWrapper where
  tag := d.nextTag
  transferLength := UInt32.ofNat length
  dataIn := length != 0
  lun := 0
  command := cdb

/-- Receives the data of a command, if any was asked for. -/
def takeData (length : Nat) : IoOn π Bytes :=
  if length = 0 then pure [] else BulkPipe.bulkIn length

/-- The transfers of a command: what came in for data, and what came in for a status. -/
def exchange (packet : Bytes) (length : Nat) : IoOn π (Bytes × Bytes) := do
  BulkPipe.bulkOut packet
  return (← takeData length, ← BulkPipe.bulkIn StatusWrapper.size)

/-- Whether a command has passed, read from what came in for a status. A phase error leaves the
transport in need of a reset, so it is an error here. -/
def verdict (cdb : Bytes) (tag : UInt32) (b : Bytes) : Except IoError Bool :=
  match StatusWrapper.decode b with
  | .error e => .error e
  | .ok csw =>
      if csw.tag ≠ tag then
        .error (protocolError ("CSW tag " ++ Decimal.write csw.tag.toNat
          ++ " does not match CBW tag " ++ Decimal.write tag.toNat))
      else
        match csw.status with
        | .phaseError =>
            .error (protocolError
              ("phase error on SCSI opcode 0x" ++ Hex.padded 2 (Bytes.byteAt cdb 0)))
        | status => .ok (status == .passed)

/-- Runs a command that asks for `length` bytes: what came in, and whether the command passed. -/
def command (cdb : Bytes) (length : Nat) : IoOn (Drive π) (Bytes × Bool) := do
  let d ← get
  if !d.isOpen then throw closedError
  set { d with nextTag := d.nextTag + 1 }
  let (data, status) ← onPipe (exchange (d.wrapper cdb length).encode length)
  return (data, ← IoOn.ofExcept (verdict cdb d.nextTag status))

/-- A text of the identification; it is left out where the data ends before it does. -/
def identityText (b : Bytes) (start length : Nat) : String :=
  if start + length ≤ b.length then Text.trim (Utf8.decode (Bytes.slice b start length)) else ""

/-- Asks what the drive is, for the log. -/
def identify : IoOn (Drive π) Unit := do
  let (data, _) ← command [0x12, 0, 0, 0, 36, 0] 36
  let type := if data.isEmpty then 0x1F else Bytes.byteAt data 0 % 32
  let removable := if Bytes.byteAt data 1 / 128 = 1 then "true" else "false"
  note ⟨.info, "SCSI device: vendor='" ++ identityText data 8 8 ++ "', product='"
    ++ identityText data 16 16 ++ "', type=0x" ++ Hex.padded 2 type ++ ", removable=" ++ removable⟩
  if type ≠ 0 then
    note ⟨.warn, "Peripheral type 0x" ++ Hex.padded 2 type
      ++ " is not a direct-access block device, continuing anyway"⟩

/-- Asks whether the drive is ready. If not, reading why clears the condition. -/
def makeReady : IoOn (Drive π) Unit := do
  let (_, ready) ← command [0, 0, 0, 0, 0, 0] 0
  if !ready then
    let (sense, _) ← command [0x03, 0, 0, 0, 18, 0] 18
    note ⟨.debug, "TEST UNIT READY failed, sense key 0x"
      ++ Hex.padded 2 (Bytes.byteAt sense 2 % 16)⟩

/-- Asks for the number of the last block and the size of a block. -/
def capacity : IoOn (Drive π) (Nat × Nat) := do
  let (data, passed) ← command [0x25, 0, 0, 0, 0, 0, 0, 0, 0, 0] 8
  if !passed || data.length != 8 then throw (protocolError "READ CAPACITY failed")
  return (Bytes.ofBig (data.take 4), Bytes.ofBig (data.drop 4))

/-- Makes a drive usable. -/
def initDrive : IoOn (Drive π) Unit := do
  identify
  makeReady
  let (lastLba, blockSize) ← capacity
  if blockSize = 0 then throw (protocolError "device reports a zero block size")
  let blockCount := lastLba + 1
  modify fun d => { d with blockSize, blockCount }
  note ⟨.info, "SCSI capacity: " ++ Decimal.write blockCount ++ " blocks of "
    ++ Decimal.write blockSize ++ " bytes (" ++ Decimal.write (blockCount * blockSize / 1048576)
    ++ " MiB)"⟩

/-- Reads `count` blocks with one command. -/
def readOnce (lba count : Nat) : IoOn (Drive π) Bytes := do
  let length := count * (← get).blockSize
  let cdb := [0x28, 0] ++ Bytes.big 4 lba ++ [0] ++ Bytes.big 2 count ++ [0]
  let (data, passed) ← command cdb length
  if !passed then throw (.other ("READ(10) at LBA " ++ Decimal.write lba ++ " failed"))
  if data.length ≠ length then
    throw ⟨.unexpectedEof, "READ(10) at LBA " ++ Decimal.write lba ++ " returned "
      ++ Decimal.write data.length ++ " of " ++ Decimal.write length ++ " bytes"⟩
  return data

/-- Blocks asked for by one command. -/
def commandBlocks (blockSize : Nat) : Nat := max 1 (min (transferLimit / blockSize) 65535)

/-- The commands that read `count` blocks from `lba` on: where each starts, and how many blocks it
asks for, `most` or what is left. -/
def cut (most lba count : Nat) : List (Nat × Nat) :=
  if _h : count = 0 ∨ most = 0 then []
  else (lba, min most count) :: cut most (lba + min most count) (count - min most count)
termination_by count
decreasing_by omega

/-- Reads along a list of commands. -/
def readAlong : List (Nat × Nat) → IoOn (Drive π) Bytes
  | [] => pure []
  | (lba, count) :: rest => do
      if 4294967296 ≤ lba then throw ⟨.invalidInput, "LBA beyond READ(10) range"⟩
      let data ← readOnce lba count
      return data ++ (← readAlong rest)

/-- The `length` bytes from block `lba` on. -/
def readBlocks (lba length : Nat) : IoOn (Drive π) Bytes := do
  let d ← get
  if length % d.blockSize ≠ 0 then
    throw ⟨.invalidInput, "read length is not a multiple of the block size"⟩
  let count := length / d.blockSize
  if d.blockCount < lba + count then
    throw ⟨.unexpectedEof, "read past the end of the device"⟩
  readAlong (cut (commandBlocks d.blockSize) lba count)

/-- Gives the pipe back, the first time it is called. -/
def close : IoOn (Drive π) Unit := do
  let d ← get
  if d.isOpen then
    set { d with isOpen := false }
    onPipe BulkPipe.release

instance : BlockDevice (Drive π) where
  blockSize := Drive.blockSize
  blockCount := Drive.blockCount
  readBlocks := readBlocks
  close := close

/-- A drive made usable over a pipe. -/
def ofPipe (p : π) : Except IoError Unit × Drive π := IoOn.outcome initDrive { pipe := p }

end Drive
end ThumbDrive

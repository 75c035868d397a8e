import ThumbDrive.Partition.Select
import ThumbDrive.Session.FileStream
import ThumbDrive.Session.Path

/-! Sessions: a device opened, its partition found and mounted, until it is closed.

Whatever fails on the way closes the device again. The device is closed once in the life of a
session, and nothing is read from it afterwards. -/
namespace ThumbDrive

/-- Whether a session still has its volume. The device is kept for those who count its calls. -/
inductive Session.State (δ : Type) where
  | mounted (volume : Volume) (stream : BlockStream δ)
  | closed (device : δ)

/-- A mounted device. -/
structure Session (δ : Type) where
  deviceName : String
  partition : Partition
  /-- Bytes asked for at a time when a file is read. -/
  chunkSize : Nat
  fatType : FatType
  state : Session.State δ

/-- A child of a listed directory. -/
structure Session.Entry where
  name : String
  isDirectory : Bool
  deriving DecidableEq, Repr

namespace Session
variable {δ : Type} [BlockDevice δ]

/-- Bytes asked for at a time if the boot sector gives no cluster size. -/
def fallbackChunkSize : Nat := 4096

/-- Why no session could be opened, and the device as it was left if it had been opened. -/
structure Refusal (δ : Type) where
  error : StorageError
  device : Option δ

/-- The partition to mount and its first block. -/
def findPartition : IoOn δ (Option (Partition × Bytes)) := do
  match (← Partition.find).partition? with
  | none => return none
  | some p => return some (p, ← BlockDevice.readBlocks p.firstLba (BlockDevice.blockSize (← get)))

/-- The device after it was closed; an error of that is ignored. -/
def closed (d : δ) : δ := (IoOn.outcome BlockDevice.close d).2

/-- Mounts an opened device. -/
def mount (name : String) (d : δ) : Except (Refusal δ) (Session δ) :=
  match findPartition d with
  | .error e d => .error ⟨.during "Couldn't read the partition table" e, some (closed d)⟩
  | .ok none d => .error ⟨.noPartition name, some (closed d)⟩
  | .ok (some (partition, block)) d =>
      let stream : BlockStream δ :=
        { device := d, firstLba := partition.firstLba, blockCount := partition.blockCount }
      match Volume.mount stream with
      | .error e s => .error ⟨.during "Couldn't mount the FAT filesystem" e, some s.release⟩
      | .ok volume s =>
          .ok
            { deviceName := name
              partition
              chunkSize := (BootSector.clusterSize? block).getD fallbackChunkSize
              fatType := volume.fatType
              state := .mounted volume s }

/-- The device would not open. -/
def notOpened (e : IoError) : StorageError := .during "Couldn't open the device" e

/-- Opens a session: access must be granted, then the device must open, then it is mounted. -/
def openWith (name : String) (granted : Bool) (device : Except IoError δ) :
    Except (Refusal δ) (Session δ) :=
  if !granted then .error ⟨.permissionDenied name, none⟩
  else
    match device with
    | .error e => .error ⟨notOpened e, none⟩
    | .ok d => mount name d

/-- Whether the session can still be used. -/
def isOpen (s : Session δ) : Bool :=
  match s.state with
  | .mounted .. => true
  | .closed _ => false

/-- Acts on the volume of an open session. -/
def onVolume {α : Type} (act : Volume → EStateM StorageError (BlockStream δ) α) :
    EStateM StorageError (Session δ) α := fun s =>
  match s.state with
  | .closed _ => .error (.ioFailure ("Session for " ++ s.deviceName ++ " is closed")) s
  | .mounted v stream =>
      match act v stream with
      | .ok a stream => .ok a { s with state := .mounted v stream }
      | .error e stream => .error e { s with state := .mounted v stream }

/-- Reads in a directory; a failure is told as one. -/
def inDirectory {α : Type} (act : IoOn (BlockStream δ) α) :
    EStateM StorageError (BlockStream δ) α := fun s =>
  match act s with
  | .ok a s => .ok a s
  | .error e s => .error (.during "Couldn't read the directory" e) s

/-- What is shown of the entries of a directory: its children. -/
def visible (entries : List DirEntry) : List Entry :=
  (entries.filter fun e => !e.isDot).map fun e => ⟨e.name, e.isDirectory⟩

/-- The children of the directory at a path, in the order of their slots. -/
def list (path : String) : EStateM StorageError (Session δ) (List Entry) :=
  onVolume fun v => do
    match ← inDirectory (v.resolve path) with
    | none => throw (.notFound path)
    | some (.file _) => throw (.notADirectory path)
    | some (.directory d) => return visible (← inDirectory (d.entries v))

/-- The stream of an entry's file. -/
def fileStream (v : Volume) (chunkSize : Nat) (e : DirEntry) : FileStream where
  volume := v
  cursor := some (v.fileOf e)
  chunkSize
  totalSize := e.slot.size

/-- The contents of the file at a path, if something is there. -/
def read (path : String) : EStateM StorageError (Session δ) (Option Bytes) := fun session =>
  session |> onVolume fun v => do
    match ← inDirectory (v.resolve path) with
    | none => return none
    | some (.directory _) => throw (.isADirectory path)
    | some (.file e) => return some (← (fileStream v session.chunkSize e).contents)

/-- Unmounts the volume and closes the device, the first time it is called. -/
def close (s : Session δ) : Session δ :=
  match s.state with
  | .closed _ => s
  | .mounted _ stream => { s with state := .closed stream.release }

/-- The device as a session leaves it. -/
def device (s : Session δ) : δ :=
  match s.state with
  | .closed d => d
  | .mounted _ stream => stream.device

end Session
end ThumbDrive

import ThumbDrive.Block.Image
import ThumbDrive.BulkOnly.Wrapper

/-! A disk drive behind Bulk-Only Transport, and pipes to reach it.

`Target` answers one command wrapper at a time. `Line` is a pipe that may have a target at its
end, may be fed from a list of incoming packets, and may refuse outgoing ones. -/
namespace ThumbDrive

/-- The two bulk endpoints of a mass-storage interface. -/
class BulkPipe (π : Type) where
  /-- Sends bytes to the device. -/
  bulkOut : Bytes → IoOn π Unit
  /-- Receives at most so many bytes from the device. -/
  bulkIn : Nat → IoOn π Bytes
  /-- Gives the interface back. -/
  release : IoOn π Unit

/-- A drive that serves an image. -/
structure Target where
  image : Image
  blockSize : Nat := 512
  /-- Number of the last block, as the drive reports it. -/
  lastLba : Nat
  /-- How often it still says that it is not ready. -/
  notReady : Nat := 0
  /-- Blocks it cannot read. -/
  badLbas : List Nat := []

namespace Target

/-- What the drive says about itself. -/
def identity : Bytes :=
  [0, 0x80, 0, 0, 0, 0, 0, 0] ++ Bytes.ofAscii "SanDisk Cruzer Blade    " ++ [0, 0, 0, 0]

/-- Sense data: something about the medium changed. -/
def sense : Bytes := [0x70, 0, 6] ++ List.replicate 15 0

/-- Bytes of `count` blocks from `lba` on, as far as the image goes. -/
def blocks (t : Target) (lba count : Nat) : Bytes :=
  let start := lba * t.blockSize
  t.image.slice start (min (count * t.blockSize) (t.image.size - start))

/-- Data and status of a command. -/
def execute (t : Target) (command : Bytes) : (Bytes × CommandStatus) × Target :=
  match Bytes.byteAt command 0 with
  | 0x12 => ((identity, .passed), t)
  | 0x00 =>
      match t.notReady with
      | 0 => (([], .passed), t)
      | n + 1 => (([], .failed), { t with notReady := n })
  | 0x03 => ((sense, .passed), t)
  | 0x25 => ((Bytes.big 4 t.lastLba ++ Bytes.big 4 t.blockSize, .passed), t)
  | 0x28 =>
      let lba := Bytes.ofBig (Bytes.slice command 2 4)
      let count := Bytes.ofBig (Bytes.slice command 7 2)
      if t.badLbas.any fun bad => lba ≤ bad && bad < lba + count then (([], .failed), t)
      else ((t.blocks lba count, .passed), t)
  | _ => (([], .failed), t)

/-- The packets in answer to a command wrapper: the data, if any was asked for, cut to what was
asked for, and the status with what is missing. -/
def answer (t : Target) (wrapper : Bytes) : List Bytes × Target :=
  let length := Bytes.word32 wrapper 8
  let ((data, status), t) := t.execute (wrapper.drop 15)
  let data := data.take length
  let csw := StatusWrapper.encode
    { tag := UInt32.ofNat (Bytes.word32 wrapper 4)
      residue := UInt32.ofNat (length - data.length)
      status }
  (if length = 0 then [csw] else [data, csw], t)

end Target

/-- A packet to come in. -/
inductive Incoming where
  | fails (e : IoError)
  | data (b : Bytes)
  /-- A status wrapper whose tag is so much ahead of the last command's. -/
  | status (ahead residue : UInt32) (status : UInt8)

/-- A pipe with its traffic laid down in advance, or with a target at its end. -/
structure Line where
  target : Option Target := none
  incoming : List Incoming := []
  /-- What becomes of the next outgoing packets: an error, or nothing. -/
  outgoing : List (Option IoError) := []
  releaseError : Option IoError := none
  /-- Tag of the last command that went through. -/
  lastTag : UInt32 := 0
  /-- Packets that wait to be received. -/
  queue : List Bytes := []
  /-- Packets sent, the latest first. -/
  sent : List Bytes := []
  releases : Nat := 0

namespace Line

/-- Nothing will come in any more. -/
def silent : IoError := ⟨.timedOut, "nothing queued"⟩

/-- A packet is noted, may be refused, and else reaches the target. -/
def bulkOut (b : Bytes) : IoOn Line Unit := do
  let l ← get
  set { l with sent := b :: l.sent, outgoing := l.outgoing.tail }
  match l.outgoing.headD none with
  | some e => throw e
  | none =>
      modify fun l => { l with lastTag := UInt32.ofNat (Bytes.word32 b 4) }
      match l.target with
      | none => pure ()
      | some t =>
          let (packets, t) := t.answer b
          modify fun l => { l with target := some t, queue := l.queue ++ packets }

/-- Queues the next packet to come in. -/
def fetch : IoOn Line Unit := do
  let l ← get
  match l.incoming with
  | [] => throw silent
  | next :: incoming =>
      set { l with incoming }
      match next with
      | .fails e => throw e
      | .data b => modify fun l => { l with queue := [b] }
      | .status ahead residue status =>
          modify fun l =>
            { l with queue := [StatusWrapper.encodeWith (l.lastTag + ahead) residue status] }

/-- Takes from the first packet in the queue and leaves what does not fit. -/
def bulkIn (n : Nat) : IoOn Line Bytes := do
  if (← get).queue.isEmpty then fetch
  let l ← get
  match l.queue with
  | [] => return []
  | packet :: queue =>
      let rest := packet.drop n
      set { l with queue := if rest.isEmpty then queue else rest :: queue }
      return packet.take n

/-- Every release counts, also one that fails. -/
def release : IoOn Line Unit := do
  modify fun l => { l with releases := l.releases + 1 }
  match (← get).releaseError with
  | some e => throw e
  | none => pure ()

instance : BulkPipe Line where
  bulkOut := bulkOut
  bulkIn := bulkIn
  release := release

end Line
end ThumbDrive

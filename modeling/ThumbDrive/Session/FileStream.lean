import ThumbDrive.Error
import ThumbDrive.Fat.File

/-! File contents in chunks.

A source of chunks hands out bytes until it hands out none. `FileStream` is such a source over a
file of a volume: it stops for good at the end of the file or at the first failure. Its chunks can
be had one by one, or read into the end of a buffer (`FileStream.appendChunk`). -/
namespace ThumbDrive

/-- A source of chunks. -/
class ChunkSource (σ : Type) where
  /-- The next chunk; an empty one means the end. -/
  readChunk : EStateM StorageError σ Bytes
  /-- No more than this many chunks are left that are not empty. -/
  chunksLeft : σ → Nat

namespace ChunkSource
variable {σ : Type} [ChunkSource σ]

/-- Chunks up to the first empty one, at most `rounds` of them, behind those in `got`, of which
the latest comes first. -/
def drain : (rounds : Nat) → (got : List Bytes) → EStateM StorageError σ Bytes
  | 0, got => pure got.reverse.flatten
  | rounds + 1, got => fun s =>
      match readChunk s with
      | .error e s => .error e s
      | .ok [] s => .ok got.reverse.flatten s
      | .ok chunk s => drain rounds (chunk :: got) s

/-- All that is left, or the first error. -/
def readToEnd : EStateM StorageError σ Bytes := fun s => drain (chunksLeft s + 1) [] s

end ChunkSource

/-- A source that hands out a fixed list of chunks and failures. -/
structure ChunkScript where
  items : List (Except StorageError Bytes)
  bytesRead : Nat := 0

namespace ChunkScript

/-- The next item, or the end if none is left. -/
def readChunk : EStateM StorageError ChunkScript Bytes := fun s =>
  match s.items with
  | [] => .ok [] s
  | .ok chunk :: items => .ok chunk { items, bytesRead := s.bytesRead + chunk.length }
  | .error e :: items => .error e { s with items }

instance : ChunkSource ChunkScript where
  readChunk := readChunk
  chunksLeft := fun s => s.items.length

end ChunkScript

/-- A file handed out in chunks. -/
structure FileStream where
  volume : Volume
  /-- The place in the file, until the stream has ended. -/
  cursor : Option FileCursor
  /-- Most bytes in a chunk. -/
  chunkSize : Nat
  /-- Length of the file by its directory entry. -/
  totalSize : Nat
  bytesRead : Nat := 0

namespace FileStream
variable {δ : Type} [BlockDevice δ]

/-- How many bytes the next chunk may have. A chunk size of zero counts as one. -/
def want (f : FileStream) : Nat := min (f.totalSize - f.bytesRead) (max f.chunkSize 1)

/-- The next chunk. After an empty chunk or a failure the stream has ended. -/
def readChunk : EStateM StorageError (FileStream × BlockStream δ) Bytes := fun (f, s) =>
  match f.cursor with
  | none => .ok [] (f, s)
  | some cursor =>
      match f.want with
      | 0 => .ok [] ({ f with cursor := none }, s)
      | want + 1 =>
          match FileCursor.read f.volume (want + 1) (cursor, s) with
          | .ok [] (_, s) => .ok [] ({ f with cursor := none }, s)
          | .ok got (cursor, s) =>
              .ok got ({ f with cursor := some cursor, bytesRead := f.bytesRead + got.length }, s)
          | .error e (_, s) =>
              .error (.during "Couldn't read the file" e) ({ f with cursor := none }, s)

instance : ChunkSource (FileStream × BlockStream δ) where
  readChunk := readChunk
  chunksLeft := fun (f, _) => f.totalSize - f.bytesRead

/-- A file on its way into a buffer. -/
structure Intake (δ : Type) where
  file : FileStream
  stream : BlockStream δ
  buffer : Bytes

/-- How much a buffer grows for the next chunk: by as much as the chunk may have, and not at all
once the stream has ended. -/
def room (f : FileStream) : Nat := if f.cursor.isSome then f.want else 0

/-- Appends the next chunk to the buffer and tells its length. The buffer grows before the read, the
read goes into the part that grew, and the buffer is cut to what was read. A failed read may leave
anything in that part, and all of it is cut off. -/
def appendChunk : EStateM StorageError (Intake δ) Nat := fun t =>
  let start := t.buffer.length
  let grown : Bytes := List.replicate t.file.room 0
  match readChunk (t.file, t.stream) with
  | .ok got (file, stream) =>
      let buffer := (t.buffer ++ Bytes.fill grown got).take (start + got.length)
      .ok got.length { file, stream, buffer }
  | .error e (file, stream) =>
      let left := BlockDevice.leftover stream.device grown
      let buffer := (t.buffer ++ Bytes.fill grown left).take start
      .error e { file, stream, buffer }

/-- All that is left of a file. -/
def contents (f : FileStream) : EStateM StorageError (BlockStream δ) Bytes := fun s =>
  match ChunkSource.readToEnd (f, s) with
  | .ok data (_, s) => .ok data s
  | .error e (_, s) => .error e s

end FileStream
end ThumbDrive

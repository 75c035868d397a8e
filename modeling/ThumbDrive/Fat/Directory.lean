import ThumbDrive.Fat.File
import ThumbDrive.Fat.Slot

/-! Directories of a mounted volume.

A directory is a fixed region or a chain of clusters, read slot by slot. Walking one goes only as
far as the entry wanted, so a failing device is noticed only by those who get to it. -/
namespace ThumbDrive

/-- An entry of a directory. -/
structure DirEntry where
  slot : ShortSlot
  /-- Units of the long name; empty if there is none. -/
  longUnits : List Nat

namespace DirEntry

/-- The name shown: the long name, or else the short name in the letters its flags ask for. -/
def name (e : DirEntry) : String :=
  if e.longUnits.isEmpty then
    e.slot.name.cased (e.slot.caseFlags / 8 % 2 == 1) (e.slot.caseFlags / 16 % 2 == 1)
  else String.ofList (Utf16.decode e.longUnits)

/-- The short name as recorded. -/
def shortName (e : DirEntry) : String := e.slot.name.plain

/-- Whether the entry is a directory. -/
def isDirectory (e : DirEntry) : Bool := e.slot.isDirectory

/-- Whether the entry stands for its own directory or the one above. -/
def isDot (e : DirEntry) : Bool := e.name == "." || e.name == ".."

end DirEntry

/-- Where the slots of a directory are. -/
inductive Directory where
  /-- The root directory of a volume whose table entries are not wide. -/
  | fixed (r : Region)
  /-- A chain of clusters. -/
  | chain (first : Nat)

/-- A place among the slots of a directory. -/
inductive DirCursor where
  | fixed (r : Region) (offset : Nat)
  | chain (f : FileCursor)

namespace Directory

/-- The place of the first slot. -/
def start : Directory → DirCursor
  | .fixed r => .fixed r 0
  | .chain first => .chain { first := some first, size := none }

end Directory

namespace Volume

/-- The root directory. -/
def root (v : Volume) : Directory :=
  match v.fatType with
  | .fat32 => .chain v.record.rootCluster
  | _ => .fixed v.rootRegion

/-- The directory of an entry. One without clusters is the root. -/
def directoryOf (v : Volume) (e : DirEntry) : Directory :=
  match e.slot.firstCluster? v.fatType with
  | some first => .chain first
  | none => v.root

/-- The start of the file of an entry. -/
def fileOf (v : Volume) (e : DirEntry) : FileCursor where
  first := e.slot.firstCluster? v.fatType
  size := some e.slot.size

end Volume

namespace DirCursor
variable {δ : Type} [BlockDevice δ] (v : Volume)

/-- At most `n` bytes from the cursor on. -/
def read (n : Nat) : IoOn (DirCursor × BlockStream δ) Bytes := fun (c, s) =>
  match c with
  | .fixed r offset =>
      match r.read n (offset, s) with
      | .ok got (offset, s) => .ok got (.fixed r offset, s)
      | .error e (offset, s) => .error e (.fixed r offset, s)
  | .chain f =>
      match FileCursor.read v n (f, s) with
      | .ok got (f, s) => .ok got (.chain f, s)
      | .error e (f, s) => .error e (.chain f, s)

/-- The next slot. There is none where the name of a slot ends early; that the end was reported
by the device makes no difference. -/
def slot? : IoOn (DirCursor × BlockStream δ) (Option Slot) := fun t =>
  match readExact (read v) 11 t with
  | .error e t => if e.kind = .unexpectedEof then .ok none t else .error e t
  | .ok name t => rest name t
where
  /-- The slot whose name has been read. -/
  rest (name : Bytes) : IoOn (DirCursor × BlockStream δ) (Option Slot) := do
    let attributes ← readExact (read v) 1
    let isLong := Slot.isLongMark (Bytes.byteAt attributes 0)
    let further ← readPieces (read v) (Slot.fields isLong)
    let slot := Slot.ofBytes (name ++ attributes ++ further)
    return if slot.mark = 0 then none else some slot

/-- The most slots a directory can have: offsets are numbers of 32 bits. A walk that comes to this
limit does not fail; it returns the entries it has seen. -/
def slotLimit : Nat := 134217728

/-- Takes in a slot: an entry if it completes one, and the long name collected behind it. -/
def absorb (pending : PendingName) : Slot → Option DirEntry × PendingName
  | .long s => if s.order = 0xE5 then (none, {}) else (none, pending.absorb s)
  | .short s =>
      if Bytes.byteAt s.name 0 = 0xE5 || s.isVolumeLabel then (none, {})
      else (some ⟨s, pending.finish s.name⟩, {})

/-- The entries from the cursor on, up to and including the first with which `stop` is content;
`seen` are those met before, the latest first. -/
def walk (stop : DirEntry → Bool) : (slots : Nat) → PendingName → (seen : List DirEntry) →
    IoOn (DirCursor × BlockStream δ) (List DirEntry)
  | 0, _, seen => pure seen.reverse
  | slots + 1, pending, seen => fun t =>
      match slot? v t with
      | .error e t => .error e t
      | .ok none t => .ok seen.reverse t
      | .ok (some slot) t =>
          match absorb pending slot with
          | (none, pending) => walk stop slots pending seen t
          | (some entry, pending) =>
              if stop entry then .ok (entry :: seen).reverse t
              else walk stop slots pending (entry :: seen) t

end DirCursor

namespace Directory
variable {δ : Type} [BlockDevice δ] (v : Volume)

/-- The entries of a directory, up to and including the first with which `stop` is content. -/
def entriesUntil (d : Directory) (stop : DirEntry → Bool) : IoOn (BlockStream δ) (List DirEntry) :=
  fun s =>
    match DirCursor.walk v stop DirCursor.slotLimit {} [] (d.start, s) with
    | .ok entries (_, s) => .ok entries s
    | .error e (_, s) => .error e s

/-- All entries of a directory, in the order of their slots. -/
def entries (d : Directory) : IoOn (BlockStream δ) (List DirEntry) :=
  d.entriesUntil v fun _ => false

/-- The first entry for which `p` holds. -/
def find? (d : Directory) (p : DirEntry → Bool) : IoOn (BlockStream δ) (Option DirEntry) := do
  return (← d.entriesUntil v p).find? p

end Directory
end ThumbDrive

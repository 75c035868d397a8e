import ThumbDrive.Fat.Volume

/-! Reading along a chain of clusters.

A `FileCursor` is a place in a file. One read stays inside one cluster; the allocation table is
consulted only when the next cluster is needed, and a read that fails or brings nothing leaves
the cursor where it was. -/
namespace ThumbDrive

/-- A place in a file or a directory. -/
structure FileCursor where
  /-- First cluster; an empty file has none. -/
  first : Option Nat
  /-- Recorded size; directories have none and end with their chain. -/
  size : Option Nat
  offset : Nat := 0
  /-- Cluster read from last. -/
  current : Option Nat := none

namespace FileCursor
variable {δ : Type} [BlockDevice δ] (v : Volume)

/-- The cluster that holds the byte at the cursor, if the chain gets that far. -/
def cluster? (f : FileCursor) : IoOn (BlockStream δ) (Option Nat) :=
  if f.offset % v.clusterSize = 0 then
    match f.current with
    | none => pure f.first
    | some cluster => v.nextCluster? cluster
  else pure f.current

/-- How many of `n` bytes one read takes: up to the end of the cluster and of the file. -/
def span (f : FileCursor) (n : Nat) : Nat :=
  let inCluster := min n (v.clusterSize - f.offset % v.clusterSize)
  match f.size with
  | some size => min inCluster (size - f.offset)
  | none => inCluster

/-- The cursor after `count` bytes of `cluster`. -/
def advance (f : FileCursor) (cluster count : Nat) : FileCursor :=
  { f with offset := f.offset + count, current := some cluster }

/-- At most `n` bytes from the cursor on, which moves past them. -/
def read (n : Nat) : IoOn (FileCursor × BlockStream δ) Bytes := fun (f, s) =>
  match f.cluster? v s with
  | .error e s => .error e (f, s)
  | .ok none s => .ok [] (f, s)
  | .ok (some cluster) s =>
      match f.span v n with
      | 0 => .ok [] (f, s)
      | count + 1 =>
          let start := v.record.clusterStart cluster + f.offset % v.clusterSize
          match BlockStream.readAt start (count + 1) s with
          | .error e s => .error e (f, s)
          | .ok [] s => .ok [] (f, s)
          | .ok got s => .ok got (f.advance cluster got.length, s)

end FileCursor
end ThumbDrive

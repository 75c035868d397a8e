import ThumbDrive.IoError
import ThumbDrive.Bytes

/-! Filling a buffer from an operation that may deliver less than it is asked for.

`readExact` repeats a read until the buffer is full. A read of nothing is an early end; a read
that was interrupted is tried again. Each round either brings a byte or is such a retry, so the
number of rounds is bounded by the bytes wanted and the retries granted. The retries stand for
interruptions without end: a reader that used them all up failed by an interruption, and not
because the data ended. -/
namespace ThumbDrive

/-- How many interrupted reads one `readExact` forgives. -/
def interruptLimit : Nat := 4294967296

variable {σ : Type}

/-- At most `rounds` rounds of reading what is missing of `n` bytes. -/
def readWithin (read : Nat → IoOn σ Bytes) : (rounds n : Nat) → IoOn σ Bytes
  | _, 0 => pure []
  | 0, _ + 1 => throw IoError.unending
  | rounds + 1, n + 1 => fun s =>
      match read (n + 1) s with
      | .ok [] s => .error IoError.shortRead s
      | .ok got s =>
          match readWithin read rounds (n + 1 - got.length) s with
          | .ok rest s => .ok (got ++ rest) s
          | .error e s => .error e s
      | .error e s =>
          if e.kind = .interrupted then readWithin read rounds (n + 1) s else .error e s

/-- Exactly `n` bytes, or an error; bytes taken before the error stay taken. -/
def readExact (read : Nat → IoOn σ Bytes) (n : Nat) : IoOn σ Bytes :=
  readWithin read (n + interruptLimit) n

/-- Pieces of the given lengths, each filled on its own, in one string. -/
def readPieces (read : Nat → IoOn σ Bytes) (lengths : List Nat) : IoOn σ Bytes :=
  lengths.foldlM (fun got n => do return got ++ (← readExact read n)) []

end ThumbDrive

import ThumbDrive.Bytes
import ThumbDrive.Text.Utf16

/-! Text from bytes that should be UTF-8.

Where the bytes stop being UTF-8, the longest start of a character seen so far becomes one
U+FFFD, and decoding goes on with the byte that did not fit. -/
namespace ThumbDrive.Utf8

/-- A character begun: its value so far, how many more bytes it needs, and the range the next of
them must lie in. -/
structure Begun where
  value : Nat
  left : Nat
  low : Nat := 0x80
  high : Nat := 0xBF

/-- The characters decoded so far, the latest first, and the one begun. -/
structure Decoder where
  chars : List Char := []
  begun : Option Begun := none

namespace Decoder

/-- A byte between characters. -/
def start (chars : List Char) (x : Nat) : Decoder :=
  if x < 0x80 then { chars := Char.ofNat x :: chars }
  else if 0xC2 ≤ x ∧ x ≤ 0xDF then { chars, begun := some { value := x % 32, left := 1 } }
  else if x = 0xE0 then { chars, begun := some { value := 0, left := 2, low := 0xA0 } }
  else if x = 0xED then { chars, begun := some { value := x % 16, left := 2, high := 0x9F } }
  else if 0xE1 ≤ x ∧ x ≤ 0xEF then { chars, begun := some { value := x % 16, left := 2 } }
  else if x = 0xF0 then { chars, begun := some { value := 0, left := 3, low := 0x90 } }
  else if 0xF1 ≤ x ∧ x ≤ 0xF3 then { chars, begun := some { value := x % 8, left := 3 } }
  else if x = 0xF4 then { chars, begun := some { value := 4, left := 3, high := 0x8F } }
  else { chars := Utf16.replacement :: chars }

/-- Takes in a byte. -/
def step (d : Decoder) (byte : UInt8) : Decoder :=
  let x := byte.toNat
  match d.begun with
  | none => start d.chars x
  | some b =>
      if b.low ≤ x ∧ x ≤ b.high then
        let value := b.value * 64 + x % 64
        if b.left = 1 then { chars := Char.ofNat value :: d.chars }
        else { chars := d.chars, begun := some { value, left := b.left - 1 } }
      else start (Utf16.replacement :: d.chars) x

/-- All characters, once the bytes have ended. -/
def finish (d : Decoder) : List Char :=
  match d.begun with
  | none => d.chars.reverse
  | some _ => (Utf16.replacement :: d.chars).reverse

end Decoder

/-- The text of a byte string. -/
def decode (b : Bytes) : String := String.ofList (b.foldl Decoder.step {}).finish

end ThumbDrive.Utf8

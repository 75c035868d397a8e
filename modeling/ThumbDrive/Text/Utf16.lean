/-! Text from UTF-16 units, with U+FFFD for every unit that is half of no pair. -/
namespace ThumbDrive.Utf16

/-- Upper halves of surrogate pairs. -/
def isHigh (u : Nat) : Bool := 0xD800 ≤ u && u < 0xDC00

/-- Lower halves of surrogate pairs. -/
def isLow (u : Nat) : Bool := 0xDC00 ≤ u && u < 0xE000

/-- The character that stands for what cannot be decoded. -/
def replacement : Char := '�'

/-- The characters of a sequence of units. -/
def decode : List Nat → List Char
  | [] => []
  | [u] => [if isHigh u || isLow u then replacement else Char.ofNat u]
  | u :: v :: us =>
      if isHigh u && isLow v then
        Char.ofNat (0x10000 + (u - 0xD800) * 0x400 + (v - 0xDC00)) :: decode us
      else (if isHigh u || isLow u then replacement else Char.ofNat u) :: decode (v :: us)

end ThumbDrive.Utf16

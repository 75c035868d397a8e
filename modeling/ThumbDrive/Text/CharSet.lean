/-! Sets of characters, given by ranges of code points. -/
namespace ThumbDrive.Text

/-- A set of characters. -/
structure CharSet where
  /-- The first and the last code point of every range, in ascending order. -/
  ranges : List (Nat × Nat)

/-- Whether a character is in the set. -/
def CharSet.contains (s : CharSet) (c : Char) : Bool :=
  s.ranges.any fun (first, last) => first ≤ c.toNat && c.toNat ≤ last

end ThumbDrive.Text

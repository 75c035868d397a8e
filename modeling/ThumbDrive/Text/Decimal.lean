/-! Decimal numerals of natural numbers. -/
namespace ThumbDrive.Decimal

/-- The character of a decimal digit. -/
def digit (n : Nat) : Char := Char.ofNat (48 + n % 10)

/-- The digits of `n`, highest first, without leading zeros. -/
def digits (n : Nat) : List Char :=
  if n < 10 then [digit n] else digits (n / 10) ++ [digit (n % 10)]

/-- The numeral of `n`. -/
def write (n : Nat) : String := String.ofList (digits n)

/-- The numeral of `n`, filled up with zeros to `width` digits. -/
def padded (width n : Nat) : String :=
  let ds := digits n
  String.ofList (List.replicate (width - ds.length) '0' ++ ds)

/-- The value of one ASCII digit. -/
def digitValue? (c : Char) : Option Nat :=
  if '0' ≤ c ∧ c ≤ '9' then some (c.toNat - 48) else none

/-- Continues a numeral worth `n` so far. -/
def readFrom (n : Nat) : List Char → Option Nat
  | [] => some n
  | c :: cs => do readFrom (10 * n + (← digitValue? c)) cs

/-- The number written by one or more ASCII digits; leading zeros are allowed. -/
def read? : List Char → Option Nat
  | [] => none
  | cs => readFrom 0 cs

/-- A number below `2 ^ 64`, with an optional plus sign and nothing else around it. -/
def readUInt64? (s : String) : Option UInt64 := do
  let n ← read? (match s.toList with | '+' :: cs => cs | cs => cs)
  if n < 18446744073709551616 then some (UInt64.ofNat n) else none

end ThumbDrive.Decimal

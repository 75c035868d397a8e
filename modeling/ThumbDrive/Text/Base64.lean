import ThumbDrive.Bytes

/-! Base64 with the standard alphabet and padding. -/
namespace ThumbDrive.Base64

/-- The character of a six-bit number. -/
def digit (n : Nat) : Char :=
  if n < 26 then Char.ofNat (65 + n)
  else if n < 52 then Char.ofNat (71 + n)
  else if n < 62 then Char.ofNat (n - 4)
  else if n = 62 then '+' else '/'

/-- The two characters of a last byte and the padding after them. -/
def oneByte (a : UInt8) : List Char :=
  [digit (a.toNat / 4), digit (a.toNat % 4 * 16), '=', '=']

/-- The three characters of two last bytes and the padding after them. -/
def twoBytes (a b : UInt8) : List Char :=
  [digit (a.toNat / 4), digit (a.toNat % 4 * 16 + b.toNat / 16), digit (b.toNat % 16 * 4), '=']

/-- The four characters of three bytes. -/
def threeBytes (a b c : UInt8) : List Char :=
  [digit (a.toNat / 4), digit (a.toNat % 4 * 16 + b.toNat / 16),
    digit (b.toNat % 16 * 4 + c.toNat / 64), digit (c.toNat % 64)]

/-- Writes three bytes at a time after `text`. -/
def encodeAfter (text : String) : Bytes → String
  | [] => text
  | [a] => text ++ String.ofList (oneByte a)
  | [a, b] => text ++ String.ofList (twoBytes a b)
  | a :: b :: c :: rest => encodeAfter (text ++ String.ofList (threeBytes a b c)) rest

/-- The text of a byte string. -/
def encode (b : Bytes) : String := encodeAfter "" b

end ThumbDrive.Base64

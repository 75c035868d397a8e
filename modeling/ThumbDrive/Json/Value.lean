import ThumbDrive.Text.Decimal
import ThumbDrive.Text.Hex

/-! JSON values and their compact text.

Objects keep their fields in the order they were given, so the text of a value is fixed by the
value. In a text only the quote, the backslash and the control characters below U+0020 are
escaped. -/
namespace ThumbDrive

/-- A JSON number: an integer, or anything written with a fraction, an exponent or as minus zero,
which is kept as it was written. -/
inductive Json.Number where
  | int (n : Int)
  | real (lexeme : String)
  deriving DecidableEq, Repr

/-- A JSON value. -/
inductive Json where
  | null
  | bool (b : Bool)
  | num (n : Json.Number)
  | str (s : String)
  | arr (items : List Json)
  | obj (fields : List (String × Json))
  deriving Repr

namespace Json

/-- A natural number as a JSON value. -/
def nat (n : Nat) : Json := .num (.int n)

/-- A value that may be absent. -/
def ofOption (f : α → Json) : Option α → Json
  | none => .null
  | some a => f a

/-- The value of a field; a later field of the same name wins. -/
def field? (key : String) : List (String × Json) → Option Json
  | [] => none
  | (k, v) :: fields => (field? key fields).or (if k = key then some v else none)

/-- An integer. -/
def int? : Json → Option Int
  | .num (.int n) => some n
  | _ => none

/-- An integer in `[0, bound)`. -/
def natBelow? (bound : Nat) : Json → Option Nat
  | .num (.int (.ofNat n)) => if n < bound then some n else none
  | _ => none

/-- A number of 16 bits. -/
def uint16? (j : Json) : Option UInt16 := (j.natBelow? 65536).map UInt16.ofNat

/-- A number of 64 bits. -/
def uint64? (j : Json) : Option UInt64 := (j.natBelow? 18446744073709551616).map UInt64.ofNat

/-- A string. -/
def str? : Json → Option String
  | .str s => some s
  | _ => none

/-- A field that may be null: `read` must succeed on anything else. -/
def optional? (read : Json → Option α) : Json → Option (Option α)
  | .null => some none
  | j => (read j).map some

/-- A record with the given field names, as the list of its field values, null for a missing one.
It is written as an object, where other fields do not matter, or as the array of all values. -/
def record? (names : List String) : Json → Option (List Json)
  | .obj fields => some (names.map fun name => (field? name fields).getD .null)
  | .arr items => if items.length = names.length then some items else none
  | _ => none

/-! ### Text -/

/-- How a character is written between quotes. -/
def escape (c : Char) : List Char :=
  if c = '"' then ['\\', '"']
  else if c = '\\' then ['\\', '\\']
  else if c = '\x08' then ['\\', 'b']
  else if c = '\x0c' then ['\\', 'f']
  else if c = '\n' then ['\\', 'n']
  else if c = '\r' then ['\\', 'r']
  else if c = '\t' then ['\\', 't']
  else if c.toNat < 32 then
    ['\\', 'u', '0', '0', Hex.digit (c.toNat / 16), Hex.digit (c.toNat % 16)]
  else [c]

/-- A string between quotes. -/
def quoted (s : String) : List Char := '"' :: (s.toList.flatMap escape ++ ['"'])

/-- The numeral of a number. -/
def Number.chars : Number → List Char
  | .int (.ofNat n) => Decimal.digits n
  | .int (.negSucc n) => '-' :: Decimal.digits (n + 1)
  | .real lexeme => lexeme.toList

mutual

/-- The characters of a value's compact text. -/
def chars : Json → List Char
  | .null => ['n', 'u', 'l', 'l']
  | .bool true => ['t', 'r', 'u', 'e']
  | .bool false => ['f', 'a', 'l', 's', 'e']
  | .num n => n.chars
  | .str s => quoted s
  | .arr items => '[' :: (itemChars items ++ [']'])
  | .obj fields => '\x7b' :: (fieldChars fields ++ ['\x7d'])

/-- Values with commas between them. -/
def itemChars : List Json → List Char
  | [] => []
  | [v] => chars v
  | v :: vs => chars v ++ ',' :: itemChars vs

/-- Fields with commas between them. -/
def fieldChars : List (String × Json) → List Char
  | [] => []
  | [(k, v)] => quoted k ++ ':' :: chars v
  | (k, v) :: fs => quoted k ++ ':' :: (chars v ++ ',' :: fieldChars fs)

end

/-- The compact text of a value. -/
def render (j : Json) : String := String.ofList j.chars

end Json
end ThumbDrive

import ThumbDrive.Text.Extending
import ThumbDrive.Text.Graphic
import ThumbDrive.Text.Hex
import ThumbDrive.Text.Ignorable

/-! Text between quotes, for messages about messages. -/
namespace ThumbDrive.Text

/-- Whether a character can be seen on its own. -/
def isVisible (c : Char) : Bool := isGraphic c && !isExtending c && !isIgnorable c

/-- How a character is shown: quotes and backslashes after a backslash, the common controls by a
letter, and by its number whatever cannot be seen on its own. -/
def shown (c : Char) : List Char :=
  if c = '"' then ['\\', '"']
  else if c = '\\' then ['\\', '\\']
  else if c = '\n' then ['\\', 'n']
  else if c = '\r' then ['\\', 'r']
  else if c = '\t' then ['\\', 't']
  else if c.toNat = 0 then ['\\', '0']
  else if isVisible c then [c]
  else ['\\', 'u', '\x7b'] ++ Hex.digits c.toNat ++ ['\x7d']

/-- The text between quotes. -/
def quote (s : String) : String := String.ofList ('"' :: (s.toList.flatMap shown ++ ['"']))

end ThumbDrive.Text

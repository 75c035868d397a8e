import ThumbDrive.Bytes
import ThumbDrive.Text.Utf16

/-! Short names: eight bytes of base and three of extension, padded with blanks. -/
namespace ThumbDrive

/-- The eleven bytes of a short name. -/
abbrev ShortName := Bytes

namespace ShortName

/-- The bytes without the blanks at their end. -/
def unpadded (b : Bytes) : Bytes := (b.reverse.dropWhile (· == 0x20)).reverse

/-- ASCII capitals as small letters. -/
def lowered (b : Bytes) : Bytes := b.map fun x => if 0x41 ≤ x ∧ x ≤ 0x5A then x + 32 else x

/-- The first byte `05` stands for `E5`, which would mark a deleted entry. -/
def unmasked : Bytes → Bytes
  | 0x05 :: b => 0xE5 :: b
  | b => b

/-- Characters beyond ASCII are not decoded. -/
def decoded (x : UInt8) : Char :=
  if x < 0x80 then Char.ofNat x.toNat else Utf16.replacement

/-- The text of a name from its base and extension. -/
def text (base ext : Bytes) : String :=
  let base := unpadded base
  let ext := unpadded ext
  String.ofList ((unmasked (if ext.isEmpty then base else base ++ 0x2E :: ext)).map decoded)

/-- The name as recorded. -/
def plain (n : ShortName) : String := text (n.take 8) (n.drop 8)

/-- The name with the parts in small letters that the entry's case flags ask for. -/
def cased (n : ShortName) (lowerBase lowerExt : Bool) : String :=
  text (if lowerBase then lowered (n.take 8) else n.take 8)
    (if lowerExt then lowered (n.drop 8) else n.drop 8)

/-- The checksum by which the parts of a long name refer to a short name. -/
def checksum (n : ShortName) : UInt8 :=
  n.foldl (fun c x => ((c >>> 1) ||| (c <<< 7)) + x) 0

end ShortName
end ThumbDrive

import ThumbDrive.Json.Token

/-! JSON texts.

A `Document` is a text taken apart: one value, in which strings may denote no text. The reader is
a stack of the brackets still open. `Document.value?` gives the value of a document all of whose
strings denote a text, and `Document.record?` reads a record straight from a text: there the
values of unknown fields are not looked at, and a known field may be given only once. -/
namespace ThumbDrive.Json

/-- A JSON text taken apart. -/
inductive Document where
  | null
  | bool (b : Bool)
  | num (n : Number)
  | text (s : Option String)
  | arr (items : List Document)
  | obj (fields : List (Option String × Document))

/-- An open bracket with what stands in it so far, the latest first. -/
inductive Frame where
  | arr (items : List Document)
  | obj (fields : List (Option String × Document)) (key : Option String)

/-- What a reader waits for, inside the brackets still open. -/
inductive Reader where
  /-- A value. -/
  | value (stack : List Frame)
  /-- A value or the end of an empty array. -/
  | item (stack : List Frame)
  /-- A key, or, where `mayEnd`, the end of an empty object. -/
  | key (fields : List (Option String × Document)) (mayEnd : Bool) (stack : List Frame)
  /-- The colon after a key. -/
  | colon (fields : List (Option String × Document)) (key : Option String) (stack : List Frame)
  /-- A comma or a closing bracket after a value, or the end of the text. -/
  | after (v : Document) (stack : List Frame)

namespace Reader

/-- A token where a value must start. -/
def startValue (stack : List Frame) : Token → Option Reader
  | .null => some (.after .null stack)
  | .bool b => some (.after (.bool b) stack)
  | .num n => some (.after (.num n) stack)
  | .text s => some (.after (.text s) stack)
  | .beginArray => some (.item stack)
  | .beginObject => some (.key [] true stack)
  | _ => none

/-- Reads one token. -/
def step : Reader → Token → Option Reader
  | .value stack, t => startValue stack t
  | .item stack, .endArray => some (.after (.arr []) stack)
  | .item stack, t => startValue (.arr [] :: stack) t
  | .key fields _ stack, .text k => some (.colon fields k stack)
  | .key _ true stack, .endObject => some (.after (.obj []) stack)
  | .colon fields k stack, .colon => some (.value (.obj fields k :: stack))
  | .after v (.arr items :: stack), .comma => some (.value (.arr (v :: items) :: stack))
  | .after v (.arr items :: stack), .endArray => some (.after (.arr (v :: items).reverse) stack)
  | .after v (.obj fields k :: stack), .comma => some (.key ((k, v) :: fields) false stack)
  | .after v (.obj fields k :: stack), .endObject =>
      some (.after (.obj ((k, v) :: fields).reverse) stack)
  | _, _ => none

/-- The value read, when nothing is left open. -/
def finish : Reader → Option Document
  | .after v [] => some v
  | _ => none

end Reader

namespace Document

/-- The document of a token sequence. -/
def ofTokens? (ts : List Token) : Option Document := do
  (← ts.foldlM Reader.step (.value [])).finish

/-- Takes a text apart. -/
def parse? (s : String) : Option Document := do ofTokens? (← tokens? s.toList)

mutual

/-- The value of a document, if all its strings denote a text. -/
def value? : Document → Option Json
  | .null => some .null
  | .bool b => some (.bool b)
  | .num n => some (.num n)
  | .text s => s.map .str
  | .arr items => (values? items).map .arr
  | .obj fields => (fieldValues? fields).map .obj

/-- The values of all items. -/
def values? : List Document → Option (List Json)
  | [] => some []
  | d :: ds => do return (← value? d) :: (← values? ds)

/-- The names and values of all fields. -/
def fieldValues? : List (Option String × Document) → Option (List (String × Json))
  | [] => some []
  | (k, d) :: fs => do return (← k, ← value? d) :: (← fieldValues? fs)

end

/-- A record with the given field names, as the list of its field values: all keys must denote a
text, a known one may stand only once, and values of unknown ones are not looked at. -/
def record? (names : List String) : Document → Option (List Json)
  | .obj fields => do
      let keyed ← fields.mapM fun (k, d) => k.map fun k => (k, d)
      let known := keyed.filter fun (k, _) => names.contains k
      if (known.map Prod.fst).Nodup then
        Json.record? names (.obj (← known.mapM fun (k, d) => d.value?.map fun v => (k, v)))
      else none
  | .arr items => do Json.record? names (.arr (← values? items))
  | _ => none

end Document

/-- The value of a text. -/
def parse? (s : String) : Option Json := do (← Document.parse? s).value?

end ThumbDrive.Json

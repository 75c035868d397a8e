import ThumbDrive.Json.Value

/-! The tokens of a JSON text.

The lexer reads one character at a time; its mode says what it is in the middle of. A string
literal may be well formed and still denote no text, namely when it escapes half of a surrogate
pair, so its token carries an optional text: such a literal may stand where nobody reads it. -/
namespace ThumbDrive.Json

/-- A token. -/
inductive Token where
  | beginObject
  | endObject
  | beginArray
  | endArray
  | colon
  | comma
  | null
  | bool (b : Bool)
  | num (n : Number)
  | text (s : Option String)
  deriving DecidableEq, Repr

/-- Splits digits off the front of a numeral. -/
def spanDigits (cs : List Char) : List Char × List Char :=
  cs.span fun c => '0' ≤ c && c ≤ '9'

namespace Number

/-- Whether this is nothing, or an exponent: `e` or `E`, an optional sign, digits. -/
def isExponent : List Char → Bool
  | [] => true
  | e :: cs =>
      (e == 'e' || e == 'E') &&
        (let ds := match cs with | '+' :: ds => ds | '-' :: ds => ds | ds => ds
         (Decimal.read? ds).isSome)

/-- Whether this is an optional fraction, then an optional exponent, and not nothing. -/
def isTail : List Char → Bool
  | [] => false
  | '.' :: cs =>
      let (ds, rest) := spanDigits cs
      !ds.isEmpty && isExponent rest
  | cs => isExponent cs

/-- An unsigned numeral: its integer, and what follows the integer part. A zero stands alone in
front of what follows. -/
def unsigned? (cs : List Char) : Option (Nat × List Char) :=
  match spanDigits cs with
  | ([], _) => none
  | ('0' :: _ :: _, _) => none
  | (ds, rest) => (Decimal.read? ds).map fun n => (n, rest)

/-- The number a numeral stands for. -/
def ofChars? (cs : List Char) : Option Number :=
  let real := Number.real (String.ofList cs)
  match cs with
  | '-' :: ds =>
      match unsigned? ds with
      | some (0, []) => some real
      | some (n, []) => some (.int (-n))
      | some (_, rest) => if isTail rest then some real else none
      | none => none
  | _ =>
      match unsigned? cs with
      | some (n, []) => some (.int n)
      | some (_, rest) => if isTail rest then some real else none
      | none => none

end Number

/-- A string literal read so far: its characters, the latest first, the upper half of a surrogate
pair still waiting for its lower half, and whether every half has found its partner. -/
structure Literal where
  chars : List Char := []
  high : Option Nat := none
  paired : Bool := true

namespace Literal

/-- A character that is no escaped surrogate. -/
def push (t : Literal) (c : Char) : Literal :=
  { chars := c :: t.chars, high := none, paired := t.paired && t.high.isNone }

/-- An escaped code unit. -/
def pushUnit (t : Literal) (u : Nat) : Literal :=
  if 0xD800 ≤ u ∧ u < 0xDC00 then { t with high := some u, paired := t.paired && t.high.isNone }
  else if 0xDC00 ≤ u ∧ u < 0xE000 then
    match t.high with
    | some h =>
        { chars := Char.ofNat (0x10000 + (h - 0xD800) * 0x400 + (u - 0xDC00)) :: t.chars,
          high := none, paired := t.paired }
    | none => { t with paired := false }
  else t.push (Char.ofNat u)

/-- The text the literal denotes. -/
def text? (t : Literal) : Option String :=
  if t.paired ∧ t.high = none then some (String.ofList t.chars.reverse) else none

end Literal

/-- What the lexer is in the middle of. -/
inductive Mode where
  /-- Between tokens. -/
  | gap
  /-- In a word or a numeral, the latest character first. -/
  | word (seen : List Char)
  /-- In a string. -/
  | text (t : Literal)
  /-- After a backslash. -/
  | escape (t : Literal)
  /-- In the digits of an escaped code unit, with `left + 1` digits to come. -/
  | unit (t : Literal) (left value : Nat)

/-- The token of a word or a numeral. -/
def wordToken? (seen : List Char) : Option Token :=
  match seen.reverse with
  | ['n', 'u', 'l', 'l'] => some .null
  | ['t', 'r', 'u', 'e'] => some (.bool true)
  | ['f', 'a', 'l', 's', 'e'] => some (.bool false)
  | cs => (Number.ofChars? cs).map .num

/-- The character a one-letter escape stands for. -/
def escaped? : Char → Option Char
  | '"' => some '"'
  | '\\' => some '\\'
  | '/' => some '/'
  | 'b' => some '\x08'
  | 'f' => some '\x0c'
  | 'n' => some '\n'
  | 'r' => some '\r'
  | 't' => some '\t'
  | _ => none

/-- The tokens read so far, the latest first, and what is being read. -/
structure Lexer where
  tokens : List Token := []
  mode : Mode := .gap

namespace Lexer

/-- Between tokens: a blank, a bracket or mark, or the first character of a longer token. -/
def stepGap (tokens : List Token) (c : Char) : Lexer :=
  match c with
  | ' ' | '\n' | '\r' | '\t' => { tokens }
  | '\x7b' => { tokens := .beginObject :: tokens }
  | '\x7d' => { tokens := .endObject :: tokens }
  | '[' => { tokens := .beginArray :: tokens }
  | ']' => { tokens := .endArray :: tokens }
  | ':' => { tokens := .colon :: tokens }
  | ',' => { tokens := .comma :: tokens }
  | '"' => { tokens, mode := .text {} }
  | c => { tokens, mode := .word [c] }

/-- The characters that end a word or a numeral. -/
def endsWord (c : Char) : Bool :=
  [' ', '\n', '\r', '\t', '\x7b', '\x7d', '[', ']', ':', ',', '"'].contains c

/-- Reads one character. -/
def step (l : Lexer) (c : Char) : Option Lexer :=
  match l.mode with
  | .gap => some (stepGap l.tokens c)
  | .word seen =>
      if endsWord c then (wordToken? seen).map fun t => stepGap (t :: l.tokens) c
      else some { l with mode := .word (c :: seen) }
  | .text t =>
      if c = '"' then some { tokens := .text t.text? :: l.tokens }
      else if c = '\\' then some { l with mode := .escape t }
      else if c.toNat < 32 then none
      else some { l with mode := .text (t.push c) }
  | .escape t =>
      if c = 'u' then some { l with mode := .unit t 3 0 }
      else (escaped? c).map fun c => { l with mode := .text (t.push c) }
  | .unit t left value =>
      (Hex.digitValue? c).map fun d =>
        match left with
        | 0 => { l with mode := .text (t.pushUnit (16 * value + d)) }
        | left + 1 => { l with mode := .unit t left (16 * value + d) }

/-- All tokens, once the text has ended. -/
def finish (l : Lexer) : Option (List Token) :=
  match l.mode with
  | .gap => some l.tokens.reverse
  | .word seen => (wordToken? seen).map fun t => (t :: l.tokens).reverse
  | _ => none

end Lexer

/-- The tokens of a text. -/
def tokens? (cs : List Char) : Option (List Token) := do (← cs.foldlM Lexer.step {}).finish

end ThumbDrive.Json

import TitleFormatting.Json.Value

/-!
The tokens of a JSON document. The scanner takes one character at a time; its
mode says what it is in the middle of.
-/

namespace TitleFormatting

inductive JsonToken where
  | openArray | closeArray | openObject | closeObject | comma | colon
  /-- A text: the name of a member or a value. -/
  | text (text : String)
  /-- A number or one of the words `null`, `true` and `false`. -/
  | scalar (value : JsonValue)
deriving BEq, Repr

namespace JsonToken

/-- What the scanner is in the middle of. All but the first keep the
characters they have read, the last one first. -/
inductive Mode where
  | between
  | word (letters : List Char)
  | numeral (characters : List Char)
  | text (read : List Char)
  /-- After a backslash in a text. -/
  | escape (read : List Char)
  /-- In the four hexadecimal digits of an escaped UTF-16 unit, after the high
  surrogate if there was one. -/
  | unit (read : List Char) (high : Option Nat) (value missing : Nat)
  /-- After an escaped high surrogate, where a backslash is due. -/
  | surrogate (read : List Char) (high : Nat)
  /-- After that backslash, where the letter `u` is due. -/
  | surrogateEscape (read : List Char) (high : Nat)
deriving DecidableEq, Repr

/-- The mode of the scanner and the tokens read so far, the last one first. -/
structure Reader where
  mode : Mode
  tokens : List JsonToken

/-- The blanks between tokens. -/
def isBlank (c : Char) : Bool := c == ' ' || c == '\t' || c == '\n' || c == '\r'

/-- The value that a word names. -/
def word? (letters : List Char) : Option JsonValue :=
  [("null", .null), ("true", .bool true), ("false", .bool false)].lookup
    (String.ofList letters)

/-- The tokens of a single character. -/
def punctuation : List (Char × JsonToken) := [
  ('[', openArray), (']', closeArray), ('\x7b', openObject), ('\x7d', closeObject),
  (',', comma), (':', colon)]

/-- The character that a backslash and this letter stand for. -/
def escapes : List (Char × Char) := [
  ('"', '"'), ('\\', '\\'), ('/', '/'), ('b', '\x08'), ('f', '\x0c'), ('n', '\n'),
  ('r', '\r'), ('t', '\t')]

def hexadecimalValue? (c : Char) : Option Nat :=
  if '0' ≤ c && c ≤ '9' then some (c.toNat - '0'.toNat)
  else if 'a' ≤ c && c ≤ 'f' then some (c.toNat - 'a'.toNat + 10)
  else if 'A' ≤ c && c ≤ 'F' then some (c.toNat - 'A'.toNat + 10)
  else none

def isHighSurrogate (value : Nat) : Bool := 0xD800 ≤ value && value < 0xDC00

def isLowSurrogate (value : Nat) : Bool := 0xDC00 ≤ value && value < 0xE000

/-- The mode after a complete UTF-16 unit. A surrogate needs its partner. -/
def afterUnit? (read : List Char) (high : Option Nat) (value : Nat) : Option Mode :=
  match high with
  | some high =>
    if isLowSurrogate value then
      let code := 0x10000 + (high - 0xD800) * 0x400 + (value - 0xDC00)
      some (.text (Char.ofNat code :: read))
    else none
  | none =>
    if isHighSurrogate value then some (.surrogate read value)
    else if isLowSurrogate value then none
    else some (.text (Char.ofNat value :: read))

namespace Reader

/-- The token that ends where the mode ends, if there has to be one. -/
def ended? (reader : Reader) : Option (List JsonToken) :=
  match reader.mode with
  | .between => some reader.tokens
  | .word letters => (word? letters.reverse).map fun value => .scalar value :: reader.tokens
  | .numeral characters =>
    (JsonNumber.ofText? characters.reverse).map fun number =>
      .scalar (.number number) :: reader.tokens
  | _ => none

/-- Take a character with which a token begins, or a blank. -/
def begin? (tokens : List JsonToken) (c : Char) : Option Reader :=
  if isBlank c then some ⟨.between, tokens⟩
  else if c = '"' then some ⟨.text [], tokens⟩
  else if c.isLower then some ⟨.word [c], tokens⟩
  else if c.isDigit || c = '-' then some ⟨.numeral [c], tokens⟩
  else (punctuation.lookup c).map fun token => ⟨.between, token :: tokens⟩

/-- The character can stand in a number. -/
def isNumeric (c : Char) : Bool :=
  c.isDigit || c == '-' || c == '+' || c == '.' || c == 'e' || c == 'E'

def step? (reader : Reader) (c : Char) : Option Reader :=
  match reader.mode with
  | .between => begin? reader.tokens c
  | .word letters =>
    if c.isLower then some { reader with mode := .word (c :: letters) }
    else reader.ended?.bind (begin? · c)
  | .numeral characters =>
    if isNumeric c then some { reader with mode := .numeral (c :: characters) }
    else reader.ended?.bind (begin? · c)
  | .text read =>
    if c = '"' then
      some ⟨.between, JsonToken.text (String.ofList read.reverse) :: reader.tokens⟩
    else if c = '\\' then some { reader with mode := .escape read }
    else if c < ' ' then none
    else some { reader with mode := .text (c :: read) }
  | .escape read =>
    if c = 'u' then some { reader with mode := .unit read none 0 4 }
    else (escapes.lookup c).map fun meant => { reader with mode := .text (meant :: read) }
  | .unit read high value missing => do
    let value := 16 * value + (← hexadecimalValue? c)
    let mode ←
      if missing = 1 then afterUnit? read high value
      else some (.unit read high value (missing - 1))
    return { reader with mode }
  | .surrogate read high =>
    if c = '\\' then some { reader with mode := .surrogateEscape read high } else none
  | .surrogateEscape read high =>
    if c = 'u' then some { reader with mode := .unit read (some high) 0 4 } else none

end Reader

/-- The tokens of a document, if it consists of tokens and blanks. -/
def scan? (source : List Char) : Option (List JsonToken) := do
  let reader ← source.foldlM Reader.step? ⟨.between, []⟩
  let tokens ← reader.ended?
  return tokens.reverse

end JsonToken

end TitleFormatting

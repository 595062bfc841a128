import TitleFormatting.Fault

/-!
Texts measured, searched and cut in UTF-8 bytes. An offset counts the bytes
before a place in a text; a text can be cut only where one character ends and
the next begins.
-/

namespace TitleFormatting.Text

/-- The text cut behind its first `bytes` bytes, if that is a boundary between
two characters. -/
def splitAtBytes (bytes : Nat) : List Char → Option (List Char × List Char)
  | [] => if bytes = 0 then some ([], []) else none
  | c :: rest =>
    if bytes = 0 then some ([], c :: rest)
    else if c.utf8Size ≤ bytes then
      (splitAtBytes (bytes - c.utf8Size) rest).map fun parts =>
        (c :: parts.1, parts.2)
    else none

def utf8Length (text : List Char) : Nat :=
  text.foldr (fun c bytes => c.utf8Size + bytes) 0

/-- What stands before the offset. -/
def textBefore (offset : Nat) (text : List Char) : Except Fault (List Char) :=
  match splitAtBytes offset text with
  | some (before, _) => .ok before
  | none => .error (.noBoundary offset)

/-- What stands from the offset on. -/
def textFrom (offset : Nat) (text : List Char) : Except Fault (List Char) :=
  match splitAtBytes offset text with
  | some (_, rest) => .ok rest
  | none => .error (.noBoundary offset)

/-- The offset of the character with this index. -/
def offsetOfIndex? : Nat → List Char → Option Nat
  | _, [] => none
  | 0, _ :: _ => some 0
  | index + 1, c :: rest => (offsetOfIndex? index rest).map (· + c.utf8Size)

/-- The offset of the first character of a kind. -/
def firstOffset? (p : Char → Bool) : List Char → Option Nat
  | [] => none
  | c :: rest =>
    if p c then some 0 else (firstOffset? p rest).map (· + c.utf8Size)

/-- The offset of the last character of a kind. -/
def lastOffset? (p : Char → Bool) : List Char → Option Nat
  | [] => none
  | c :: rest =>
    match lastOffset? p rest with
    | some offset => some (offset + c.utf8Size)
    | none => if p c then some 0 else none

/-- The offset of the first occurrence of the sought text. -/
def offsetOf? (sought : List Char) : List Char → Option Nat
  | [] => if sought.isEmpty then some 0 else none
  | c :: rest =>
    if sought.isPrefixOf (c :: rest) then some 0
    else (offsetOf? sought rest).map (· + c.utf8Size)

end TitleFormatting.Text

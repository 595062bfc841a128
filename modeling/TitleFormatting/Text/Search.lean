import TitleFormatting.Text.Utf8

/-!
Searching and replacing within texts. Indices count characters from zero.
-/

namespace TitleFormatting.Text

/-- Where the first occurrence of the sought text starts: the characters before
its offset are counted. -/
def indexOf? (sought text : List Char) : Except Fault (Option Nat) :=
  match offsetOf? sought text with
  | some offset => do
    let before ← textBefore offset text
    return some before.length
  | none => .ok none

/-- Where the first occurrence of a character is. -/
def indexOfChar? (sought : Char) (text : List Char) : Option Nat :=
  text.findIdx? (· == sought)

/-- Where the last occurrence of a character is. -/
def lastIndexOfChar? (sought : Char) (text : List Char) : Option Nat :=
  (indexOfChar? sought text.reverse).map (text.length - 1 - ·)

/-- The rest of a text with each occurrence of `sought` replaced, from left to
right; `skip` characters belong to an occurrence that has been replaced. -/
def replaceFrom (sought replacement : List Char) : Nat → List Char → List Char
  | _, [] => []
  | skip + 1, _ :: rest => replaceFrom sought replacement skip rest
  | 0, c :: rest =>
    if sought.isPrefixOf (c :: rest) then
      replacement ++ replaceFrom sought replacement (sought.length - 1) rest
    else c :: replaceFrom sought replacement 0 rest

/-- The text with each occurrence of `sought` replaced. Empty text occurs
nowhere. -/
def replaceAll (sought replacement text : List Char) : List Char :=
  if sought.isEmpty then text else replaceFrom sought replacement 0 text

/-- The replacements carried out one after the other. -/
def replacePairs (pairs : List (List Char × List Char)) (text : List Char) : List Char :=
  pairs.foldl (fun text pair => replaceAll pair.1 pair.2 text) text

/-- Characters that end a line. -/
def isLineBreak (c : Char) : Bool := c == '\r' || c == '\n'

/-- The text up to its first line break and the mark, if it has one. -/
def firstLine (mark text : List Char) : Except Fault (List Char) :=
  match firstOffset? isLineBreak text with
  | some offset => do
    let line ← textBefore offset text
    return line ++ mark
  | none => .ok text

/-- Letters of the Latin alphabet moved by half its length; their codes have
eight bits. -/
def rotateLetter (c : Char) : Except Fault Char :=
  if ('a' ≤ c && c ≤ 'm') || ('A' ≤ c && c ≤ 'M') then do
    let code ← unsigned 8 (c.toNat + 13)
    return Char.ofNat code
  else if ('n' ≤ c && c ≤ 'z') || ('N' ≤ c && c ≤ 'Z') then do
    let code ← unsigned 8 (c.toNat - 13)
    return Char.ofNat code
  else .ok c

end TitleFormatting.Text

import TitleFormatting.Text.Ranges
import TitleFormatting.Text.Casing.Table
import TitleFormatting.Text.Casing.Context

/-!
Full case conversion of texts. Characters may expand (`ß` becomes `SS`), and
the lower case of `Σ` depends on whether it ends a word.
-/

namespace TitleFormatting.Text

namespace Casing

/-- The run maps the code point. -/
def Run.covers (run : Run) (code : Nat) : Bool :=
  run.first ≤ code && code ≤ run.last && (code - run.first) % run.step == 0

/-- The image of one code point: several characters when it expands, one when
a run covers it, and otherwise the character itself. -/
def image (runs : List Run) (expansions : List (Nat × List Nat)) (c : Char) :
    List Char :=
  match expansions.lookup c.toNat with
  | some codes => codes.map Char.ofNat
  | none =>
    match runs.find? (·.covers c.toNat) with
    | some run => [Char.ofNat (c.toNat + run.shift).toNat]
    | none => [c]

def upperChar (c : Char) : List Char :=
  if c.toNat < 128 then [c.toUpper] else image upperRuns upperExpansions c

/-- Lower case of one character out of context. -/
def lowerChar (c : Char) : List Char :=
  if c.toNat < 128 then [c.toLower] else image lowerRuns lowerExpansions c

def isCased (c : Char) : Bool := inRanges casedRanges c

def isCaseIgnorable (c : Char) : Bool := inRanges caseIgnorableRanges c

/-- The first character that is not ignorable has case. -/
def meetsCased (text : List Char) : Bool :=
  ((text.dropWhile isCaseIgnorable).head?).any isCased

/-- Lower case of the rest of a text; `before` holds the characters already
passed, the nearest first. A `Σ` after a cased character and not before one
ends its word. -/
def lowerAfter (before : List Char) : List Char → List Char
  | [] => []
  | c :: rest =>
    let lowered :=
      if c = 'Σ' then
        if meetsCased before && !meetsCased rest then ['ς'] else ['σ']
      else lowerChar c
    lowered ++ lowerAfter (c :: before) rest

end Casing

def upper (text : List Char) : List Char := text.flatMap Casing.upperChar

def lower (text : List Char) : List Char := Casing.lowerAfter [] text

def upperString (text : String) : String := String.ofList (upper text.toList)

def lowerString (text : String) : String := String.ofList (lower text.toList)

end TitleFormatting.Text

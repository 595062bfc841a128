import TitleFormatting.Functions.Argument
import TitleFormatting.Number.Numeral
import TitleFormatting.Text.Casing
import TitleFormatting.Text.Search
import TitleFormatting.Text.Width
import TitleFormatting.Text.Words

/-!
Text functions. Lengths and positions count characters. A function on an
absent text yields nothing, so that a block around it vanishes as it would
around the text itself.
-/

namespace TitleFormatting.Functions

open Text

/-- A natural number as text. -/
def numeral (n : Nat) : List Char := Number.decimal n

/-- The atom of the first argument with its text changed. -/
def onText (f : List Char → List Char) (arguments : List Argument) :
    Except Fault Atom := do
  let text ← operand arguments 0
  return text.atom.deriveText f

/-- The same where the change may come to a halt. -/
def onTextChecked (f : List Char → Except Fault (List Char))
    (arguments : List Argument) : Except Fault Atom := do
  let text ← operand arguments 0
  text.atom.deriveChecked f

/-- `$abbr(x)` and `$abbr(x,len)`: the initials; with a length, only of a text
that is longer. -/
def abbr (arguments : List Argument) : Atom :=
  match arguments with
  | [] => .absent
  | [text, limit] =>
    if text.length ≤ limit.count then text.atom else text.atom.deriveText initials
  | text :: _ => text.atom.deriveText initials

/-- `$left(a,len)` and `$cut(a,len)`: the first characters. -/
def left (arguments : List Argument) : Except Fault Atom := do
  let text ← operand arguments 0
  let length ← operand arguments 1
  return text.atom.deriveText (·.take length.count)

/-- `$right(a,len)`: the last characters. -/
def right (arguments : List Argument) : Except Fault Atom := do
  let text ← operand arguments 0
  let length ← operand arguments 1
  return text.atom.deriveText fun t => t.drop (t.length - length.count)

/-- `$insert(a,b,n)`: `b` behind the first `n` characters of `a`. -/
def insertAt (arguments : List Argument) : Except Fault Atom := do
  let text ← operand arguments 0
  let insertion ← operand arguments 1
  let index ← operand arguments 2
  text.atom.deriveChecked fun t => do
    let offset := (offsetOfIndex? index.count t).getD (utf8Length t)
    let before ← textBefore offset t
    let rest ← textFrom offset t
    return before ++ insertion.characters ++ rest

/-- `$substr(s,m,n)`: the characters from `m` to `n`, counted from one. -/
def substr (arguments : List Argument) : Except Fault Atom := do
  let text ← operand arguments 0
  let first ← operand arguments 1
  let last ← operand arguments 2
  let start ← signed 64 (max first.number.toInt 1 - 1)
  return text.atom.deriveText fun t =>
    (t.drop start.toNat).take (last.count - start.toNat)

/-- `$len(a)`: the number of characters. -/
def len (arguments : List Argument) : Except Fault Atom :=
  onText (fun t => numeral t.length) arguments

/-- `$len2(a)`: the display width. -/
def len2 (arguments : List Argument) : Except Fault Atom :=
  onText (fun t => numeral (width t)) arguments

/-- `$longer(a,b)`: `a` has more characters than `b`. -/
def longer (arguments : List Argument) : Except Fault Atom := do
  let first ← operand arguments 0
  let second ← operand arguments 1
  return .boolean (second.length < first.length)

/-- The first of the arguments than which no other is better. -/
def bestByLength (better : Nat → Nat → Bool) (arguments : List Argument) : Atom :=
  match arguments with
  | [] => .absent
  | first :: rest =>
    (rest.foldl (fun best next => if better next.length best.length then next else best)
      first).atom

/-- `$longest(a,...)`. -/
def longest (arguments : List Argument) : Atom :=
  bestByLength (fun next best => best < next) arguments

/-- `$shortest(a,...)`. -/
def shortest (arguments : List Argument) : Atom :=
  bestByLength (fun next best => next < best) arguments

/-- The text and the fill character of a padding call, and the width asked
for. -/
def padding (arguments : List Argument) : Except Fault (Argument × Nat × Char) := do
  let text ← operand arguments 0
  let length ← operand arguments 1
  let fill := (arguments[2]?.bind fun argument => argument.characters.head?).getD ' '
  return (text, widthOf length, fill)

/-- The text with fill characters behind it up to the width. -/
def fillBehind (length : Nat) (fill : Char) (text : List Char) : List Char :=
  text ++ List.replicate (length - text.length) fill

/-- The text with fill characters before it up to the width. -/
def fillBefore (length : Nat) (fill : Char) (text : List Char) : List Char :=
  List.replicate (length - text.length) fill ++ text

/-- `$pad(x,len)` and `$pad(x,len,char)`. -/
def pad (arguments : List Argument) : Except Fault Atom := do
  let (text, length, fill) ← padding arguments
  return text.atom.deriveText (fillBehind length fill)

/-- `$pad_right(x,len)` and `$pad_right(x,len,char)`. -/
def padRight (arguments : List Argument) : Except Fault Atom := do
  let (text, length, fill) ← padding arguments
  return text.atom.deriveText (fillBefore length fill)

/-- `$padcut(x,len)`: padded behind or cut to the width. -/
def padCut (arguments : List Argument) : Except Fault Atom := do
  let (text, length, fill) ← padding arguments
  return text.atom.deriveText fun t => (fillBehind length fill t).take length

/-- `$padcut_right(x,len)`: padded before or cut to the width. -/
def padCutRight (arguments : List Argument) : Except Fault Atom := do
  let (text, length, fill) ← padding arguments
  return text.atom.deriveText fun t => (fillBefore length fill t).take length

/-- `$repeat(a,n)`. -/
def repeatText (arguments : List Argument) : Except Fault Atom := do
  let text ← operand arguments 0
  let times ← operand arguments 1
  return text.atom.deriveText fun t => (List.replicate (widthOf times) t).flatten

/-- The arguments two by two; one that is left over does not count. -/
def pairs : List Argument → List (List Char × List Char)
  | sought :: replacement :: rest =>
    (sought.characters, replacement.characters) :: pairs rest
  | _ => []

/-- `$replace(a,b1,c1,b2,c2,...)`: each `b` replaced by its `c`, pair by
pair. -/
def replace (arguments : List Argument) : Except Fault Atom :=
  onTextChecked (fun t => do
    let given ← operandsFrom arguments 1
    return replacePairs (pairs given) t) arguments

/-- `$num(n,len)`: the number padded with zeros. -/
def num (arguments : List Argument) : Except Fault Atom := do
  let number ← operand arguments 0
  let length ← operand arguments 1
  if Number.widestNumeral < widthOf length then throw .widthOutOfRange
  else return .found (String.ofList
    (Number.zeroPadded (widthOf length) (Number.decimal number.number.toInt)))

/-- `$roman(n)`: nothing for a number that has no Roman numeral. -/
def roman (arguments : List Argument) : Except Fault Atom := do
  let number ← operand arguments 0
  match ← Number.roman? number.number.toInt with
  | some numeral => return .found (String.ofList numeral)
  | none => return .absent

/-- A position counted from one, or a zero that is not true. -/
def positionAtom : Option Nat → Atom
  | some index => .found (String.ofList (numeral (index + 1)))
  | none => .literal "0"

/-- `$strchr(s,c)`: the first place of `c` in `s`. -/
def strchr (arguments : List Argument) : Except Fault Atom := do
  let text ← operand arguments 0
  let sought ← operand arguments 1
  return positionAtom
    (sought.characters.head?.bind fun c => indexOfChar? c text.characters)

/-- `$strrchr(s,c)`: the last place of `c` in `s`. -/
def strrchr (arguments : List Argument) : Except Fault Atom := do
  let text ← operand arguments 0
  let sought ← operand arguments 1
  return positionAtom
    (sought.characters.head?.bind fun c => lastIndexOfChar? c text.characters)

/-- `$strstr(s1,s2)`: the first place of `s2` in `s1`; empty text has none. -/
def strstr (arguments : List Argument) : Except Fault Atom := do
  let text ← operand arguments 0
  let sought ← operand arguments 1
  if sought.characters.isEmpty then return positionAtom none
  else
    let index ← indexOf? sought.characters text.characters
    return positionAtom index

/-- `$strcmp(a,b)`: the texts are equal. -/
def strcmp (arguments : List Argument) : Except Fault Atom := do
  let first ← operand arguments 0
  let second ← operand arguments 1
  return .boolean (first.text == second.text)

/-- `$stricmp(a,b)`: the texts are equal in lower case. -/
def stricmp (arguments : List Argument) : Except Fault Atom := do
  let first ← operand arguments 0
  let second ← operand arguments 1
  return .boolean (lower first.characters == lower second.characters)

/-- The articles that are given, or the default ones. -/
def articles (given : List Argument) : List (List Char) :=
  if given.isEmpty then defaultArticles else given.map Argument.characters

/-- `$stripprefix(x,...)`: the text without a leading article. -/
def stripArticle (arguments : List Argument) : Except Fault Atom := do
  let given ← operandsFrom arguments 1
  onTextChecked (Text.stripArticle (articles given)) arguments

/-- `$swapprefix(x,...)`: the text with a leading article at its end. -/
def swapArticle (arguments : List Argument) : Except Fault Atom := do
  let given ← operandsFrom arguments 1
  onTextChecked (Text.swapArticle (articles given)) arguments

/-- `$fix_eol(x)` and `$fix_eol(x,mark)`: the first line of the text, and the
mark if there are more. -/
def fixEol (arguments : List Argument) : Except Fault Atom :=
  let mark := (arguments[1]?.map Argument.characters).getD " (...)".toList
  onTextChecked (firstLine mark) arguments

/-- `$tab()` and `$tab(n)`. -/
def tab (arguments : List Argument) : Atom :=
  let times := (arguments.head?.map widthOf).getD 1
  .literal (String.ofList (List.replicate times '\t'))

/-- `$char(n)`: the character with this code point, if there is one. -/
def codePoint (arguments : List Argument) : Except Fault Atom := do
  let number ← operand arguments 0
  let code := number.number.toInt
  if 0 ≤ code && code.toNat.isValidChar then
    return .literal (Char.ofNat code.toNat).toString
  else return .absent

end TitleFormatting.Functions

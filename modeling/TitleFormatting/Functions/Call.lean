import TitleFormatting.Functions.Arithmetic
import TitleFormatting.Functions.Catalog
import TitleFormatting.Functions.Control
import TitleFormatting.Functions.Logic
import TitleFormatting.Functions.Progress
import TitleFormatting.Functions.Text
import TitleFormatting.Text.Checksum
import TitleFormatting.Text.Path
import TitleFormatting.Text.Repertoire

/-!
Carrying out function calls.
-/

namespace TitleFormatting

namespace Functions

/-- `$directory(path)` and `$directory(path,n)`: the name of the directory `n`
levels above the file, one by default. -/
def directory (arguments : List Argument) : Except Fault Atom :=
  let levels := (arguments[1]?.map Argument.count).getD 1
  onTextChecked (Text.Path.directory levels) arguments

/-- `$crc32(x)`: the checksum of the text in UTF-8. -/
def crc32 (arguments : List Argument) : Except Fault Atom :=
  onTextChecked (fun t => do
    let checksum ← Text.Checksum.crc32 (String.ofList t).toUTF8.toList
    return numeral checksum.toNat) arguments

/-- `$hex(n)` and `$hex(n,len)`: the number modulo 2 ^ 32 in hexadecimal,
padded with zeros. -/
def hex (arguments : List Argument) : Except Fault Atom := do
  let number ← operand arguments 0
  let length := (arguments[1]?.map widthOf).getD 0
  if Number.widestNumeral < length then throw .widthOutOfRange
  else return .found (String.ofList
    (Number.zeroPadded length (Number.hexadecimal number.wrapped.toNat)))

/-- The reply of a function whose value comes from all of its arguments. -/
def computed (atom : Atom) : Except Fault Reply := .ok (.value atom .all)

/-- The same for a function that may come to a halt. -/
def reading (atom : Except Fault Atom) : Except Fault Reply :=
  atom.map (Reply.value · .all)

/-- Carry out a function. A control function says which argument it picks; the
value of every other function is computed from all of them. -/
def run (draw : UInt32) (builtin : Builtin) (arguments : List Argument) :
    Except Fault Reply :=
  match builtin with
  | .ifThen => .ok (choose arguments (ifThen arguments))
  | .if2 => .ok (choose arguments (if2 arguments))
  | .if3 => .ok (picked arguments (if3 arguments))
  | .ifEqual => .ok (choose arguments (ifEqual arguments))
  | .ifGreater => .ok (choose arguments (ifGreater arguments))
  | .ifLonger => .ok (choose arguments (ifLonger arguments))
  | .select => .ok (picked arguments (select arguments))
  | .add => computed (add arguments)
  | .sub => computed (sub arguments)
  | .mul => computed (mul arguments)
  | .div => computed (div arguments)
  | .mod => computed (mod arguments)
  | .muldiv => reading (muldiv arguments)
  | .min => computed (minimum arguments)
  | .max => computed (maximum arguments)
  | .greater => computed (greater arguments)
  | .rand => computed (rand draw)
  | .and => computed (allTrue arguments)
  | .or => computed (anyTrue arguments)
  | .not => computed (negation arguments)
  | .xor => computed (oddTrue arguments)
  | .abbr => computed (abbr arguments)
  | .caps => reading (onText Text.titleCase arguments)
  | .caps2 => reading (onText Text.capitalizeInitials arguments)
  | .cut => reading (left arguments)
  | .left => reading (left arguments)
  | .right => reading (right arguments)
  | .insert => reading (insertAt arguments)
  | .len => reading (len arguments)
  | .len2 => reading (len2 arguments)
  | .longer => reading (longer arguments)
  | .longest => computed (longest arguments)
  | .shortest => computed (shortest arguments)
  | .lower => reading (onText Text.lower arguments)
  | .upper => reading (onText Text.upper arguments)
  | .num => reading (num arguments)
  | .pad => reading (pad arguments)
  | .padRight => reading (padRight arguments)
  | .padCut => reading (padCut arguments)
  | .padCutRight => reading (padCutRight arguments)
  | .repeatText => reading (repeatText arguments)
  | .replace => reading (replace arguments)
  | .roman => reading (roman arguments)
  | .rot13 => reading (onTextChecked (·.mapM Text.rotateLetter) arguments)
  | .strchr => reading (strchr arguments)
  | .strrchr => reading (strrchr arguments)
  | .strstr => reading (strstr arguments)
  | .strcmp => reading (strcmp arguments)
  | .stricmp => reading (stricmp arguments)
  | .substr => reading (substr arguments)
  | .stripArticle => reading (stripArticle arguments)
  | .swapArticle => reading (swapArticle arguments)
  | .trim => reading (onText Text.trim arguments)
  | .fixEol => reading (fixEol arguments)
  | .crlf => computed (.literal "\r\n")
  | .tab => computed (tab arguments)
  | .codePoint => reading (codePoint arguments)
  | .directory => reading (directory arguments)
  | .directoryPath => reading (onTextChecked Text.Path.parent arguments)
  | .filename => reading (onTextChecked Text.Path.stem arguments)
  | .ext => reading (onTextChecked Text.Path.extension arguments)
  | .ansi => reading (onText Text.Repertoire.toWindows arguments)
  | .ascii => reading (onText Text.Repertoire.toAscii arguments)
  | .crc32 => reading (crc32 arguments)
  | .hex => reading (hex arguments)
  | .progress => computed (progress arguments)
  | .progress2 => reading (progress2 arguments)

end Functions

/-- Call a function by its name. A name that no function with this number of
arguments has comes back as a marker. -/
def invoke (draw : UInt32) (name : String) (arguments : List Argument) :
    Except Fault Reply :=
  match Catalog.find? name arguments.length with
  | some entry => Functions.run draw entry.builtin arguments
  | none => .ok (.marker (.unknownFunction name arguments.length))

end TitleFormatting

import TitleFormatting.Text.Utf8

/-!
Paths and their parts. Slash, backslash and bar all separate components, and a
dot at the start of a file name does not begin an extension.
-/

namespace TitleFormatting.Text.Path

def isSeparator (c : Char) : Bool := c == '/' || c == '\\' || c == '|'

/-- The components of a path; there is one more than there are separators. -/
def components : List Char → List (List Char)
  | [] => [[]]
  | c :: rest =>
    if isSeparator c then [] :: components rest
    else
      match components rest with
      | first :: others => (c :: first) :: others
      | [] => [[c]]

/-- What follows the last separator. -/
def fileName (path : List Char) : List Char :=
  (path.reverse.takeWhile (!isSeparator ·)).reverse

/-- What precedes the last separator; nothing when there is none. -/
def parent (path : List Char) : Except Fault (List Char) :=
  match lastOffset? isSeparator path with
  | some offset => textBefore offset path
  | none => .ok []

/-- The offset of the dot before the extension of a file name: of its last dot,
unless the name begins with that. -/
def extensionDot? (name : List Char) : Option Nat :=
  (lastOffset? (· == '.') name).filter (0 < ·)

/-- The file name without its extension. -/
def stem (path : List Char) : Except Fault (List Char) :=
  let name := fileName path
  match extensionDot? name with
  | some dot => textBefore dot name
  | none => .ok name

/-- The extension of the file name without its dot. -/
def extension (path : List Char) : Except Fault (List Char) :=
  let name := fileName path
  match extensionDot? name with
  | some dot => textFrom (dot + 1) name
  | none => .ok []

/-- The name of the directory that many levels above the file. -/
def directory (levels : Nat) (path : List Char) : Except Fault (List Char) := do
  let parts := components path
  let above ← difference parts.length 1
  if levels = 0 || above < levels then return []
  else elementAt parts (above - levels)

end TitleFormatting.Text.Path

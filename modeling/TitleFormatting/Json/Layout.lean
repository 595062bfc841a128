import TitleFormatting.Json.Value

/-!
Writing JSON documents, one item or member per line and indented by two spaces
per level.
-/

namespace TitleFormatting

namespace JsonValue

/-- Characters with an escape of one letter. -/
def shortEscapes : List (Char × Char) := [
  ('"', '"'), ('\\', '\\'), ('\x08', 'b'), ('\x0c', 'f'), ('\n', 'n'), ('\r', 'r'),
  ('\t', 't')]

/-- A character as it is written between quotes. Control characters are
escaped, all others but quotes and backslashes stand for themselves. -/
def escaped (c : Char) : List Char :=
  match shortEscapes.lookup c with
  | some letter => ['\\', letter]
  | none =>
    if c < ' ' then
      '\\' :: 'u' :: '0' :: '0' :: (Nat.toDigits 16 (0x100 + c.toNat)).drop 1
    else [c]

def quoted (text : String) : String :=
  String.ofList ('"' :: (text.toList.flatMap escaped ++ ['"']))

/-- The start of a line at a level. -/
def margin (level : Nat) : String := String.ofList (List.replicate (2 * level) ' ')

/-- Lines between brackets; none give a pair of brackets. -/
def bracketed (level : Nat) (opening closing : String) (lines : List String) : String :=
  if lines.isEmpty then opening ++ closing
  else
    opening ++ "\n" ++ ",\n".intercalate (lines.map (margin (level + 1) ++ ·)) ++ "\n" ++
      margin level ++ closing

mutual

/-- A value, its first line without a margin. -/
def layout (level : Nat) : JsonValue → String
  | .null => "null"
  | .bool flag => if flag then "true" else "false"
  | .number n => n.text
  | .string s => quoted s
  | .array items => bracketed level "[" "]" (layoutItems (level + 1) items)
  | .object members => bracketed level "\x7b" "\x7d" (layoutMembers (level + 1) members)

def layoutItems (level : Nat) : List JsonValue → List String
  | [] => []
  | item :: rest => item.layout level :: layoutItems level rest

def layoutMembers (level : Nat) : List JsonMember → List String
  | [] => []
  | ⟨name, value⟩ :: rest =>
    (quoted name ++ ": " ++ value.layout level) :: layoutMembers level rest

end

/-- The document with this value. -/
def pretty (value : JsonValue) : String := value.layout 0

end JsonValue

end TitleFormatting

import TitleFormatting.Json.Number

/-!
Values of JSON documents.
-/

namespace TitleFormatting

mutual

inductive JsonValue where
  | null
  | bool (flag : Bool)
  | number (number : JsonNumber)
  | string (text : String)
  | array (items : List JsonValue)
  | object (members : List JsonMember)
deriving BEq, Repr, Inhabited

structure JsonMember where
  name : String
  value : JsonValue
deriving BEq, Repr, Inhabited

end

namespace JsonMember

/-- The members with one more, each name once and in ascending order. A value
that the name had before is replaced. -/
def insert (member : JsonMember) : List JsonMember → List JsonMember
  | [] => [member]
  | other :: rest =>
    if member.name = other.name then member :: rest
    else if member.name < other.name then member :: other :: rest
    else other :: insert member rest

end JsonMember

namespace JsonValue

def natural (n : Nat) : JsonValue := .number (.integer n)

def texts (items : List String) : JsonValue := .array (items.map .string)

end JsonValue

end TitleFormatting

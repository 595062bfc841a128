import TitleFormatting.Json.Token

/-!
Reading JSON documents. The tokens are taken from left to right; the arrays and
objects that are still open are kept on a stack.
-/

namespace TitleFormatting

namespace JsonValue

/-- An array or object that is still open. -/
inductive Container where
  /-- An array with its items, the last one first. -/
  | array (items : List JsonValue)
  | object (members : List JsonMember)
  /-- An object that waits for the value of this name. -/
  | naming (name : String) (members : List JsonMember)

/-- What has to come next. -/
inductive Due where
  /-- A value or, directly after its opening bracket, the end of an array. -/
  | value (orClose : Bool)
  /-- A name or, directly after its opening brace, the end of an object. -/
  | name (orClose : Bool)
  | colon
  /-- A comma or the end of what is open. -/
  | separator
  /-- Nothing: the document is complete. -/
  | nothing (document : JsonValue)

/-- A document that has been read in part. -/
structure Progress where
  due : Due
  containers : List Container

/-- How many arrays and objects may be open at once. -/
def deepest : Nat := 127

namespace Progress

def start : Progress := ⟨.value false, []⟩

/-- Put a complete value where it belongs. -/
def deliver? (value : JsonValue) : List Container → Option Progress
  | [] => some ⟨.nothing value, []⟩
  | .array items :: rest => some ⟨.separator, .array (value :: items) :: rest⟩
  | .naming name members :: rest =>
    some ⟨.separator, .object (JsonMember.insert ⟨name, value⟩ members) :: rest⟩
  | .object _ :: _ => none

def open? (progress : Progress) (container : Container) (due : Due) : Option Progress :=
  if progress.containers.length < deepest then
    some ⟨due, container :: progress.containers⟩
  else none

def step? (progress : Progress) (token : JsonToken) : Option Progress :=
  match progress.due, token, progress.containers with
  | .value _, .openArray, _ => progress.open? (.array []) (.value true)
  | .value _, .openObject, _ => progress.open? (.object []) (.name true)
  | .value _, .text text, containers => deliver? (.string text) containers
  | .value _, .scalar value, containers => deliver? value containers
  | .value true, .closeArray, .array _ :: rest => deliver? (.array []) rest
  | .name _, .text name, .object members :: rest => some ⟨.colon, .naming name members :: rest⟩
  | .name true, .closeObject, .object _ :: rest => deliver? (.object []) rest
  | .colon, .colon, containers => some ⟨.value false, containers⟩
  | .separator, .comma, .array items :: rest => some ⟨.value false, .array items :: rest⟩
  | .separator, .comma, .object members :: rest =>
    some ⟨.name false, .object members :: rest⟩
  | .separator, .closeArray, .array items :: rest => deliver? (.array items.reverse) rest
  | .separator, .closeObject, .object members :: rest => deliver? (.object members) rest
  | _, _, _ => none

def document? (progress : Progress) : Option JsonValue :=
  match progress.due with
  | .nothing document => some document
  | _ => none

end Progress

/-- Read a document. In each object every name is kept once with its last
value, and the names are in ascending order. -/
def parse? (source : String) : Option JsonValue := do
  let tokens ← JsonToken.scan? source.toList
  let progress ← tokens.foldlM Progress.step? .start
  progress.document?

end JsonValue

end TitleFormatting

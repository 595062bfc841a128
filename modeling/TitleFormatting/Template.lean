/-!
Templates as trees. A template is a sequence of segments; the arguments of a
function call and the body of a conditional block are templates themselves.
-/

namespace TitleFormatting

mutual

inductive Segment where
  /-- Plain text outside of quotes. -/
  | literal (text : String)
  /-- Text written between quotes, doubled quotes already resolved. -/
  | quoted (text : String)
  /-- The value of a field, written `%name%`. -/
  | field (name : String)
  /-- A function call `$name(arguments)`. The position counts the characters
  of the source before its dollar sign. -/
  | call (name : String) (arguments : List Template) (position : Nat)
  /-- A block `[body]`, which vanishes when nothing in it yields a value. -/
  | conditional (body : Template)
deriving BEq, Repr, Inhabited

/-- Segments that are evaluated from left to right and joined. -/
structure Template where
  segments : List Segment
deriving BEq, Repr, Inhabited

end

/-- A function call as it stands in a template. -/
structure Call where
  name : String
  arguments : List Template
  position : Nat

/-- The segment is text that needs no evaluation. -/
def Segment.isText : Segment → Bool
  | .literal _ | .quoted _ => true
  | _ => false

namespace Template

def empty : Template := ⟨[]⟩

def isEmpty (template : Template) : Bool := template.segments.isEmpty

/-- The source of the template began with a quote. -/
def startsQuoted (template : Template) : Bool :=
  match template.segments with
  | .quoted _ :: _ => true
  | _ => false

def isLiteral (template : Template) : Bool := template.segments.all Segment.isText

end Template

mutual

/-- The calls in a segment, an outer call before those in its arguments. -/
def Segment.calls : Segment → List Call
  | .literal _ | .quoted _ | .field _ => []
  | .call name arguments position =>
    ⟨name, arguments, position⟩ :: callsInArguments arguments
  | .conditional body => body.calls

/-- All function calls of a template, in the order of their source. -/
def Template.calls : Template → List Call
  | ⟨segments⟩ => callsInSegments segments

def callsInSegments : List Segment → List Call
  | [] => []
  | segment :: rest => segment.calls ++ callsInSegments rest

def callsInArguments : List Template → List Call
  | [] => []
  | argument :: rest => argument.calls ++ callsInArguments rest

end

end TitleFormatting

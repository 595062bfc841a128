import TitleFormatting.Context
import TitleFormatting.Functions.Call
import TitleFormatting.Track.Resolution

/-!
Evaluation of templates. Segments are evaluated from left to right and their
atoms joined. An evaluation also counts the fields, calls and blocks directly
in a template that yield a value: a conditional block in which there is none
yields nothing.
-/

namespace TitleFormatting

/-- The atom of a sequence of segments and how many of them, text apart, yield
a value. -/
structure Rendered where
  atom : Atom
  count : Nat
deriving DecidableEq, Repr

namespace Rendered

/-- Text, which is never counted. -/
def text (text : String) : Rendered := ⟨.literal text, 0⟩

/-- A field, a call or a block. -/
def counted (atom : Atom) : Rendered := ⟨atom, if atom.isPresent then 1 else 0⟩

/-- A block with this body: nothing, unless something in it yields a value. -/
def block (body : Rendered) : Rendered :=
  if body.count = 0 then ⟨.absent, 0⟩ else counted body.atom

end Rendered

/-- An evaluated argument with the markers that were recorded for it. They
are held back until the function says whether the argument reaches its
value. -/
structure HeldArgument where
  argument : Argument
  markers : List Marker

/-- The atom of a call and the context after it, once the function has
replied. -/
def Context.settle (context : Context) (held : List HeldArgument) :
    Reply → Atom × Context
  | .value atom .all => (atom, context.extend (held.flatMap HeldArgument.markers))
  | .value atom (.argument index) =>
    (atom, context.extend ((held[index]?.map HeldArgument.markers).getD []))
  | .value atom .nothing => (atom, context)
  | .marker marker => (.literal marker.text, context.add marker)

mutual

def Segment.evaluate : Segment → Context → Except Fault (Rendered × Context)
  | .literal text, context => .ok (.text text, context)
  | .quoted text, context => .ok (.text text, context)
  | .field name, context =>
    .ok (.counted (context.track.resolve name context.options), context)
  | .call name arguments position, context => do
    let (held, context) ← evaluateArguments context.markers.length arguments context
    let reply ← invoke (context.draw position) name (held.map HeldArgument.argument)
    let (atom, context) := context.settle held reply
    return (.counted atom, context)
  | .conditional body, context => do
    let (evaluated, context) ← body.evaluateCounting context
    return (evaluated.block, context)

/-- Evaluate a template and count. A template without segments is empty
text. -/
def Template.evaluateCounting : Template → Context → Except Fault (Rendered × Context)
  | ⟨[]⟩, context => .ok (.text "", context)
  | ⟨segments⟩, context => evaluateSegments segments context

/-- Evaluate segments one after the other and join their atoms. -/
def evaluateSegments : List Segment → Context → Except Fault (Rendered × Context)
  | [], context => .ok (⟨.absent, 0⟩, context)
  | segment :: rest, context => do
    let (first, context) ← segment.evaluate context
    let (others, context) ← evaluateSegments rest context
    return (⟨first.atom ++ others.atom, first.count + others.count⟩, context)

/-- Evaluate arguments one after the other and take back the markers of each,
all that were recorded after the first `recorded`. -/
def evaluateArguments (recorded : Nat) :
    List Template → Context → Except Fault (List HeldArgument × Context)
  | [], context => .ok ([], context)
  | template :: rest, context => do
    let (evaluated, context) ← template.evaluateCounting context
    let (markers, context) := context.takeBackAfter recorded
    let (held, context) ← evaluateArguments recorded rest context
    return (⟨⟨evaluated.atom, template.startsQuoted⟩, markers⟩ :: held, context)

end

def Template.evaluate (template : Template) (context : Context) :
    Except Fault (Atom × Context) := do
  let (evaluated, context) ← template.evaluateCounting context
  return (evaluated.atom, context)

end TitleFormatting

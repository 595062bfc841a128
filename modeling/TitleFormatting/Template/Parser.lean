import TitleFormatting.Template
import TitleFormatting.Template.Token

/-!
Templates from tokens. The tokens are taken one at a time from left to right;
what is still open (blocks and argument lists) is kept on a stack. Commas and
parentheses have a meaning only directly inside an argument, where balanced
parentheses are plain text.
-/

namespace TitleFormatting

/-- How many blocks and argument lists may be open at once by default. -/
def Template.defaultDepth : Nat := 64

/-- A template under construction. -/
structure Draft where
  /-- The segments read so far, the last one first. -/
  segments : List Segment
  /-- Parentheses that are open as plain text; counted in arguments only. -/
  parentheses : Nat

namespace Draft

def empty : Draft := ⟨[], 0⟩

/-- Add a character of plain text. -/
def addPlain (draft : Draft) (c : Char) : Draft :=
  match draft.segments with
  | .literal text :: rest => { draft with segments := .literal (text.push c) :: rest }
  | segments => { draft with segments := .literal c.toString :: segments }

/-- Add quoted text; it joins quoted text directly before it. -/
def addQuoted (draft : Draft) (text : String) : Draft :=
  match draft.segments with
  | .quoted before :: rest =>
    { draft with segments := .quoted (before ++ text) :: rest }
  | segments => { draft with segments := .quoted text :: segments }

def push (draft : Draft) (segment : Segment) : Draft :=
  { draft with segments := segment :: draft.segments }

def template (draft : Draft) : Template := ⟨draft.segments.reverse⟩

end Draft

/-- What an open block or argument list belongs to. -/
inductive Opener where
  | block
  /-- A call with the arguments that are finished, the last one first. -/
  | call (name : String) (arguments : List Template)

/-- Something open: what it is, where it was opened, and the draft that it
interrupts. -/
structure Frame where
  opener : Opener
  location : Location
  outer : Draft

/-- A parse in progress: the innermost draft and all that is open around it,
the innermost first. -/
structure Assembly where
  draft : Draft
  frames : List Frame

namespace Assembly

def start : Assembly := ⟨.empty, []⟩

/-- Open a block or an argument list, unless that goes deeper than the
limit. -/
def openFrame (assembly : Assembly) (limit : Nat) (opener : Opener)
    (character : Char) (location : Location) : Except SyntaxError Assembly :=
  if assembly.frames.length < limit then
    .ok ⟨.empty, ⟨opener, location, assembly.draft⟩ :: assembly.frames⟩
  else .error ⟨.depthExceeded character limit, location⟩

/-- The arguments of a call whose list has been closed. A list that holds one
empty argument holds none. -/
def closedArguments (arguments : List Template) : List Template :=
  match arguments with
  | [only] => if only.isEmpty then [] else [only]
  | _ => arguments

/-- Take a character that is text outside of argument lists. -/
def takePlain (assembly : Assembly) (c : Char) : Assembly :=
  let text : Assembly := { assembly with draft := assembly.draft.addPlain c }
  match assembly.frames with
  | ⟨.call name arguments, location, outer⟩ :: frames =>
    if c = '(' then
      { text with draft.parentheses := assembly.draft.parentheses + 1 }
    else if c = ')' then
      if assembly.draft.parentheses = 0 then
        let arguments := closedArguments (assembly.draft.template :: arguments).reverse
        ⟨outer.push (.call name arguments location.position), frames⟩
      else { text with draft.parentheses := assembly.draft.parentheses - 1 }
    else if c = ',' && assembly.draft.parentheses = 0 then
      let opener := .call name (assembly.draft.template :: arguments)
      ⟨.empty, ⟨opener, location, outer⟩ :: frames⟩
    else text
  | _ => text

def step (limit : Nat) (assembly : Assembly) (placed : PlacedToken) :
    Except SyntaxError Assembly :=
  match placed.token with
  | .plain c => .ok (assembly.takePlain c)
  | .quoted text => .ok { assembly with draft := assembly.draft.addQuoted text }
  | .field name => .ok { assembly with draft := assembly.draft.push (.field name) }
  | .openCall name => assembly.openFrame limit (.call name []) '$' placed.location
  | .openBlock => assembly.openFrame limit .block '[' placed.location
  | .closeBlock =>
    match assembly.frames with
    | ⟨.block, _, outer⟩ :: frames =>
      .ok ⟨outer.push (.conditional assembly.draft.template), frames⟩
    | _ => .error ⟨.unmatchedBracket, placed.location⟩

/-- The finished template, if nothing is left open. -/
def finish (assembly : Assembly) : Except SyntaxError Template :=
  match assembly.frames with
  | [] => .ok assembly.draft.template
  | ⟨.block, location, _⟩ :: _ => .error ⟨.unterminatedConditional, location⟩
  | ⟨.call name _, location, _⟩ :: _ => .error ⟨.unterminatedFunction name, location⟩

end Assembly

namespace Template

/-- Read a template. Blocks and argument lists may be nested `limit` levels
deep. Of several errors the one that comes first in the source is reported. -/
def parse (limit : Nat) (source : String) : Except SyntaxError Template := do
  let scan := Token.scan source.toList
  let assembly ← scan.tokens.foldlM (Assembly.step limit) .start
  match scan.fault with
  | some error => .error error
  | none => assembly.finish

end Template

end TitleFormatting

import Mathlib.Data.List.Chain
import TitleFormatting.Template.Token
import TitleFormatting.Template

/-!
# The source of a template

A template is written back as text: this is the source that reading is
compared with. Beside the writing stand the nesting of a template, the
positions that its calls have in the written source, and the canonical
templates, those that reading can yield.
-/

namespace TitleFormatting

@[simp]
theorem Template.mk_segments : ∀ template : Template, ⟨template.segments⟩ = template
  | ⟨_⟩ => rfl

/-! ## Writing -/

/-- Text between quotes with every quote in it doubled. -/
def doubledQuotes : List Char → List Char
  | [] => []
  | c :: rest =>
      if c = '\'' then '\'' :: '\'' :: doubledQuotes rest
      else c :: doubledQuotes rest

/-- Quoted text as it is written. A quote in front of everything else is
written as a bare pair of quotes; what is left, if anything, stands between
quotes. -/
def quotedCharacters : List Char → List Char
  | [] => []
  | c :: rest =>
      if c = '\'' then '\'' :: '\'' :: quotedCharacters rest
      else '\'' :: doubledQuotes (c :: rest) ++ ['\'']

mutual

/-- The characters that a segment is written with. -/
def Segment.characters : Segment → List Char
  | .literal text => text.toList
  | .quoted text => quotedCharacters text.toList
  | .field name => '%' :: name.toList ++ ['%']
  | .call name arguments _ =>
      '$' :: name.toList ++ '(' :: argumentCharacters arguments ++ [')']
  | .conditional body => '[' :: body.characters ++ [']']

def Template.characters : Template → List Char
  | ⟨segments⟩ => segmentCharacters segments

def segmentCharacters : List Segment → List Char
  | [] => []
  | segment :: rest => segment.characters ++ segmentCharacters rest

/-- The characters of arguments, joined by commas. -/
def argumentCharacters : List Template → List Char
  | [] => []
  | [last] => last.characters
  | argument :: next :: rest =>
      argument.characters ++ ',' :: argumentCharacters (next :: rest)

end

/-- The source that a template is written as. -/
def Template.source (template : Template) : String :=
  String.ofList template.characters

/-- The segment that a call is. -/
def Call.segment (call : Call) : Segment :=
  .call call.name call.arguments call.position

/-! ## Nesting -/

mutual

/-- How many blocks and argument lists lie inside each other in a segment. A
call counts even when it has no arguments. -/
def Segment.nesting : Segment → Nat
  | .literal _ | .quoted _ | .field _ => 0
  | .call _ arguments _ => argumentNesting arguments + 1
  | .conditional body => body.nesting + 1

def Template.nesting : Template → Nat
  | ⟨segments⟩ => segmentNesting segments

def segmentNesting : List Segment → Nat
  | [] => 0
  | segment :: rest => max segment.nesting (segmentNesting rest)

def argumentNesting : List Template → Nat
  | [] => 0
  | argument :: rest => max argument.nesting (argumentNesting rest)

end

/-! ## Positions -/

mutual

/-- The segment with its calls placed where their dollar signs are written,
when `start` characters stand before the segment. -/
def Segment.placed : Segment → Nat → Segment
  | .literal text, _ => .literal text
  | .quoted text, _ => .quoted text
  | .field name, _ => .field name
  | .call name arguments _, start =>
      .call name (placedArguments arguments (start + name.toList.length + 2)) start
  | .conditional body, start => .conditional (body.placed (start + 1))

/-- The template with its calls placed, when `start` characters stand before
it. -/
def Template.placed : Template → Nat → Template
  | ⟨segments⟩, start => ⟨placedSegments segments start⟩

def placedSegments : List Segment → Nat → List Segment
  | [], _ => []
  | segment :: rest, start =>
      segment.placed start ::
        placedSegments rest (start + segment.characters.length)

/-- Arguments placed one after the other, a comma behind each but the last. -/
def placedArguments : List Template → Nat → List Template
  | [], _ => []
  | argument :: rest, start =>
      argument.placed start ::
        placedArguments rest (start + argument.characters.length + 1)

end

/-! ## Canonical templates -/

/-- The character always stands for itself outside of quotes. -/
def Token.isPlainCharacter (c : Char) : Bool :=
  c ≠ '\'' && c ≠ '%' && c ≠ '$' && c ≠ '[' && c ≠ ']'

/-- Text of one kind twice in a row is read as one segment. -/
def Segment.joins : Segment → Segment → Bool
  | .literal _, .literal _ => true
  | .quoted _, .quoted _ => true
  | _, _ => false

/-- How many parentheses are open behind a character of an argument's plain
text; nothing where the character would end the argument. -/
def openParentheses (count : Nat) (c : Char) : Option Nat :=
  if c = '(' then some (count + 1)
  else if c = ')' then if count = 0 then none else some (count - 1)
  else if c = ',' && count = 0 then none
  else some count

/-- The plain text of a segment itself, not of what lies inside it. -/
def Segment.plainCharacters : Segment → List Char
  | .literal text => text.toList
  | _ => []

/-- The plain text directly in a template. -/
def Template.plainCharacters (template : Template) : List Char :=
  template.segments.flatMap Segment.plainCharacters

/-- The parentheses directly in a template are balanced in order, and every
comma directly in it stands inside an open parenthesis. -/
def Template.IsBalanced (template : Template) : Prop :=
  template.plainCharacters.foldlM openParentheses 0 = some 0

instance (template : Template) : Decidable template.IsBalanced :=
  inferInstanceAs (Decidable (_ = _))

mutual

/-- The segment can be read from a source. -/
def Segment.IsCanonical : Segment → Prop
  | .literal text =>
      text.toList ≠ [] ∧ ∀ c ∈ text.toList, Token.isPlainCharacter c
  | .quoted text => text.toList ≠ []
  | .field name => '%' ∉ name.toList
  | .call name arguments _ =>
      (name.toList ≠ [] ∧ ∀ c ∈ name.toList, Token.isFunctionCharacter c) ∧
        arguments ≠ [.empty] ∧ ArgumentsCanonical arguments
  | .conditional body => body.IsCanonical

def Template.IsCanonical : Template → Prop
  | ⟨segments⟩ =>
      segments.IsChain (fun first second => first.joins second = false) ∧
        SegmentsCanonical segments

def SegmentsCanonical : List Segment → Prop
  | [] => True
  | segment :: rest => segment.IsCanonical ∧ SegmentsCanonical rest

/-- Each of the templates can be read as the argument of a call. -/
def ArgumentsCanonical : List Template → Prop
  | [] => True
  | argument :: rest =>
      (argument.IsCanonical ∧ argument.IsBalanced) ∧ ArgumentsCanonical rest

end

instance Template.decidableEqSingletonEmpty :
    (arguments : List Template) → Decidable (arguments = [.empty])
  | [] => .isFalse (by simp)
  | [⟨[]⟩] => .isTrue rfl
  | [⟨_ :: _⟩] => .isFalse (by simp [Template.empty])
  | _ :: _ :: _ => .isFalse (by simp)

mutual

instance Segment.decidableIsCanonical :
    (segment : Segment) → Decidable segment.IsCanonical
  | .literal text =>
      have := List.decidableBAll (fun c => Token.isPlainCharacter c) text.toList
      inferInstanceAs
        (Decidable (text.toList ≠ [] ∧ ∀ c ∈ text.toList, Token.isPlainCharacter c))
  | .quoted text => inferInstanceAs (Decidable (text.toList ≠ []))
  | .field name => inferInstanceAs (Decidable ('%' ∉ name.toList))
  | .call name arguments _ =>
      have := List.decidableBAll (fun c => Token.isFunctionCharacter c) name.toList
      have := decidableArgumentsCanonical arguments
      inferInstanceAs
        (Decidable
          ((name.toList ≠ [] ∧ ∀ c ∈ name.toList, Token.isFunctionCharacter c) ∧
            ¬ arguments = [.empty] ∧ ArgumentsCanonical arguments))
  | .conditional body => body.decidableIsCanonical

instance Template.decidableIsCanonical :
    (template : Template) → Decidable template.IsCanonical
  | ⟨segments⟩ =>
      have := decidableSegmentsCanonical segments
      inferInstanceAs
        (Decidable
          (segments.IsChain (fun first second => first.joins second = false) ∧
            SegmentsCanonical segments))

instance decidableSegmentsCanonical :
    (segments : List Segment) → Decidable (SegmentsCanonical segments)
  | [] => .isTrue trivial
  | segment :: rest =>
      have := segment.decidableIsCanonical
      have := decidableSegmentsCanonical rest
      inferInstanceAs (Decidable (segment.IsCanonical ∧ SegmentsCanonical rest))

instance decidableArgumentsCanonical :
    (arguments : List Template) → Decidable (ArgumentsCanonical arguments)
  | [] => .isTrue trivial
  | argument :: rest =>
      have := argument.decidableIsCanonical
      have := decidableArgumentsCanonical rest
      inferInstanceAs
        (Decidable
          ((argument.IsCanonical ∧ argument.IsBalanced) ∧ ArgumentsCanonical rest))

end

end TitleFormatting

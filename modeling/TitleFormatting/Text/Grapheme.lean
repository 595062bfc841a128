import TitleFormatting.Text.Ranges
import TitleFormatting.Text.Grapheme.Table

/-!
Extended grapheme clusters: what a reader takes for one character. A text is
cut between two characters unless a rule joins them; whether one does depends
on the classes of the two and, for flags, joined pictographs and conjuncts,
on what came before.
-/

namespace TitleFormatting.Text

namespace Grapheme

/-- Classes of characters that the joining rules tell apart. -/
inductive Break where
  | other
  | carriageReturn
  | lineFeed
  | control
  | extend
  | joiner
  | spacing
  | prepend
  | flagLetter
  | leading
  | vowel
  | trailing
  | openSyllable
  | closedSyllable
deriving DecidableEq

/-- A Hangul syllable has a final consonant unless it opens a block of 28. -/
def syllable (code : Nat) : Break :=
  if (code - 0xAC00) % 28 = 0 then .openSyllable else .closedSyllable

def breakOf (c : Char) : Break :=
  let code := c.toNat
  if c = '\r' then .carriageReturn
  else if c = '\n' then .lineFeed
  else if 0x20 ≤ code && code < 0x7F then .other
  else if c = '\u200d' then .joiner
  else if inRanges controlRanges c then .control
  else if inRanges extendRanges c then .extend
  else if inRanges spacingRanges c then .spacing
  else if inRanges prependRanges c then .prepend
  else if 0x1F1E6 ≤ code && code ≤ 0x1F1FF then .flagLetter
  else if (0x1100 ≤ code && code ≤ 0x115F) || (0xA960 ≤ code && code ≤ 0xA97C) then
    .leading
  else if inRanges vowelRanges c then .vowel
  else if (0x11A8 ≤ code && code ≤ 0x11FF) || (0xD7CB ≤ code && code ≤ 0xD7FB) then
    .trailing
  else if 0xAC00 ≤ code && code ≤ 0xD7A3 then syllable code
  else .other

def isPictograph (c : Char) : Bool := inRanges pictographRanges c

def isConsonant (c : Char) : Bool := inRanges consonantRanges c

def isLinker (c : Char) : Bool := inRanges linkerRanges c

/-- What the rules need to know about the text before a place. -/
structure Context where
  /-- The class of the last character, if there is one. -/
  last : Option Break
  /-- The last characters are an odd number of flag letters. -/
  oddFlags : Bool
  /-- A pictograph and marks come last; `some true` when a joiner follows. -/
  pictograph : Option Bool
  /-- A consonant and marks come last; `some true` when one is a linker. -/
  conjunct : Option Bool

/-- Before the first character nothing is known. -/
def Context.start : Context := ⟨none, false, none, none⟩

/-- The context once the character has been passed. -/
def Context.pass (context : Context) (c : Char) : Context where
  last := some (breakOf c)
  oddFlags := breakOf c = .flagLetter && !context.oddFlags
  pictograph :=
    if isPictograph c then some false
    else match breakOf c, context.pictograph with
      | .extend, some false => some false
      | .joiner, some false => some true
      | _, _ => none
  conjunct :=
    if isConsonant c then some false
    else if isLinker c then context.conjunct.map fun _ => true
    else if c = '\u200c' then none
    else match breakOf c with
      | .extend | .joiner => context.conjunct
      | _ => none

/-- Two classes that stay together whatever came before. -/
def Break.joins : Break → Break → Bool
  | .carriageReturn, .lineFeed => true
  | .carriageReturn, _ | .lineFeed, _ | .control, _ => false
  | _, .carriageReturn | _, .lineFeed | _, .control => false
  | .leading, .leading | .leading, .vowel | .leading, .openSyllable
  | .leading, .closedSyllable => true
  | .openSyllable, .vowel | .openSyllable, .trailing => true
  | .vowel, .vowel | .vowel, .trailing => true
  | .closedSyllable, .trailing | .trailing, .trailing => true
  | _, .extend | _, .joiner | _, .spacing => true
  | .prepend, _ => true
  | _, _ => false

/-- The character belongs to the cluster that the context ends in. -/
def Context.continues (context : Context) (c : Char) : Bool :=
  match context.last with
  | none => false
  | some last =>
    last.joins (breakOf c) ||
      (context.conjunct == some true && isConsonant c) ||
      (context.pictograph == some true && isPictograph c) ||
      (context.oddFlags && breakOf c == .flagLetter)

/-- The clusters of the rest of a text; `current` holds the open cluster, its
last character first. -/
def clustersAfter (context : Context) (current : List Char) :
    List Char → List (List Char)
  | [] => if current.isEmpty then [] else [current.reverse]
  | c :: rest =>
    if current.isEmpty || context.continues c then
      clustersAfter (context.pass c) (c :: current) rest
    else
      current.reverse :: clustersAfter (context.pass c) [c] rest

end Grapheme

/-- The extended grapheme clusters of a text, in order. -/
def graphemes (text : List Char) : List (List Char) :=
  Grapheme.clustersAfter .start [] text

end TitleFormatting.Text

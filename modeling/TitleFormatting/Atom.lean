import TitleFormatting.Fault

/-!
Atoms: what every step of an evaluation yields. An atom pairs a text, which
may be absent, with a truth value, and neither decides the other.
-/

namespace TitleFormatting

/-- A value and its truth. A field with an empty value is present and true,
literal text is present and false, a missing field is absent and false. -/
structure Atom where
  value : Option String
  truth : Bool
deriving DecidableEq, Repr

namespace Atom

def absent : Atom := ⟨none, false⟩

/-- Literal text: present and false. -/
def literal (text : String) : Atom := ⟨some text, false⟩

/-- A field that was found or a computed result: present and true. -/
def found (text : String) : Atom := ⟨some text, true⟩

/-- A pure truth value: empty text when true, nothing when false. -/
def boolean (truth : Bool) : Atom := if truth then found "" else absent

def isPresent (atom : Atom) : Bool := atom.value.isSome

/-- The rendered text, empty when absent. -/
def text (atom : Atom) : String := atom.value.getD ""

/-- The atom with its value replaced; presence and truth stay. -/
def mapValue (f : String → String) (atom : Atom) : Atom :=
  ⟨atom.value.map f, atom.truth⟩

/-- A text computed from the text of the atom, as true as the atom is. An
atom without a value yields nothing. -/
def derive (f : String → String) (atom : Atom) : Atom :=
  match atom.value with
  | some text => ⟨some (f text), atom.truth⟩
  | none => absent

/-- The same for a function on characters. -/
def deriveText (f : List Char → List Char) (atom : Atom) : Atom :=
  atom.derive fun text => String.ofList (f text.toList)

/-- A text computed from the characters of the atom's text, where the computation
may come to a halt. -/
def deriveChecked (f : List Char → Except Fault (List Char)) (atom : Atom) :
    Except Fault Atom :=
  match atom.value with
  | some text => do
    let derived ← f text.toList
    return ⟨some (String.ofList derived), atom.truth⟩
  | none => .ok absent

/-- One atom after the other: the texts that are present are joined, and the
result is true when either is. -/
def append (first second : Atom) : Atom where
  value :=
    match first.value, second.value with
    | some text, some more => some (text ++ more)
    | some text, none => some text
    | none, rest => rest
  truth := first.truth || second.truth

instance : Append Atom := ⟨append⟩

end Atom

end TitleFormatting

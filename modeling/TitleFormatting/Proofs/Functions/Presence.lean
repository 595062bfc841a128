import TitleFormatting.Proofs.Evaluation.Value

/-!
# Functions and absent atoms

An atom may lack a value and be true nevertheless, as far as its type goes.  No
function makes such an atom out of others.  Most of them yield an atom that has a
value, or nothing; the rest hand on the atom of one of their arguments.
-/

namespace TitleFormatting

/-- An atom without a value is not true. -/
def Atom.FalseWhenAbsent (atom : Atom) : Prop := atom.value = none → atom.truth = false

namespace Atom

theorem falseWhenAbsent_some (text : String) (truth : Bool) :
    FalseWhenAbsent ⟨some text, truth⟩ := by
  intro missing
  contradiction

theorem falseWhenAbsent_absent : absent.FalseWhenAbsent :=
  fun _ => rfl

theorem falseWhenAbsent_boolean (truth : Bool) : (boolean truth).FalseWhenAbsent := by
  cases truth with
  | true =>
      exact falseWhenAbsent_some "" true
  | false =>
      exact falseWhenAbsent_absent

theorem falseWhenAbsent_deriveText (f : List Char → List Char) (atom : Atom) :
    (atom.deriveText f).FalseWhenAbsent := by
  rw [deriveText, derive]
  cases atom.value with
  | some text =>
      exact falseWhenAbsent_some _ _
  | none =>
      exact falseWhenAbsent_absent

/-- Joining two atoms yields an absent one only when both are absent. -/
theorem FalseWhenAbsent.append {first second : Atom}
    (firstFalse : first.FalseWhenAbsent) (secondFalse : second.FalseWhenAbsent) :
    (first ++ second).FalseWhenAbsent := by
  obtain ⟨firstValue, firstTruth⟩ := first
  obtain ⟨secondValue, secondTruth⟩ := second
  cases firstValue with
  | some text =>
      cases secondValue <;> exact falseWhenAbsent_some _ _
  | none =>
      intro missing
      exact Bool.or_eq_false_iff.mpr ⟨firstFalse rfl, secondFalse missing⟩

end Atom

/-- The atom that a reply comes with is not true without a value. -/
def Reply.FalseWhenAbsent (reply : Reply) : Prop := reply.atom.FalseWhenAbsent

namespace Functions

theorem ensures_reading {atom : Except Fault Atom}
    (sound : Ensures Atom.FalseWhenAbsent atom) : Ensures Reply.FalseWhenAbsent (reading atom) := by
  cases atom with
  | error fault =>
      exact .error fault
  | ok atom =>
      exact .ok (sound atom rfl)

theorem ensures_computed {atom : Atom} (sound : atom.FalseWhenAbsent) :
    Ensures Reply.FalseWhenAbsent (computed atom) :=
  .ok sound

/-! ## Functions that make an atom -/

theorem ensures_deriveChecked (f : List Char → Except Fault (List Char)) (atom : Atom) :
    Ensures Atom.FalseWhenAbsent (atom.deriveChecked f) := by
  rw [Atom.deriveChecked]
  cases atom.value with
  | some text =>
      exact .bind fun _ => .ok (Atom.falseWhenAbsent_some _ _)
  | none =>
      exact .ok Atom.falseWhenAbsent_absent

theorem ensures_onText (f : List Char → List Char) (arguments : List Argument) :
    Ensures Atom.FalseWhenAbsent (onText f arguments) :=
  .bind fun _ => .ok (Atom.falseWhenAbsent_deriveText _ _)

theorem ensures_onTextChecked (f : List Char → Except Fault (List Char))
    (arguments : List Argument) : Ensures Atom.FalseWhenAbsent (onTextChecked f arguments) :=
  .bind fun _ => ensures_deriveChecked _ _

theorem falseWhenAbsent_combine (operation : Int64 → Int64 → Int64)
    (arguments : List Argument) : (combine operation arguments).FalseWhenAbsent := by
  cases arguments with
  | nil =>
      exact Atom.falseWhenAbsent_absent
  | cons first rest =>
      exact Atom.falseWhenAbsent_some _ _

theorem falseWhenAbsent_positionAtom (position : Option Nat) :
    (positionAtom position).FalseWhenAbsent := by
  cases position <;> exact Atom.falseWhenAbsent_some _ _

theorem falseWhenAbsent_greater (arguments : List Argument) :
    (greater arguments).FalseWhenAbsent := by
  unfold greater
  split
  · exact Atom.falseWhenAbsent_boolean _
  · exact Atom.falseWhenAbsent_absent

theorem falseWhenAbsent_negation (arguments : List Argument) :
    (negation arguments).FalseWhenAbsent := by
  cases arguments with
  | nil =>
      exact Atom.falseWhenAbsent_absent
  | cons first rest =>
      exact Atom.falseWhenAbsent_boolean _

theorem falseWhenAbsent_progress (arguments : List Argument) :
    (progress arguments).FalseWhenAbsent := by
  unfold progress
  split
  · exact Atom.falseWhenAbsent_some _ _
  · exact Atom.falseWhenAbsent_absent

theorem ensures_muldiv (arguments : List Argument) :
    Ensures Atom.FalseWhenAbsent (muldiv arguments) := by
  unfold muldiv
  split
  · exact .bind fun _ => .ok (Atom.falseWhenAbsent_some _ _)
  · exact .ok Atom.falseWhenAbsent_absent

theorem ensures_progress2 (arguments : List Argument) :
    Ensures Atom.FalseWhenAbsent (progress2 arguments) := by
  unfold progress2
  split
  · exact .bind fun _ => .ok (Atom.falseWhenAbsent_some _ _)
  · exact .ok Atom.falseWhenAbsent_absent

theorem ensures_strstr (arguments : List Argument) :
    Ensures Atom.FalseWhenAbsent (strstr arguments) := by
  refine .bind fun text => .bind fun sought => ?_
  split
  · exact .ok (falseWhenAbsent_positionAtom none)
  · exact .bind fun _ => .ok (falseWhenAbsent_positionAtom _)

theorem ensures_roman (arguments : List Argument) :
    Ensures Atom.FalseWhenAbsent (roman arguments) := by
  refine .bind fun number => .bind fun found => ?_
  cases found with
  | some numeral =>
      exact .ok (Atom.falseWhenAbsent_some _ _)
  | none =>
      exact .ok Atom.falseWhenAbsent_absent

theorem ensures_codePoint (arguments : List Argument) :
    Ensures Atom.FalseWhenAbsent (codePoint arguments) := by
  refine .bind fun number => ?_
  dsimp only
  split
  · exact .ok (Atom.falseWhenAbsent_some _ _)
  · exact .ok Atom.falseWhenAbsent_absent

theorem ensures_num (arguments : List Argument) :
    Ensures Atom.FalseWhenAbsent (num arguments) := by
  refine .bind fun number => .bind fun length => ?_
  split
  · exact .error _
  · exact .ok (Atom.falseWhenAbsent_some _ _)

theorem ensures_hex (arguments : List Argument) :
    Ensures Atom.FalseWhenAbsent (hex arguments) := by
  refine .bind fun number => ?_
  dsimp only
  split
  · exact .error _
  · exact .ok (Atom.falseWhenAbsent_some _ _)

/-! ## Functions that hand on an argument -/

section Arguments

variable {arguments : List Argument}
  (sound : ∀ argument ∈ arguments, argument.atom.FalseWhenAbsent)

include sound

theorem falseWhenAbsent_picked (index : Option Nat) : (picked arguments index).FalseWhenAbsent := by
  unfold picked
  split
  · exact Atom.falseWhenAbsent_absent
  · split
    · next argument found =>
        exact sound argument (List.mem_of_getElem? found)
    · exact Atom.falseWhenAbsent_absent

theorem falseWhenAbsent_choose (choice : Choice) : (choose arguments choice).FalseWhenAbsent := by
  cases choice with
  | ok index =>
      exact falseWhenAbsent_picked sound index
  | error marker =>
      exact Atom.falseWhenAbsent_some _ _

theorem falseWhenAbsent_abbr : (abbr arguments).FalseWhenAbsent := by
  unfold abbr
  split
  · exact Atom.falseWhenAbsent_absent
  · next text limit =>
      split
      · exact sound text List.mem_cons_self
      · exact Atom.falseWhenAbsent_deriveText _ _
  · exact Atom.falseWhenAbsent_deriveText _ _

theorem falseWhenAbsent_bestByLength (better : Nat → Nat → Bool) :
    (bestByLength better arguments).FalseWhenAbsent := by
  cases arguments with
  | nil =>
      exact Atom.falseWhenAbsent_absent
  | cons first rest =>
      refine List.foldlRecOn (motive := fun best : Argument => best.atom.FalseWhenAbsent)
        rest _ (sound first List.mem_cons_self) fun best bestFalse next member => ?_
      split
      · exact sound next (List.mem_cons_of_mem first member)
      · exact bestFalse

/-- No function makes an absent and true atom out of arguments none of which is
one. -/
theorem ensures_run (draw : UInt32) (builtin : Builtin) :
    Ensures Reply.FalseWhenAbsent (run draw builtin arguments) := by
  cases builtin with
  | ifThen | if2 | ifEqual | ifGreater | ifLonger =>
      exact .ok (falseWhenAbsent_choose sound _)
  | if3 | select =>
      exact .ok (falseWhenAbsent_picked sound _)
  | add | mul | rand | crlf | tab =>
      exact ensures_computed (Atom.falseWhenAbsent_some _ _)
  | sub | div | mod | min | max =>
      exact ensures_computed (falseWhenAbsent_combine _ arguments)
  | and | or | xor =>
      exact ensures_computed (Atom.falseWhenAbsent_boolean _)
  | not =>
      exact ensures_computed (falseWhenAbsent_negation arguments)
  | greater =>
      exact ensures_computed (falseWhenAbsent_greater arguments)
  | progress =>
      exact ensures_computed (falseWhenAbsent_progress arguments)
  | abbr =>
      exact ensures_computed (falseWhenAbsent_abbr sound)
  | longest | shortest =>
      exact ensures_computed (falseWhenAbsent_bestByLength sound _)
  | caps | caps2 | len | len2 | lower | upper | trim | ansi | ascii =>
      exact ensures_reading (ensures_onText _ arguments)
  | replace | rot13 | fixEol | directory | directoryPath | filename | ext | crc32 =>
      exact ensures_reading (ensures_onTextChecked _ arguments)
  | stripArticle | swapArticle =>
      exact ensures_reading (.bind fun _ => ensures_onTextChecked _ arguments)
  | cut | left | right | repeatText =>
      exact ensures_reading
        (.bind fun _ => .bind fun _ => .ok (Atom.falseWhenAbsent_deriveText _ _))
  | pad | padRight | padCut | padCutRight =>
      exact ensures_reading (.bind fun _ => .ok (Atom.falseWhenAbsent_deriveText _ _))
  | insert =>
      exact ensures_reading
        (.bind fun _ => .bind fun _ => .bind fun _ => ensures_deriveChecked _ _)
  | substr =>
      exact ensures_reading (.bind fun _ => .bind fun _ => .bind fun _ => .bind fun _ =>
        .ok (Atom.falseWhenAbsent_deriveText _ _))
  | longer | strcmp | stricmp =>
      exact ensures_reading
        (.bind fun _ => .bind fun _ => .ok (Atom.falseWhenAbsent_boolean _))
  | strchr | strrchr =>
      exact ensures_reading
        (.bind fun _ => .bind fun _ => .ok (falseWhenAbsent_positionAtom _))
  | strstr =>
      exact ensures_reading (ensures_strstr arguments)
  | num =>
      exact ensures_reading (ensures_num arguments)
  | hex =>
      exact ensures_reading (ensures_hex arguments)
  | roman =>
      exact ensures_reading (ensures_roman arguments)
  | codePoint =>
      exact ensures_reading (ensures_codePoint arguments)
  | muldiv =>
      exact ensures_reading (ensures_muldiv arguments)
  | progress2 =>
      exact ensures_reading (ensures_progress2 arguments)

/-- A name that no function has is told in a marker, which is a text. -/
theorem ensures_invoke (draw : UInt32) (name : String) :
    Ensures Reply.FalseWhenAbsent (invoke draw name arguments) := by
  rw [invoke]
  cases Catalog.find? name arguments.length with
  | some entry =>
      exact ensures_run sound draw entry.builtin
  | none =>
      exact .ok (Atom.falseWhenAbsent_some _ _)

end Arguments

end Functions

end TitleFormatting

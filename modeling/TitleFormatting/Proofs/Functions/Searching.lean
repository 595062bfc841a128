import TitleFormatting.Proofs.Functions.Calls
import TitleFormatting.Proofs.Functions.Returning

/-!
# Functions that search

Searches reply with positions, counted as `$substr` counts them, or with a zero that is
present but not true.
-/

namespace TitleFormatting

namespace Functions

open Text

/-- A position that was found is present and true. -/
def foundAt (position : Nat) : Reply := .value ⟨some position.repr, true⟩ .all

/-- Where nothing was found there is a zero, which is present but not true. -/
def foundNowhere : Reply := .value ⟨some "0", false⟩ .all

theorem eq_of_foundAt_eq {position other : Nat} (same : foundAt position = foundAt other) :
    position = other := by
  have atoms := (Reply.value.inj same).1
  exact Nat.repr_injective (Option.some.inj (Atom.mk.inj atoms).1)

/-- The reply of a search that comes to an index. -/
def searched : Option Nat → Reply
  | some index => foundAt (index + 1)
  | none => foundNowhere

theorem value_positionAtom (index : Option Nat) :
    Reply.value (positionAtom index) .all = searched index := by
  cases index with
  | none =>
      rfl
  | some index =>
      rw [positionAtom, ofList_numeral]
      rfl

theorem invoke_strstr (draw : UInt32) (text sought : Argument) :
    invoke draw "strstr" [text, sought] =
      .ok (searched (if sought.characters = [] then none
        else firstEnding? sought.characters text.characters)) := by
  have member : ⟨"strstr", .strstr, .exact 2, .string⟩ ∈ Catalog.entries := by
    decide
  rw [invoke_of_mem draw member rfl, run, strstr_eq, ← value_positionAtom]
  rfl

theorem invoke_strchr (draw : UInt32) (text sought : Argument) :
    invoke draw "strchr" [text, sought] =
      .ok (searched (sought.characters.head?.bind (indexOfChar? · text.characters))) := by
  have member : ⟨"strchr", .strchr, .exact 2, .string⟩ ∈ Catalog.entries := by
    decide
  rw [invoke_of_mem draw member rfl, ← value_positionAtom]
  rfl

theorem invoke_strrchr (draw : UInt32) (text sought : Argument) :
    invoke draw "strrchr" [text, sought] =
      .ok (searched (sought.characters.head?.bind (lastIndexOfChar? · text.characters))) := by
  have member : ⟨"strrchr", .strrchr, .exact 2, .string⟩ ∈ Catalog.entries := by
    decide
  rw [invoke_of_mem draw member rfl, ← value_positionAtom]
  rfl

theorem invoke_substr (draw : UInt32) (text first last : Argument) :
    invoke draw "substr" [text, first, last] =
      .ok (.value (text.atom.deriveText (slice first.count last.count)) .all) := by
  have member : ⟨"substr", .substr, .exact 3, .string⟩ ∈ Catalog.entries := by
    decide
  rw [invoke_of_mem draw member rfl, run, substr_eq]
  rfl

/-- The functions that search come to positions at which `$substr` slices what they searched
for: the least one for a text, and the greatest one for the first character of a text where
the search begins at the end.  The first place of a character is the one of the text that is
only this character.  Where there is no such position the functions come to a zero. -/
theorem searches_find_positions (draw : UInt32) (text sought : Argument) :
    (sought.characters ≠ [] → sought.characters <:+: text.characters →
      ∃ position, IsLeast (positions sought.characters text.characters) position ∧
        invoke draw "strstr" [text, sought] = .ok (foundAt position)) ∧
    (sought.characters = [] ∨ ¬ sought.characters <:+: text.characters →
      invoke draw "strstr" [text, sought] = .ok foundNowhere) ∧
    (∀ c rest, sought.characters = c :: rest →
      (∀ letter : Argument, letter.characters = [c] →
        invoke draw "strchr" [text, sought] = invoke draw "strstr" [text, letter]) ∧
      (c ∈ text.characters →
        ∃ position, IsGreatest (positions [c] text.characters) position ∧
          invoke draw "strrchr" [text, sought] = .ok (foundAt position)) ∧
      (c ∉ text.characters → invoke draw "strchr" [text, sought] = .ok foundNowhere ∧
        invoke draw "strrchr" [text, sought] = .ok foundNowhere)) ∧
    (sought.characters = [] → invoke draw "strchr" [text, sought] = .ok foundNowhere ∧
      invoke draw "strrchr" [text, sought] = .ok foundNowhere) ∧
    ∀ first last : Argument, invoke draw "substr" [text, first, last] =
      .ok (.value (text.atom.deriveText (slice first.count last.count)) .all) := by
  rw [invoke_strstr, invoke_strchr, invoke_strrchr]
  refine ⟨?found, ?missing, ?characters, ?empty, invoke_substr draw text⟩
  case found =>
    intro nonempty occurs
    rw [if_neg nonempty]
    cases ending : firstEnding? sought.characters text.characters with
    | none =>
        exact absurd occurs (firstEnding?_eq_none_iff.mp ending)
    | some index =>
        exact ⟨index + 1, isLeast_of_firstEnding? ending, rfl⟩
  case missing =>
    rintro (empty | missing)
    · rw [if_pos empty]
      rfl
    · rw [firstEnding?_eq_none_iff.mpr missing, ite_self]
      rfl
  case characters =>
    intro c rest written
    have first : sought.characters.head? = some c := by
      rw [written]
      rfl
    rw [first, Option.bind_some, Option.bind_some]
    refine ⟨?_, ?_, ?_⟩
    · intro letter alone
      have nonempty : letter.characters ≠ [] := by
        rw [alone]
        exact List.cons_ne_nil _ _
      rw [invoke_strstr, if_neg nonempty, alone, indexOfChar?_eq]
    · intro member
      cases place : lastIndexOfChar? c text.characters with
      | none =>
          exact absurd member (lastIndexOfChar?_eq_none_iff.mp place)
      | some index =>
          exact ⟨index + 1, isGreatest_of_lastIndexOfChar? place, rfl⟩
    · intro missing
      have nowhere : firstEnding? [c] text.characters = none := by
        rw [firstEnding?_eq_none_iff, List.singleton_infix_iff]
        exact missing
      rw [indexOfChar?_eq, nowhere, lastIndexOfChar?_eq_none_iff.mpr missing]
      exact ⟨rfl, rfl⟩
  case empty =>
    intro empty
    rw [empty]
    exact ⟨rfl, rfl⟩

/-- Occurrences may overlap, and only their first characters are counted. -/
theorem searches_find_positions_sample :
    let argument (text : String) : Argument := ⟨.found text, false⟩
    let text := argument "日äbäbä"
    ("äbä".toList ≠ [] ∧ "äbä".toList <:+: text.characters ∧
      IsLeast (positions "äbä".toList text.characters) 2 ∧
      invoke 0 "strstr" [text, argument "äbä"] = .ok (foundAt 2)) ∧
    (¬ "bb".toList <:+: text.characters ∧
      invoke 0 "strstr" [text, argument "bb"] = .ok foundNowhere) ∧
    ('b' ∈ text.characters ∧ IsGreatest (positions ['b'] text.characters) 5 ∧
      invoke 0 "strrchr" [text, argument "bb"] = .ok (foundAt 5) ∧
      invoke 0 "strchr" [text, argument "bb"] = invoke 0 "strstr" [text, argument "b"]) ∧
    ('本' ∉ text.characters ∧ invoke 0 "strchr" [text, argument "本"] = .ok foundNowhere) ∧
    invoke 0 "strrchr" [text, argument ""] = .ok foundNowhere := by
  intro argument text
  have occurs : "äbä".toList <:+: text.characters := by
    decide
  have missing : ¬ "bb".toList <:+: text.characters := by
    decide
  have member : 'b' ∈ text.characters := by
    decide
  have stranger : '本' ∉ text.characters := by
    decide
  obtain ⟨found, -⟩ := searches_find_positions 0 text (argument "äbä")
  obtain ⟨-, unfound, characters, -⟩ := searches_find_positions 0 text (argument "bb")
  obtain ⟨-, -, unknown, -⟩ := searches_find_positions 0 text (argument "本")
  obtain ⟨-, -, -, empty, -⟩ := searches_find_positions 0 text (argument "")
  obtain ⟨same, last, -⟩ := characters 'b' ['b'] (by decide)
  obtain ⟨least, isLeast, first⟩ := found (by decide) occurs
  obtain ⟨greatest, isGreatest, last⟩ := last member
  obtain rfl : least = 2 := by
    apply eq_of_foundAt_eq (Except.ok.inj (first.symm.trans _))
    cbv
  obtain rfl : greatest = 5 := by
    apply eq_of_foundAt_eq (Except.ok.inj (last.symm.trans _))
    cbv
  exact ⟨⟨by decide, occurs, isLeast, first⟩, ⟨missing, unfound (Or.inr missing)⟩,
    ⟨member, isGreatest, last, same (argument "b") (by decide)⟩,
    ⟨stranger, ((unknown '本' [] (by decide)).2.2 stranger).1⟩, (empty (by decide)).2⟩

end Functions

end TitleFormatting

import Mathlib.Data.List.Nodup
import TitleFormatting.Proofs.Lint.Rejection

/-!
# Calls by name

No two functions have the same name, and their names are listed in small letters.  A call
by the name of a function is carried out by that function whenever it takes this many
arguments.  A function that changes a text replies with the text that it makes of a present
one, as true as that is.
-/

namespace TitleFormatting

namespace Catalog

theorem nodup_names : (entries.map CatalogEntry.name).Nodup := by
  decide +kernel

theorem canonicalName_of_mem {entry : CatalogEntry} (member : entry ∈ entries) :
    canonicalName entry.name = entry.name := by
  have small : ∀ entry ∈ entries,
      entry.name.toList.map Char.toLower = entry.name.toList := by
    decide
  rw [← String.toList_inj, canonicalName, String.toList_map]
  exact small entry member

theorem find?_of_mem {entry : CatalogEntry} {count : Nat} (member : entry ∈ entries)
    (accepted : entry.arity.accepts count = true) :
    find? entry.name count = some entry := by
  have named := (canonicalName_of_mem member).symm
  cases found : find? entry.name count with
  | some other =>
      obtain ⟨otherMember, otherNamed⟩ := mem_of_find?_eq_some found
      have same : other = entry := by
        apply List.inj_on_of_nodup_map nodup_names otherMember member
        rw [otherNamed, ← named]
      rw [same]
  | none =>
      have candidate : entry ∈ entries.filter (·.name == canonicalName entry.name) := by
        apply List.mem_filter.mpr
        exact ⟨member, beq_iff_eq.mpr named⟩
      rw [find?, Option.orElse_eq_none] at found
      have refused := List.find?_eq_none.mp found.2 entry candidate
      contradiction

end Catalog

theorem invoke_of_mem {entry : CatalogEntry} {arguments : List Argument} (draw : UInt32)
    (member : entry ∈ Catalog.entries)
    (accepted : entry.arity.accepts arguments.length = true) :
    invoke draw entry.name arguments = Functions.run draw entry.builtin arguments := by
  rw [invoke, Catalog.find?_of_mem member accepted]

example (draw : UInt32) (a b c : Argument) :
    invoke draw "muldiv" [a, b, c] = Functions.run draw .muldiv [a, b, c] := by
  have member : ⟨"muldiv", .muldiv, .exact 3, .arithmetic⟩ ∈ Catalog.entries := by
    decide
  exact invoke_of_mem draw member rfl

namespace Functions

theorem onTextChecked_of_isPresent {f : List Char → Except Fault (List Char)}
    {text : Argument} {derived : List Char} (present : text.atom.isPresent = true)
    (ends : f text.characters = .ok derived) (given : List Argument) :
    onTextChecked f (text :: given) = .ok ⟨some (String.ofList derived), text.truth⟩ := by
  obtain ⟨⟨value, truth⟩, quoted⟩ := text
  obtain ⟨value, rfl⟩ := Option.isSome_iff_exists.mp present
  have computed : f value.toList = .ok derived := ends
  change (f value.toList).bind _ = _
  rw [computed]
  rfl

/-- The reply of a function that makes this text out of its first argument. -/
def changed (text : Argument) (derived : List Char) : Reply :=
  .value ⟨some (String.ofList derived), text.truth⟩ .all

theorem eq_of_changed_eq {text : Argument} {first second : List Char}
    (same : changed text first = changed text second) : first = second := by
  have atoms := (Reply.value.inj same).1
  exact String.ofList_injective (Option.some.inj (Atom.mk.inj atoms).1)

/-- A function that may not fail makes this reply of a present text. -/
theorem value_deriveText {text : Argument} (present : text.atom.isPresent = true)
    (f : List Char → List Char) :
    Reply.value (text.atom.deriveText f) .all = changed text (f text.characters) := by
  obtain ⟨⟨value, truth⟩, quoted⟩ := text
  obtain ⟨value, rfl⟩ := Option.isSome_iff_exists.mp present
  rfl

/-- What a call makes of a text is handed on to another call as a present text. -/
theorem of_value_eq_changed {result text : Argument} {derived : List Char}
    (replied : Reply.value result.atom .all = changed text derived) :
    result.atom.isPresent = true ∧ result.characters = derived ∧
      result.truth = text.truth := by
  have atom : result.atom = ⟨some (String.ofList derived), text.truth⟩ :=
    (Reply.value.inj replied).1
  rw [Argument.characters, Argument.text, Argument.truth, atom]
  exact ⟨rfl, String.toList_ofList, rfl⟩

/-- A function that makes a text of a present one and cannot fail is called by its name. -/
theorem invoke_deriveText {entry : CatalogEntry} {arguments : List Argument} {text : Argument}
    (draw : UInt32) (f : List Char → List Char) (member : entry ∈ Catalog.entries)
    (accepted : entry.arity.accepts arguments.length = true)
    (runs : run draw entry.builtin arguments = .ok (.value (text.atom.deriveText f) .all))
    (present : text.atom.isPresent = true) :
    invoke draw entry.name arguments = .ok (changed text (f text.characters)) := by
  rw [invoke_of_mem draw member accepted, runs, value_deriveText present]

/-- A function on texts that has this one argument is called by its name. -/
theorem invoke_onTextChecked {entry : CatalogEntry} {f : List Char → Except Fault (List Char)}
    {text : Argument} {derived : List Char} (draw : UInt32) (member : entry ∈ Catalog.entries)
    (accepted : entry.arity.accepts 1 = true)
    (runs : run draw entry.builtin [text] = reading (onTextChecked f [text]))
    (present : text.atom.isPresent = true) (ends : f text.characters = .ok derived) :
    invoke draw entry.name [text] = .ok (changed text derived) := by
  have called : invoke draw entry.name [text] = run draw entry.builtin [text] :=
    invoke_of_mem draw member accepted
  rw [called, runs, onTextChecked_of_isPresent present ends]
  rfl

theorem ofList_numeral (n : Nat) : String.ofList (numeral n) = n.repr := by
  rw [← String.toList_inj, String.toList_ofList, Nat.toList_repr]
  rfl

end Functions

end TitleFormatting

import Mathlib
import TitleFormatting.Functions.Call
import TitleFormatting.Lint

/-!
# Rejected calls

Whether a call comes to a marker, and to which, is settled by its name and the
number of its arguments; their values do not matter.  Two tables decide it, and
they are kept apart.  A call is carried out by an entry of the catalog, and five
of the functions count their arguments once more.  A warning is decided by the
catalog and by a list of these five with their counts.
-/

namespace TitleFormatting

/-- The capitals and the numbers of arguments of a function that counts its
arguments itself. -/
def Builtin.ownCounts : Builtin → Option (String × List Nat)
  | .ifThen => some ("IF", [2, 3])
  | .if2 => some ("IF2", [2])
  | .ifEqual => some ("IFEQUAL", [4])
  | .ifGreater => some ("IFGREATER", [4])
  | .ifLonger => some ("IFLONGER", [4])
  | _ => none

/-- The marker of a function for this number of arguments, if it has one. -/
def Builtin.rejection (builtin : Builtin) (count : Nat) : Option Marker :=
  match builtin.ownCounts with
  | some (capitals, counts) =>
      if counts.contains count then none
      else some (.invalidSyntax capitals count)
  | none => none

/-- The marker of a call by this name with this number of arguments, if it has
one. -/
def Catalog.rejection (name : String) (count : Nat) : Option Marker :=
  match Catalog.find? name count with
  | some entry => entry.builtin.rejection count
  | none => some (.unknownFunction name count)

def Call.rejection (call : Call) : Option Marker :=
  Catalog.rejection call.name call.arguments.length

namespace Functions

/-! ## Markers of functions -/

theorem computed_ne_marker (atom : Atom) (marker : Marker) :
    computed atom ≠ .ok (.marker marker) := by
  simp [computed]

theorem reading_ne_marker (atom : Except Fault Atom) (marker : Marker) :
    reading atom ≠ .ok (.marker marker) := by
  cases atom with
  | error fault =>
      simp [reading, Except.map]
  | ok atom =>
      simp [reading, Except.map]

theorem picked_ne_marker (arguments : List Argument) (index : Option Nat)
    (marker : Marker) : picked arguments index ≠ .marker marker := by
  unfold picked
  split
  · simp
  · split <;> simp

theorem choose_eq_marker_iff (arguments : List Argument) (choice : Choice)
    (marker : Marker) :
    choose arguments choice = .marker marker ↔ choice = .error marker := by
  cases choice with
  | error problem =>
      simp [choose]
  | ok index =>
      simp [choose, picked_ne_marker]

theorem ifThen_eq_error_iff (arguments : List Argument) (marker : Marker) :
    ifThen arguments = .error marker ↔
      Builtin.ifThen.rejection arguments.length = some marker := by
  rcases arguments with _ | ⟨a, _ | ⟨b, _ | ⟨c, _ | ⟨d, rest⟩⟩⟩⟩ <;>
    simp [ifThen, brokenSyntax, Builtin.rejection, Builtin.ownCounts]

theorem if2_eq_error_iff (arguments : List Argument) (marker : Marker) :
    if2 arguments = .error marker ↔
      Builtin.if2.rejection arguments.length = some marker := by
  rcases arguments with _ | ⟨a, _ | ⟨b, _ | ⟨c, rest⟩⟩⟩ <;>
    simp [if2, brokenSyntax, Builtin.rejection, Builtin.ownCounts]

theorem ifEqual_eq_error_iff (arguments : List Argument) (marker : Marker) :
    ifEqual arguments = .error marker ↔
      Builtin.ifEqual.rejection arguments.length = some marker := by
  rcases arguments with _ | ⟨a, _ | ⟨b, _ | ⟨c, _ | ⟨d, _ | ⟨e, rest⟩⟩⟩⟩⟩ <;>
    simp [ifEqual, branch, brokenSyntax, Builtin.rejection, Builtin.ownCounts]

theorem ifGreater_eq_error_iff (arguments : List Argument) (marker : Marker) :
    ifGreater arguments = .error marker ↔
      Builtin.ifGreater.rejection arguments.length = some marker := by
  rcases arguments with _ | ⟨a, _ | ⟨b, _ | ⟨c, _ | ⟨d, _ | ⟨e, rest⟩⟩⟩⟩⟩ <;>
    simp [ifGreater, branch, brokenSyntax, Builtin.rejection, Builtin.ownCounts]

theorem ifLonger_eq_error_iff (arguments : List Argument) (marker : Marker) :
    ifLonger arguments = .error marker ↔
      Builtin.ifLonger.rejection arguments.length = some marker := by
  rcases arguments with _ | ⟨a, _ | ⟨b, _ | ⟨c, _ | ⟨d, _ | ⟨e, rest⟩⟩⟩⟩⟩ <;>
    simp [ifLonger, branch, brokenSyntax, Builtin.rejection, Builtin.ownCounts]

/-- Only a function that counts its arguments itself comes to a marker. -/
theorem run_eq_marker_iff (draw : UInt32) (builtin : Builtin)
    (arguments : List Argument) (marker : Marker) :
    run draw builtin arguments = .ok (.marker marker) ↔
      builtin.rejection arguments.length = some marker := by
  cases builtin with
  | ifThen =>
      simp only [run, Except.ok.injEq, choose_eq_marker_iff, ifThen_eq_error_iff]
  | if2 =>
      simp only [run, Except.ok.injEq, choose_eq_marker_iff, if2_eq_error_iff]
  | ifEqual =>
      simp only [run, Except.ok.injEq, choose_eq_marker_iff, ifEqual_eq_error_iff]
  | ifGreater =>
      simp only [run, Except.ok.injEq, choose_eq_marker_iff,
        ifGreater_eq_error_iff]
  | ifLonger =>
      simp only [run, Except.ok.injEq, choose_eq_marker_iff,
        ifLonger_eq_error_iff]
  | if3 | select =>
      simp [run, picked_ne_marker, Builtin.rejection, Builtin.ownCounts]
  | _ =>
      simp [run, computed_ne_marker, reading_ne_marker, Builtin.rejection,
        Builtin.ownCounts]

end Functions

/-- A call comes to a marker exactly when its name and the number of its
arguments are rejected. -/
theorem invoke_eq_marker_iff (draw : UInt32) (name : String)
    (arguments : List Argument) (marker : Marker) :
    invoke draw name arguments = .ok (.marker marker) ↔
      Catalog.rejection name arguments.length = some marker := by
  rw [invoke, Catalog.rejection]
  cases Catalog.find? name arguments.length with
  | some entry =>
      exact Functions.run_eq_marker_iff draw entry.builtin arguments marker
  | none =>
      simp

namespace Catalog

/-! ## The two tables -/

theorem canonicalName_canonicalName (name : String) :
    canonicalName (canonicalName name) = canonicalName name := by
  rw [← String.toList_inj]
  simp [canonicalName, String.toList_map, Function.comp_def]

theorem toUpper_canonicalName (name : String) :
    (canonicalName name).map Char.toUpper = name.map Char.toUpper := by
  rw [← String.toList_inj]
  simp [canonicalName, String.toList_map, Function.comp_def]

theorem find?_canonicalName (name : String) (count : Nat) :
    find? (canonicalName name) count = find? name count := by
  rw [find?, find?, canonicalName_canonicalName]

theorem isKnown_iff (name : String) :
    isKnown name ↔ ∃ entry ∈ entries, entry.name = canonicalName name := by
  simp [isKnown]

theorem mem_of_find?_eq_some {name : String} {count : Nat} {entry : CatalogEntry}
    (found : find? name count = some entry) :
    entry ∈ entries ∧ entry.name = canonicalName name := by
  have named :
      entry ∈ entries.filter fun entry => entry.name == canonicalName name := by
    rw [find?, Option.orElse_eq_some] at found
    rcases found with exact | ⟨_, accepting⟩
    · exact List.mem_of_find?_eq_some exact
    · exact List.mem_of_find?_eq_some accepting
  simpa using named

/-- An entry that takes any number of arguments is enough to find one. -/
theorem find?_ne_none {name : String} {entry : CatalogEntry} (count : Nat)
    (member : entry ∈ entries) (named : entry.name = canonicalName name)
    (variadic : entry.arity = .atLeast 0) : find? name count ≠ none := by
  intro missing
  rw [find?, Option.orElse_eq_none] at missing
  have refused := List.find?_eq_none.mp missing.2 entry
    (List.mem_filter.mpr ⟨member, by simp [named]⟩)
  simp [variadic, Arity.accepts] at refused

/-- The list of counts that warnings go by has the counts of just those
functions that count their arguments themselves. -/
theorem lookup_controlCounts :
    ∀ entry ∈ entries,
      Lint.controlCounts.lookup entry.name =
        entry.builtin.ownCounts.map Prod.snd := by
  decide

/-- A function that counts its arguments itself is called with any number of
them, and its marker has its name in capitals. -/
theorem ownCounts_of_mem_entries :
    ∀ entry ∈ entries, ∀ own ∈ entry.builtin.ownCounts,
      entry.arity = .atLeast 0 ∧
        entry.name.toList.map Char.toUpper = own.1.toList := by
  decide

end Catalog

/-! ## Warnings -/

/-- The marker and the warning are about the same call, as far as they tell. -/
def Marker.Matches : Marker → Warning → Prop
  | .unknownFunction name _, .unknownFunction warned _ _ => name = warned
  | .unknownFunction name arity, .argumentCount warned _ got _ =>
      name = warned ∧ arity = got
  | .invalidSyntax capitals arity, .argumentCount warned _ got _ =>
      warned.map Char.toUpper = capitals ∧ arity = got
  | .invalidSyntax _ _, .unknownFunction _ _ _ => False

namespace Lint

theorem rel_of_find?_eq_some {call : Call} {entry : CatalogEntry}
    (found : Catalog.find? call.name call.arguments.length = some entry) :
    Option.Rel Marker.Matches (entry.builtin.rejection call.arguments.length)
      (warning? call) := by
  obtain ⟨member, named⟩ := Catalog.mem_of_find?_eq_some found
  have known : Catalog.isKnown (Catalog.canonicalName call.name) = true := by
    rw [Catalog.isKnown_iff, Catalog.canonicalName_canonicalName]
    exact ⟨entry, member, named⟩
  have listed := Catalog.lookup_controlCounts entry member
  rw [named] at listed
  simp only [warning?, known, if_true, expectedInstead, listed,
    Catalog.find?_canonicalName, found]
  cases own : entry.builtin.ownCounts with
  | none =>
      simp only [Builtin.rejection, own]
      exact .none
  | some pair =>
      obtain ⟨capitals, counts⟩ := pair
      have capitalized :=
        (Catalog.ownCounts_of_mem_entries entry member _ own).2
      by_cases counted : counts.contains call.arguments.length
      · simp only [Builtin.rejection, own, Option.map_some, counted, if_true]
        exact .none
      · simp only [Builtin.rejection, own, Option.map_some, counted]
        refine .some ⟨?_, rfl⟩
        rw [← Catalog.toUpper_canonicalName, ← named, ← String.toList_inj,
          String.toList_map]
        exact capitalized

theorem rel_of_find?_eq_none {call : Call}
    (missing : Catalog.find? call.name call.arguments.length = none) :
    Option.Rel Marker.Matches
      (some (.unknownFunction call.name call.arguments.length))
      (warning? call) := by
  by_cases known : Catalog.isKnown (Catalog.canonicalName call.name) = true
  · obtain ⟨entry, member, named⟩ := (Catalog.isKnown_iff _).mp known
    rw [Catalog.canonicalName_canonicalName] at named
    -- An entry that counts for itself would have been found for any number.
    have unlisted :
        controlCounts.lookup (Catalog.canonicalName call.name) = none := by
      rw [← named, Catalog.lookup_controlCounts entry member, Option.map_eq_none_iff]
      by_contra own
      obtain ⟨pair, own⟩ := Option.ne_none_iff_exists'.mp own
      have variadic :=
        (Catalog.ownCounts_of_mem_entries entry member pair own).1
      exact Catalog.find?_ne_none _ member named variadic missing
    simp only [warning?, known, if_true, expectedInstead, unlisted,
      Catalog.find?_canonicalName, missing]
    exact .some ⟨rfl, rfl⟩
  · simp only [warning?, known]
    exact .some rfl

/-- A call has a warning exactly when it has a marker, and they match. -/
theorem rel_rejection_warning (call : Call) :
    Option.Rel Marker.Matches call.rejection (warning? call) := by
  rw [Call.rejection, Catalog.rejection]
  cases found : Catalog.find? call.name call.arguments.length with
  | some entry =>
      exact rel_of_find?_eq_some found
  | none =>
      exact rel_of_find?_eq_none found

end Lint

end TitleFormatting

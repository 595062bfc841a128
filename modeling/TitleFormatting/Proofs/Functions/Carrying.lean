import Mathlib.Data.List.Forall2
import TitleFormatting.Proofs.Functions.Calls
import TitleFormatting.Proofs.Functions.Presence
import TitleFormatting.Proofs.Functions.Returning

/-!
# What a function makes of presence and truth

A block and a condition see of an atom whether it is present and whether it is true.  The
functions that change a text hand both on from their first argument, whatever the others
are.  The functions that go by truth pick an argument or make a truth value, and what they
reply to arguments that look the same to a block and a condition looks the same too.
-/

namespace TitleFormatting

/-- What a block and a condition see of an atom. -/
structure Outline where
  isPresent : Bool
  truth : Bool
deriving DecidableEq, Repr

namespace Atom

def outline (atom : Atom) : Outline := ⟨atom.isPresent, atom.truth⟩

theorem falseWhenAbsent_iff_outline {atom : Atom} :
    atom.FalseWhenAbsent ↔ (atom.outline.isPresent = false → atom.outline.truth = false) := by
  rw [FalseWhenAbsent, outline, isPresent, Option.isSome_eq_false_iff, Option.isNone_iff_eq_none]

theorem outline_deriveText (f : List Char → List Char) {atom : Atom}
    (sound : atom.FalseWhenAbsent) : (atom.deriveText f).outline = atom.outline := by
  obtain ⟨value, truth⟩ := atom
  cases value with
  | some text =>
      rfl
  | none =>
      obtain rfl : truth = false := sound rfl
      rfl

theorem ensures_outline_deriveChecked (f : List Char → Except Fault (List Char)) {atom : Atom}
    (sound : atom.FalseWhenAbsent) :
    Ensures (fun derived => derived.outline = atom.outline) (atom.deriveChecked f) := by
  obtain ⟨value, truth⟩ := atom
  cases value with
  | some text =>
      exact .bind fun _ => .ok rfl
  | none =>
      obtain rfl : truth = false := sound rfl
      exact .ok rfl

end Atom

/-! ## Two families of functions -/

/-- The functions that change a text. -/
def carryingNames : List String := [
  "abbr", "caps", "caps2", "cut", "left", "right", "insert", "len", "len2", "lower", "upper",
  "pad", "pad_right", "padcut", "padcut_right", "repeat", "replace", "rot13", "substr",
  "stripprefix", "swapprefix", "trim", "fix_eol", "directory", "directory_path", "filename",
  "ext", "ansi", "ascii", "crc32"]

def Builtin.carries : Builtin → Bool
  | .abbr | .caps | .caps2 | .cut | .left | .right | .insert | .len | .len2 | .lower | .upper
  | .pad | .padRight | .padCut | .padCutRight | .repeatText | .replace | .rot13 | .substr
  | .stripArticle | .swapArticle | .trim | .fixEol | .directory | .directoryPath | .filename
  | .ext | .ansi | .ascii | .crc32 => true
  | _ => false

theorem Catalog.carries_of_mem :
    ∀ entry ∈ entries, entry.name ∈ carryingNames →
      entry.builtin.carries = true ∧ 1 ≤ entry.arity.least := by
  decide

/-- The functions that look at the truth of their arguments only, and reply with a truth
value or with one of the arguments. -/
def directedNames : List String := ["if", "if2", "if3", "and", "or", "not", "xor"]

def Builtin.isDirected : Builtin → Bool
  | .ifThen | .if2 | .if3 | .and | .or | .not | .xor => true
  | _ => false

theorem Catalog.isDirected_of_mem :
    ∀ entry ∈ entries, entry.name ∈ directedNames → entry.builtin.isDirected = true := by
  decide

namespace Functions

/-! ## Functions that carry the outline of their first argument -/

/-- The reply looks as the first argument does. -/
def Carries (first : Argument) (reply : Reply) : Prop :=
  reply.atom.outline = first.atom.outline

theorem ensures_carries_reading {first : Argument} {atom : Except Fault Atom}
    (carried : Ensures (fun derived => derived.outline = first.atom.outline) atom) :
    Ensures (Carries first) (reading atom) := by
  cases atom with
  | error fault =>
      exact .error fault
  | ok derived =>
      exact .ok (carried derived rfl)

section Carrying

variable {first : Argument} (sound : first.atom.FalseWhenAbsent) (rest : List Argument)

include sound

theorem outline_abbr : (abbr (first :: rest)).outline = first.atom.outline := by
  unfold abbr
  split
  · contradiction
  · next text limit given =>
      obtain ⟨rfl, -⟩ := List.cons.inj given
      split
      · rfl
      · exact Atom.outline_deriveText _ sound
  · next text others _ given =>
      obtain ⟨rfl, -⟩ := List.cons.inj given
      exact Atom.outline_deriveText _ sound

theorem ensures_outline_onText (f : List Char → List Char) :
    Ensures (fun atom => atom.outline = first.atom.outline) (onText f (first :: rest)) :=
  .ok (Atom.outline_deriveText f sound)

theorem ensures_outline_onTextChecked (f : List Char → Except Fault (List Char)) :
    Ensures (fun atom => atom.outline = first.atom.outline) (onTextChecked f (first :: rest)) :=
  Atom.ensures_outline_deriveChecked f sound

/-- Whatever the other arguments are, the reply looks as the first one does. -/
theorem ensures_carries_run (draw : UInt32) {builtin : Builtin}
    (carries : builtin.carries = true) (given : builtin.operands ≤ (first :: rest).length) :
    Ensures (Carries first) (run draw builtin (first :: rest)) := by
  cases builtin with
  | abbr =>
      exact .ok (outline_abbr sound rest)
  | caps | caps2 | len | len2 | lower | upper | trim | ansi | ascii =>
      exact ensures_carries_reading (ensures_outline_onText sound rest _)
  | replace | rot13 | fixEol | directory | directoryPath | filename | ext | crc32 =>
      exact ensures_carries_reading (ensures_outline_onTextChecked sound rest _)
  | stripArticle | swapArticle =>
      exact ensures_carries_reading
        (.bind fun _ => ensures_outline_onTextChecked sound rest _)
  | cut | left | right | repeatText | pad | padRight | padCut | padCutRight =>
      obtain ⟨second, others, rfl⟩ :=
        List.exists_cons_of_length_pos (Nat.le_of_succ_le_succ given)
      exact ensures_carries_reading (.ok (Atom.outline_deriveText _ sound))
  | insert =>
      obtain ⟨insertion, index, others, rfl⟩ := exists_eq_cons_cons (Nat.le_of_succ_le_succ given)
      rw [run, insertAt_eq]
      exact ensures_carries_reading (.ok (Atom.outline_deriveText _ sound))
  | substr =>
      obtain ⟨start, last, others, rfl⟩ := exists_eq_cons_cons (Nat.le_of_succ_le_succ given)
      rw [run, substr_eq]
      exact ensures_carries_reading (.ok (Atom.outline_deriveText _ sound))
  | _ =>
      contradiction

/-- A function that carries the outline of its first argument has a reply. -/
theorem run_carries (draw : UInt32) {builtin : Builtin} (carries : builtin.carries = true)
    (given : builtin.operands ≤ (first :: rest).length) :
    ∃ reply, run draw builtin (first :: rest) = .ok reply ∧ Carries first reply := by
  have narrow : ¬ builtin.PadsTooWide (first :: rest) := by
    rintro ⟨rfl | rfl, -⟩ <;> contradiction
  obtain ⟨reply, replied⟩ := returns_run draw given narrow
  exact ⟨reply, replied, ensures_carries_run sound rest draw carries given reply replied⟩

end Carrying

/-- What these functions reply looks the same when the first arguments do. -/
theorem outline_run_of_carries (draw : UInt32) {builtin : Builtin}
    {arguments others : List Argument} (carries : builtin.carries = true)
    (nonempty : 1 ≤ arguments.length) (given : builtin.operands ≤ arguments.length)
    (sound : ∀ argument ∈ arguments, argument.atom.FalseWhenAbsent)
    (same : arguments.map (·.atom.outline) = others.map (·.atom.outline)) :
    (run draw builtin arguments).map (·.atom.outline) =
      (run draw builtin others).map (·.atom.outline) := by
  have counted : arguments.length = others.length := by
    simpa using congrArg List.length same
  obtain ⟨first, rest, rfl⟩ := List.exists_cons_of_length_pos nonempty
  obtain ⟨other, otherRest, rfl⟩ := List.exists_cons_of_length_pos (counted ▸ nonempty)
  have alike : first.atom.outline = other.atom.outline := (List.cons.inj same).1
  have firstSound := sound first List.mem_cons_self
  have otherSound : other.atom.FalseWhenAbsent := by
    rw [Atom.falseWhenAbsent_iff_outline] at firstSound ⊢
    rwa [← alike]
  obtain ⟨reply, replied, looks⟩ := run_carries firstSound rest draw carries given
  obtain ⟨otherReply, otherReplied, otherLooks⟩ :=
    run_carries otherSound otherRest draw carries (counted ▸ given)
  rw [replied, otherReplied]
  exact congrArg Except.ok (looks.trans (alike.trans otherLooks.symm))

/-! ## Functions that go by truth -/

section Directed

variable {arguments others : List Argument}

theorem forall₂_of_map_eq {α β : Type} {f : α → β} {xs ys : List α}
    (same : xs.map f = ys.map f) : List.Forall₂ (fun x y => f x = f y) xs ys := by
  rw [← List.forall₂_eq_eq_eq, List.forall₂_map_left_iff, List.forall₂_map_right_iff] at same
  exact same

theorem ifThen_eq_of_truths (truths : arguments.map Argument.truth = others.map Argument.truth) :
    ifThen arguments = ifThen others := by
  match forall₂_of_map_eq truths with
  | .nil =>
      rfl
  | .cons _ .nil =>
      rfl
  | .cons condition (.cons _ .nil) =>
      rw [ifThen, ifThen, condition]
  | .cons condition (.cons _ (.cons _ .nil)) =>
      rw [ifThen, ifThen, condition]
  | .cons _ (.cons _ (.cons _ (.cons _ more))) =>
      simp only [ifThen, brokenSyntax, List.length_cons, more.length_eq]

/-- The condition is not among what it decides about. -/
theorem choose_ifThen_cons {condition other : Argument} (same : condition.truth = other.truth)
    (branches : List Argument) :
    choose (condition :: branches) (ifThen (condition :: branches)) =
      choose (other :: branches) (ifThen (other :: branches)) := by
  match branches with
  | [] =>
      rfl
  | [_] =>
      rw [ifThen, ifThen, same]
      cases other.truth <;> rfl
  | [_, _] =>
      rw [ifThen, ifThen, same]
      cases other.truth <;> rfl
  | _ :: _ :: _ :: _ =>
      rfl

theorem if2_eq_of_truths (truths : arguments.map Argument.truth = others.map Argument.truth) :
    if2 arguments = if2 others := by
  match forall₂_of_map_eq truths with
  | .nil =>
      rfl
  | .cons _ .nil =>
      rfl
  | .cons condition (.cons _ .nil) =>
      rw [if2, if2, condition]
  | .cons _ (.cons _ (.cons _ more)) =>
      simp only [if2, brokenSyntax, List.length_cons, more.length_eq]

theorem if3_eq_of_truths (truths : arguments.map Argument.truth = others.map Argument.truth) :
    if3 arguments = if3 others := by
  cases forall₂_of_map_eq truths with
  | nil =>
      rfl
  | cons first more =>
      cases more with
      | nil =>
          rw [if3, if3, first]
      | cons second more =>
          have candidates := congrArg List.dropLast truths
          rw [← List.map_dropLast, ← List.map_dropLast] at candidates
          have found := congrArg (List.findIdx? id) candidates
          rw [List.findIdx?_map, List.findIdx?_map, Function.id_comp] at found
          have counted := congrArg List.length candidates
          rw [List.length_map, List.length_map] at counted
          simp only [if3, found, counted]

theorem outline_picked (same : arguments.map (·.atom.outline) = others.map (·.atom.outline))
    (index : Option Nat) :
    (picked arguments index).atom.outline = (picked others index).atom.outline := by
  cases index with
  | none =>
      rfl
  | some i =>
      have here : (arguments.map (·.atom.outline))[i]? = (others.map (·.atom.outline))[i]? := by
        rw [same]
      rw [List.getElem?_map, List.getElem?_map] at here
      rw [picked, picked]
      cases asked : arguments[i]? with
      | none =>
          cases askedOther : others[i]? with
          | none =>
              rfl
          | some other =>
              simp [asked, askedOther] at here
      | some argument =>
          cases askedOther : others[i]? with
          | none =>
              simp [asked, askedOther] at here
          | some other =>
              rw [asked, askedOther] at here
              exact Option.some.inj here

theorem outline_choose (same : arguments.map (·.atom.outline) = others.map (·.atom.outline))
    (choice : Choice) :
    (choose arguments choice).atom.outline = (choose others choice).atom.outline := by
  cases choice with
  | error marker =>
      rfl
  | ok index =>
      exact outline_picked same index

theorem map_truth_eq (same : arguments.map (·.atom.outline) = others.map (·.atom.outline)) :
    arguments.map Argument.truth = others.map Argument.truth := by
  have truths := congrArg (List.map Outline.truth) same
  rwa [List.map_map, List.map_map] at truths

theorem negation_eq_of_truths
    (truths : arguments.map Argument.truth = others.map Argument.truth) :
    negation arguments = negation others := by
  cases forall₂_of_map_eq truths with
  | nil =>
      rfl
  | cons first more =>
      rw [negation, negation, first]

/-- The reply to arguments that look the same looks the same. -/
theorem outline_run_of_isDirected (draw : UInt32) {builtin : Builtin}
    (directed : builtin.isDirected = true)
    (same : arguments.map (·.atom.outline) = others.map (·.atom.outline)) :
    (run draw builtin arguments).map (·.atom.outline) =
      (run draw builtin others).map (·.atom.outline) := by
  have truths := map_truth_eq same
  cases builtin with
  | ifThen =>
      rw [run, run, ifThen_eq_of_truths truths]
      exact congrArg Except.ok (outline_choose same _)
  | if2 =>
      rw [run, run, if2_eq_of_truths truths]
      exact congrArg Except.ok (outline_choose same _)
  | if3 =>
      rw [run, run, if3_eq_of_truths truths]
      exact congrArg Except.ok (outline_picked same _)
  | and =>
      have decided := congrArg (List.all · id) truths
      simp only [List.all_map, Function.id_comp] at decided
      rw [run, run, allTrue, allTrue, decided]
  | or =>
      have decided := congrArg (List.any · id) truths
      simp only [List.any_map, Function.id_comp] at decided
      rw [run, run, anyTrue, anyTrue, decided]
  | xor =>
      have counted := congrArg (List.countP id) truths
      simp only [List.countP_map, Function.id_comp] at counted
      rw [run, run, oddTrue, oddTrue, counted]
  | not =>
      rw [run, run, negation_eq_of_truths truths]
  | _ =>
      contradiction

end Directed

end Functions

/-! ## Calls by name -/

/-- There is a function of this name, in any case, that takes so many arguments. -/
def Catalog.Takes (name : String) (count : Nat) : Prop :=
  ∃ entry ∈ entries, entry.name = canonicalName name ∧ entry.arity.accepts count = true

theorem Catalog.exists_find?_eq_some {name : String} {count : Nat} (takes : Takes name count) :
    ∃ entry, find? name count = some entry := by
  obtain ⟨entry, member, named, accepted⟩ := takes
  refine ⟨entry, ?_⟩
  rw [← find?_canonicalName, ← named, find?_of_mem member accepted]

theorem Catalog.operands_le_of_find?_eq_some {name : String} {count : Nat} {entry : CatalogEntry}
    (found : find? name count = some entry) : entry.builtin.operands ≤ count :=
  (operands_le_least entry (mem_of_find?_eq_some found).1).trans
    (Arity.least_le_of_accepts (accepts_of_find?_eq_some found))

section Calls

variable {name : String} {first : Argument} {rest : List Argument}

/-- A call of a function that changes a text has a reply, and it looks as the text does. -/
theorem invoke_carries (draw : UInt32) (named : Catalog.canonicalName name ∈ carryingNames)
    (takes : Catalog.Takes name (rest.length + 1)) (sound : first.atom.FalseWhenAbsent) :
    ∃ reply, invoke draw name (first :: rest) = .ok reply ∧ Functions.Carries first reply := by
  obtain ⟨entry, found⟩ := Catalog.exists_find?_eq_some takes
  obtain ⟨member, entryNamed⟩ := Catalog.mem_of_find?_eq_some found
  obtain ⟨carries, -⟩ := Catalog.carries_of_mem entry member (entryNamed ▸ named)
  have given := Catalog.operands_le_of_find?_eq_some found
  rw [invoke, List.length_cons, found]
  exact Functions.run_carries sound rest draw carries given

/-- Calls of either family reply alike to arguments that look the same. -/
theorem outline_invoke (draw : UInt32) {arguments others : List Argument}
    (named : Catalog.canonicalName name ∈ carryingNames ++ directedNames)
    (sound : ∀ argument ∈ arguments, argument.atom.FalseWhenAbsent)
    (same : arguments.map (·.atom.outline) = others.map (·.atom.outline)) :
    (invoke draw name arguments).map (·.atom.outline) =
      (invoke draw name others).map (·.atom.outline) := by
  have counted : arguments.length = others.length := by
    simpa using congrArg List.length same
  rw [invoke, invoke, ← counted]
  cases found : Catalog.find? name arguments.length with
  | none =>
      rw [counted]
  | some entry =>
      obtain ⟨member, entryNamed⟩ := Catalog.mem_of_find?_eq_some found
      rw [← entryNamed, List.mem_append] at named
      rcases named with carrying | directed
      · have given := Catalog.operands_le_of_find?_eq_some found
        obtain ⟨carries, least⟩ := Catalog.carries_of_mem entry member carrying
        have nonempty := least.trans
          (Arity.least_le_of_accepts (Catalog.accepts_of_find?_eq_some found))
        exact Functions.outline_run_of_carries draw carries nonempty given sound same
      · exact Functions.outline_run_of_isDirected draw
          (Catalog.isDirected_of_mem entry member directed) same

theorem invoke_if_cons (draw : UInt32) {condition other : Argument}
    (named : Catalog.canonicalName name = "if") (same : condition.truth = other.truth)
    (branches : List Argument) :
    invoke draw name (condition :: branches) = invoke draw name (other :: branches) := by
  have member : ⟨"if", .ifThen, .atLeast 0, .control⟩ ∈ Catalog.entries := by
    decide
  have found (count : Nat) : Catalog.find? name count =
      some ⟨"if", .ifThen, .atLeast 0, .control⟩ := by
    have accepted : (Arity.atLeast 0).accepts count = true := by
      simp [Arity.accepts]
    rw [← Catalog.find?_canonicalName, named]
    exact Catalog.find?_of_mem member accepted
  rw [invoke, invoke, found, found]
  exact congrArg Except.ok (Functions.choose_ifThen_cons same branches)

end Calls

end TitleFormatting

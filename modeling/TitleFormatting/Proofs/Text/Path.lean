import Mathlib.Data.List.GetD
import Mathlib.Data.List.TakeWhile
import TitleFormatting.Proofs.Except
import TitleFormatting.Proofs.Text.Offsets
import TitleFormatting.Text.Path

/-!
# Paths taken apart

A path is cut at its last separator, and the component behind that at the dot of its
extension.  The pieces are all of the path, and the directories above a file are those that
are reached by cutting again.
-/

namespace TitleFormatting.Text.Path

/-! ## The last separator -/

/-- No character of the text separates components. -/
def SeparatorFree (text : List Char) : Prop := ∀ c ∈ text, isSeparator c = false

/-- A path with its directory and its last component: the path is the component and has no
directory, or its last separator stands between the two. -/
inductive IsSplit : List Char → List Char → List Char → Prop where
  | whole {last : List Char} : SeparatorFree last → IsSplit last [] last
  | behind {directory last : List Char} {separator : Char} :
      isSeparator separator = true → SeparatorFree last →
        IsSplit (directory ++ separator :: last) directory last

variable {path upper last : List Char}

theorem IsSplit.separatorFree (split : IsSplit path upper last) : SeparatorFree last := by
  cases split with
  | whole free =>
      exact free
  | behind separates free =>
      exact free

theorem exists_isSplit (path : List Char) :
    ∃ upper last, IsSplit path upper last ∧ parent path = .ok upper := by
  rw [parent]
  cases found : lastOffset? isSeparator path with
  | none =>
      exact ⟨[], path, .whole (lastOffset?_eq_none found), rfl⟩
  | some offset =>
      obtain ⟨before, separator, after, rfl, rfl, separates, free⟩ :=
        exists_of_lastOffset?_eq_some found
      exact ⟨before, after, .behind separates free, textBefore_utf8Length _ _⟩

theorem fileName_of_isSplit (split : IsSplit path upper last) : fileName path = last := by
  have kept : last.reverse.takeWhile (!isSeparator ·) = last.reverse := by
    apply List.takeWhile_eq_self_iff.mpr
    intro c member
    rw [split.separatorFree c (List.mem_reverse.mp member)]
    rfl
  rw [fileName]
  cases split with
  | whole =>
      rw [kept, List.reverse_reverse]
  | behind separates free =>
      -- Read from the end, the last component is followed by its separator.
      rw [List.reverse_append, List.reverse_cons, List.append_assoc,
        List.takeWhile_append_of_pos, List.singleton_append, List.takeWhile_cons_of_neg,
        List.append_nil, List.reverse_reverse]
      · rw [separates]
        exact Bool.false_ne_true
      · exact List.takeWhile_eq_self_iff.mp kept

/-! ## Components -/

theorem components_ne_nil (path : List Char) : components path ≠ [] := by
  cases path with
  | nil =>
      simp [components]
  | cons c rest =>
      rw [components]
      split
      · simp
      · split <;> simp

theorem components_of_separatorFree (free : SeparatorFree path) : components path = [path] := by
  induction path with
  | nil =>
      rfl
  | cons c rest inductionHypothesis =>
      obtain ⟨first, others⟩ := List.forall_mem_cons.mp free
      rw [components, first, inductionHypothesis others]
      rfl

/-- A separator stands between the components before it and those behind it. -/
theorem components_append_cons {separator : Char} (separates : isSeparator separator = true)
    (front rest : List Char) :
    components (front ++ separator :: rest) = components front ++ components rest := by
  induction front with
  | nil =>
      exact if_pos separates
  | cons c front inductionHypothesis =>
      rw [List.cons_append, components, components, inductionHypothesis]
      by_cases here : isSeparator c = true
      · rw [if_pos here, if_pos here, List.cons_append]
      · rw [if_neg here, if_neg here]
        cases parts : components front with
        | nil =>
            exact absurd parts (components_ne_nil front)
        | cons first others =>
            rfl

/-- Seen from the last component, the others are those of the directory. -/
theorem reverse_components_append_cons {separator : Char}
    (separates : isSeparator separator = true) (free : SeparatorFree last) (front : List Char) :
    (components (front ++ separator :: last)).reverse = last :: (components front).reverse := by
  rw [components_append_cons separates, components_of_separatorFree free, List.reverse_append,
    List.reverse_singleton, List.singleton_append]

theorem exists_reverse_components (split : IsSplit path upper last) :
    ∃ others, (components path).reverse = last :: others := by
  cases split with
  | whole free =>
      rw [components_of_separatorFree free]
      exact ⟨[], rfl⟩
  | behind separates free =>
      exact ⟨_, reverse_components_append_cons separates free upper⟩

/-! ## Directories above a file -/

theorem directory_zero (path : List Char) : directory 0 path = .ok [] := by
  rw [directory, difference_eq (List.length_pos_iff.mpr (components_ne_nil path))]
  rfl

/-- The directory that many levels above the file, counted from the last component. -/
theorem directory_eq {levels : Nat} (positive : 1 ≤ levels) (path : List Char) :
    directory levels path = .ok ((components path).reverse.getD levels []) := by
  have someComponent := List.length_pos_iff.mpr (components_ne_nil path)
  rw [directory, difference_eq someComponent]
  by_cases beyond : (components path).length ≤ levels
  · have missing : (components path).reverse.getD levels [] = [] := by
      apply List.getD_eq_default
      rw [List.length_reverse]
      exact beyond
    have above : (decide (levels = 0) || decide ((components path).length - 1 < levels)) =
        true := by
      rw [Bool.or_eq_true, decide_eq_true_eq, decide_eq_true_eq]
      omega
    rw [missing]
    exact if_pos above
  · have within : (components path).length - 1 - levels < (components path).length := by
      omega
    have counted : (components path).reverse.getD levels [] =
        (components path)[(components path).length - 1 - levels] := by
      rw [List.getD_eq_getElem _ _ (by rw [List.length_reverse]; omega), List.getElem_reverse]
    have element : elementAt (components path) ((components path).length - 1 - levels) =
        .ok (components path)[(components path).length - 1 - levels] := by
      rw [elementAt, List.getElem?_eq_getElem within]
    have reached : ¬ (decide (levels = 0) || decide ((components path).length - 1 < levels)) =
        true := by
      rw [Bool.or_eq_true, decide_eq_true_eq, decide_eq_true_eq]
      omega
    rw [counted, ← element]
    exact if_neg reached

theorem directory_append_cons {separator : Char} {levels : Nat}
    (separates : isSeparator separator = true) (free : SeparatorFree last) (front : List Char) :
    directory (levels + 1) (front ++ separator :: last) =
      .ok ((components front).reverse.getD levels []) := by
  rw [directory_eq (Nat.le_add_left 1 levels), reverse_components_append_cons separates free,
    List.getD_cons_succ]

theorem directory_of_separatorFree {levels : Nat} (positive : 1 ≤ levels)
    (free : SeparatorFree path) : directory levels path = .ok [] := by
  obtain ⟨fewer, rfl⟩ := Nat.exists_eq_add_of_le' positive
  rw [directory_eq positive, components_of_separatorFree free]
  rfl

/-- One level more above a file is reached from its directory. -/
theorem directory_succ_of_isSplit {levels : Nat} (positive : 1 ≤ levels)
    (split : IsSplit path upper last) :
    directory (levels + 1) path = directory levels upper := by
  cases split with
  | whole free =>
      rw [directory_of_separatorFree (Nat.le_add_left 1 levels) free,
        directory_of_separatorFree positive (List.forall_mem_nil _)]
  | behind separates free =>
      rw [directory_append_cons separates free, directory_eq positive]

/-- The name of the directory that a file is in, if it is in one. -/
structure IsFolder (path upper folder : List Char) : Prop where
  alone : SeparatorFree path → folder = []
  within : ¬ SeparatorFree path → ∃ above, IsSplit upper above folder

theorem exists_isFolder (split : IsSplit path upper last) :
    ∃ folder, IsFolder path upper folder ∧ directory 1 path = .ok folder := by
  cases split with
  | whole free =>
      refine ⟨[], ⟨fun _ => rfl, fun separated => absurd free separated⟩, ?_⟩
      exact directory_of_separatorFree (Nat.le_refl 1) free
  | behind separates free =>
      obtain ⟨above, folder, split, -⟩ := exists_isSplit upper
      refine ⟨folder, ⟨?_, fun _ => ⟨above, split⟩⟩, ?_⟩
      · intro joined
        have refused := joined _ (List.mem_append_right _ List.mem_cons_self)
        rw [separates] at refused
        contradiction
      · obtain ⟨others, reversed⟩ := exists_reverse_components split
        rw [directory_append_cons separates free, reversed]
        rfl

/-! ## Names and extensions -/

/-- The name of a file without its extension and the extension, behind the last dot that the
name does not begin with. -/
inductive IsNamed : List Char → List Char → List Char → Prop where
  | plain {name : List Char} : '.' ∉ name.tail → IsNamed name name []
  | dotted {name extension : List Char} :
      name ≠ [] → '.' ∉ extension → IsNamed (name ++ '.' :: extension) name extension

theorem exists_isNamed (path : List Char) :
    ∃ name suffix, IsNamed (fileName path) name suffix ∧
      stem path = .ok name ∧ extension path = .ok suffix := by
  have dotless {text : List Char} (others : ∀ c ∈ text, (c == '.') = false) : '.' ∉ text := by
    intro member
    exact absurd (others '.' member) (by decide)
  rw [stem, extension, extensionDot?]
  cases found : lastOffset? (· == '.') (fileName path) with
  | none =>
      refine ⟨fileName path, [], .plain fun member => ?_, rfl, rfl⟩
      exact dotless (lastOffset?_eq_none found) (List.mem_of_mem_tail member)
  | some offset =>
      obtain ⟨name, c, suffix, written, rfl, dot, others⟩ :=
        exists_of_lastOffset?_eq_some found
      obtain rfl := eq_of_beq dot
      rw [written]
      cases name with
      | nil =>
          exact ⟨'.' :: suffix, [], .plain (dotless others), rfl, rfl⟩
      | cons first rest =>
          have behind : 0 < utf8Length (first :: rest) :=
            Nat.add_pos_left first.utf8Size_pos _
          have cut := textFrom_utf8Length (first :: rest ++ ['.']) suffix
          rw [utf8Length_append, List.append_assoc] at cut
          have kept : (some (utf8Length (first :: rest))).filter (0 < ·) =
              some (utf8Length (first :: rest)) :=
            if_pos (decide_eq_true behind)
          rw [kept]
          exact ⟨first :: rest, suffix, .dotted (List.cons_ne_nil _ _) (dotless others),
            textBefore_utf8Length _ _, cut⟩

/-- A path taken apart: its directory and the name of that, its last component, and the name
and the extension of that. -/
structure IsTakenApart (path upper folder last name suffix : List Char) : Prop where
  split : IsSplit path upper last
  folder : IsFolder path upper folder
  named : IsNamed last name suffix
  name_free : SeparatorFree name
  suffix_free : SeparatorFree suffix
  suffix_plain : '.' ∉ suffix

theorem IsNamed.suffix_plain {name suffix : List Char} (named : IsNamed last name suffix) :
    '.' ∉ suffix := by
  cases named with
  | plain =>
      exact List.not_mem_nil
  | dotted someName plain =>
      exact plain

theorem IsNamed.separatorFree {name suffix : List Char} (named : IsNamed last name suffix)
    (free : SeparatorFree last) : SeparatorFree name ∧ SeparatorFree suffix := by
  cases named with
  | plain =>
      exact ⟨free, List.forall_mem_nil _⟩
  | dotted =>
      obtain ⟨nameFree, dotFree⟩ := List.forall_mem_append.mp free
      exact ⟨nameFree, (List.forall_mem_cons.mp dotFree).2⟩

theorem exists_isTakenApart (path : List Char) :
    ∃ upper folder last name suffix, IsTakenApart path upper folder last name suffix ∧
      parent path = .ok upper ∧ directory 1 path = .ok folder ∧ stem path = .ok name ∧
      extension path = .ok suffix := by
  obtain ⟨upper, last, split, cut⟩ := exists_isSplit path
  obtain ⟨folder, isFolder, reached⟩ := exists_isFolder split
  obtain ⟨name, suffix, named, stemmed, extended⟩ := exists_isNamed path
  rw [fileName_of_isSplit split] at named
  obtain ⟨nameFree, suffixFree⟩ := named.separatorFree split.separatorFree
  exact ⟨upper, folder, last, name, suffix,
    ⟨split, isFolder, named, nameFree, suffixFree, named.suffix_plain⟩,
    cut, reached, stemmed, extended⟩

end TitleFormatting.Text.Path

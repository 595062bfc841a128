import TitleFormatting.Proofs.Functions.Calls
import TitleFormatting.Proofs.Returning

/-!
# Functions on paths

What the path functions yield are the pieces that a path is taken apart into, so that nothing
of the path is lost between them.
-/

namespace TitleFormatting

namespace Functions

open Text.Path

variable {text : Argument}

theorem invoke_directory (draw : UInt32) (present : text.atom.isPresent = true)
    (levels : Option Argument) {folder : List Char}
    (ends : Text.Path.directory ((levels.map Argument.count).getD 1) text.characters =
      .ok folder) :
    invoke draw "directory" (text :: levels.toList) = .ok (changed text folder) := by
  have member : ⟨"directory", .directory, .range 1 2, .path⟩ ∈ Catalog.entries := by
    decide
  have accepted : (Arity.range 1 2).accepts (text :: levels.toList).length = true := by
    cases levels <;> rfl
  have asked : (text :: levels.toList)[1]? = levels := by
    cases levels <;> rfl
  rw [← asked] at ends
  rw [invoke_of_mem draw member accepted, run, directory,
    onTextChecked_of_isPresent present ends]
  rfl

/-- The path functions take a path apart without loss: the directory, the separator behind it
and the last component are the path, and the name, a dot and the extension are the last
component unless that has no extension.  The directory one level above is the one that the
path is in, and each level more is reached from there. -/
theorem path_taken_apart (draw : UInt32) (text : Argument)
    (present : text.atom.isPresent = true) :
    ∃ upper folder last name suffix,
      IsTakenApart text.characters upper folder last name suffix ∧
      invoke draw "directory_path" [text] = .ok (changed text upper) ∧
      invoke draw "filename" [text] = .ok (changed text name) ∧
      invoke draw "ext" [text] = .ok (changed text suffix) ∧
      invoke draw "directory" [text] = .ok (changed text folder) ∧
      (∀ one : Argument, one.count = 1 →
        invoke draw "directory" [text, one] = .ok (changed text folder)) ∧
      ∀ above levels next : Argument,
        invoke draw "directory_path" [text] = .ok (.value above.atom .all) →
        1 ≤ levels.count → next.count = levels.count + 1 →
        invoke draw "directory" [text, next] = invoke draw "directory" [above, levels] := by
  obtain ⟨upper, folder, last, name, suffix, apart, cut, reached, stemmed, extended⟩ :=
    exists_isTakenApart text.characters
  have path : invoke draw "directory_path" [text] = .ok (changed text upper) := by
    have member : ⟨"directory_path", .directoryPath, .exact 1, .path⟩ ∈ Catalog.entries := by
      decide
    exact invoke_onTextChecked draw member rfl rfl present cut
  refine ⟨upper, folder, last, name, suffix, apart, path, ?name, ?suffix, ?folder, ?one,
    ?next⟩
  case name =>
    have member : ⟨"filename", .filename, .exact 1, .path⟩ ∈ Catalog.entries := by
      decide
    exact invoke_onTextChecked draw member rfl rfl present stemmed
  case suffix =>
    have member : ⟨"ext", .ext, .exact 1, .path⟩ ∈ Catalog.entries := by
      decide
    exact invoke_onTextChecked draw member rfl rfl present extended
  case folder =>
    exact invoke_directory draw present none reached
  case one =>
    intro one counted
    rw [← counted] at reached
    exact invoke_directory draw present (some one) reached
  case next =>
    intro above levels next replied positive counted
    have atom : above.atom = ⟨some (String.ofList upper), text.truth⟩ :=
      (Reply.value.inj (Except.ok.inj (replied.symm.trans path))).1
    have abovePresent : above.atom.isPresent = true := by
      rw [atom]
      rfl
    have aboveText : above.characters = upper := by
      rw [Argument.characters, Argument.text, atom]
      exact String.toList_ofList
    obtain ⟨found, ends⟩ := returns_directory levels.count upper
    have step := directory_succ_of_isSplit positive apart.split
    rw [← counted, ends] at step
    rw [← aboveText] at ends
    have here : invoke draw "directory" [text, next] = .ok (changed text found) :=
      invoke_directory draw present (some next) step
    have there : invoke draw "directory" [above, levels] = .ok (changed above found) :=
      invoke_directory draw abovePresent (some levels) ends
    have alike : above.truth = text.truth := by
      rw [Argument.truth, atom]
    rw [here, there, changed, changed, alike]

/-- A separator may be doubled and stand at the front, and a dot may stand in a directory. -/
theorem path_taken_apart_mixed :
    let text : Argument := ⟨.found "\\Ä//日.x|01. Ö.flac", false⟩
    let above : Argument := ⟨.found "\\Ä//日.x", false⟩
    let number (numeral : String) : Argument := ⟨.literal numeral, false⟩
    text.atom.isPresent = true ∧
      IsTakenApart text.characters "\\Ä//日.x".toList "日.x".toList "01. Ö.flac".toList
        "01. Ö".toList "flac".toList ∧
      (number "1").count = 1 ∧
      invoke 0 "directory" [text, number "1"] = .ok (changed text "日.x".toList) ∧
      invoke 0 "directory_path" [text] = .ok (.value above.atom .all) ∧
      1 ≤ (number "2").count ∧ (number "3").count = (number "2").count + 1 ∧
      invoke 0 "directory" [text, number "3"] = invoke 0 "directory" [above, number "2"] := by
  intro text above number
  have counts : (number "1").count = 1 ∧ (number "2").count = 2 ∧ (number "3").count = 3 := by
    decide
  obtain ⟨one, two, three⟩ := counts
  obtain ⟨upper, folder, last, name, suffix, apart, path, named, extended, reached, level,
    next⟩ := path_taken_apart 0 text rfl
  have parent : invoke 0 "directory_path" [text] = .ok (.value above.atom .all) := by
    cbv
  have replies : invoke 0 "filename" [text] = .ok (changed text "01. Ö".toList) ∧
      invoke 0 "ext" [text] = .ok (changed text "flac".toList) ∧
      invoke 0 "directory" [text] = .ok (changed text "日.x".toList) := by
    refine ⟨?_, ?_, ?_⟩ <;> cbv
  obtain ⟨nameReply, suffixReply, folderReply⟩ := replies
  obtain rfl : upper = "\\Ä//日.x".toList :=
    eq_of_changed_eq (Except.ok.inj (path.symm.trans parent))
  obtain rfl := eq_of_changed_eq (Except.ok.inj (named.symm.trans nameReply))
  obtain rfl := eq_of_changed_eq (Except.ok.inj (extended.symm.trans suffixReply))
  obtain rfl := eq_of_changed_eq (Except.ok.inj (reached.symm.trans folderReply))
  obtain rfl : "01. Ö.flac".toList = last := by
    rw [← fileName_of_isSplit apart.split]
    decide
  rw [two, three]
  exact ⟨rfl, apart, one, level _ one, parent, by decide, rfl,
    next above _ _ parent (by rw [two]; decide) (by rw [two, three])⟩

end Functions

end TitleFormatting

import TitleFormatting.Proofs.Functions.Calls

/-!
# Texts padded and cut

Padding fills a text up to a width, on either side, and leaves a text that is wide enough as it
is.  Cutting the padded text gives exactly the width.  To do either once more changes nothing,
since what comes out has the width already.
-/

namespace TitleFormatting

namespace Functions

/-! ## Filling up to a width -/

/-- A change of texts that leaves those of this width as they are and gives the width to
shorter ones. -/
structure FillsUpTo (width : Nat) (fill : List Char → List Char) : Prop where
  keeps : ∀ text, width ≤ text.length → fill text = text
  reaches : ∀ text, text.length ≤ width → (fill text).length = width

/-- Where a text is filled up. -/
inductive Side where
  | behind
  | before
deriving DecidableEq, Repr

/-- The text with fill characters on this side. -/
def Side.fill : Side → Nat → Char → List Char → List Char
  | .behind => fillBehind
  | .before => fillBefore

/-- The text filled up with blanks and cut to the width. -/
def Side.cut (side : Side) (width : Nat) (text : List Char) : List Char :=
  (side.fill width ' ' text).take width

theorem Side.fillsUpTo (side : Side) (width : Nat) (c : Char) :
    FillsUpTo width (side.fill width c) := by
  cases side with
  | behind =>
      refine ⟨fun text wide => ?_, fun text narrow => ?_⟩
      · rw [fill, fillBehind, Nat.sub_eq_zero_of_le wide, List.replicate_zero, List.append_nil]
      · rw [fill, fillBehind, List.length_append, List.length_replicate,
          Nat.add_sub_cancel' narrow]
  | before =>
      refine ⟨fun text wide => ?_, fun text narrow => ?_⟩
      · rw [fill, fillBefore, Nat.sub_eq_zero_of_le wide, List.replicate_zero, List.nil_append]
      · rw [fill, fillBefore, List.length_append, List.length_replicate,
          Nat.sub_add_cancel narrow]

namespace FillsUpTo

variable {width : Nat} {fill : List Char → List Char} (fills : FillsUpTo width fill)

include fills

theorem le_length (text : List Char) : width ≤ (fill text).length := by
  rcases Nat.le_total width text.length with wide | narrow
  · rwa [fills.keeps text wide]
  · exact (fills.reaches text narrow).ge

theorem idempotent (text : List Char) : fill (fill text) = fill text :=
  fills.keeps _ (fills.le_length text)

theorem length_cut (text : List Char) : ((fill text).take width).length = width :=
  List.length_take_of_le (fills.le_length text)

theorem cut_of_le {text : List Char} (wide : width ≤ text.length) :
    (fill text).take width = text.take width := by
  rw [fills.keeps text wide]

theorem cut_of_length_le {text : List Char} (narrow : text.length ≤ width) :
    (fill text).take width = fill text :=
  List.take_of_length_le (fills.reaches text narrow).le

theorem cut_idempotent (text : List Char) :
    (fill ((fill text).take width)).take width = (fill text).take width := by
  have wide := (fills.length_cut text).ge
  rw [fills.keeps _ wide, List.take_take, Nat.min_self]

end FillsUpTo

/-! ## Calls -/

/-- The function that fills up on this side. -/
def Side.name : Side → String
  | .behind => "pad"
  | .before => "pad_right"

/-- The function that fills up on this side and cuts. -/
def Side.cutName : Side → String
  | .behind => "padcut"
  | .before => "padcut_right"

/-- The character that a call fills up with. -/
def fillOf (fill : Option Argument) : Char :=
  (fill.bind fun argument => argument.characters.head?).getD ' '

theorem padding_eq (text width : Argument) (fill : Option Argument) :
    padding (text :: width :: fill.toList) = .ok (text, widthOf width, fillOf fill) := by
  cases fill <;> rfl

theorem invoke_side_name (draw : UInt32) (side : Side) {text : Argument}
    (present : text.atom.isPresent = true) (width : Argument) (fill : Option Argument) :
    invoke draw side.name (text :: width :: fill.toList) =
      .ok (changed text (side.fill (widthOf width) (fillOf fill) text.characters)) := by
  have accepted : (Arity.range 2 3).accepts (text :: width :: fill.toList).length = true := by
    cases fill <;> rfl
  cases side with
  | behind =>
      have member : ⟨"pad", .pad, .range 2 3, .string⟩ ∈ Catalog.entries := by
        decide
      refine invoke_deriveText draw _ member accepted ?_ present
      rw [run, pad, padding_eq]
      rfl
  | before =>
      have member : ⟨"pad_right", .padRight, .range 2 3, .string⟩ ∈ Catalog.entries := by
        decide
      refine invoke_deriveText draw _ member accepted ?_ present
      rw [run, padRight, padding_eq]
      rfl

theorem invoke_side_cutName (draw : UInt32) (side : Side) {text : Argument}
    (present : text.atom.isPresent = true) (width : Argument) :
    invoke draw side.cutName [text, width] =
      .ok (changed text (side.cut (widthOf width) text.characters)) := by
  cases side with
  | behind =>
      have member : ⟨"padcut", .padCut, .exact 2, .string⟩ ∈ Catalog.entries := by
        decide
      exact invoke_deriveText draw (Side.behind.cut (widthOf width)) member rfl rfl present
  | before =>
      have member : ⟨"padcut_right", .padCutRight, .exact 2, .string⟩ ∈ Catalog.entries := by
        decide
      exact invoke_deriveText draw (Side.before.cut (widthOf width)) member rfl rfl present

/-- The function makes of its own reply to the text what it replied. -/
def IsSettledBy (draw : UInt32) (name : String) (text : Argument) (given : List Argument) :
    Prop :=
  ∀ padded : Argument, invoke draw name (text :: given) = .ok (.value padded.atom .all) →
    invoke draw name (padded :: given) = .ok (.value padded.atom .all)

theorem isSettledBy_of_idempotent {draw : UInt32} {name : String} {given : List Argument}
    {f : List Char → List Char}
    (called : ∀ text : Argument, text.atom.isPresent = true →
      invoke draw name (text :: given) = .ok (changed text (f text.characters)))
    (idempotent : ∀ t, f (f t) = f t) {text : Argument}
    (present : text.atom.isPresent = true) : IsSettledBy draw name text given := by
  intro padded replied
  have reply : Reply.value padded.atom .all = changed text (f text.characters) :=
    Except.ok.inj (replied.symm.trans (called text present))
  obtain ⟨paddedPresent, characters, truth⟩ := of_value_eq_changed reply
  rw [called padded paddedPresent, characters, idempotent, reply, changed, changed, truth]

/-- A text is padded to the width that is asked for, held at the greatest one, with copies of
one character on either side, and it is kept whole.  What is cut has exactly this width: it is
the front of a text that is wide enough, and any other text padded with blanks.  To pad once
more changes nothing. -/
theorem padding_fills_widths (draw : UInt32) {text : Argument}
    (present : text.atom.isPresent = true) (width : Argument) :
    let asked := min width.count 65536
    (∀ fill : Option Argument,
      invoke draw "pad" (text :: width :: fill.toList) =
        .ok (changed text
          (text.characters ++ List.replicate (asked - text.length) (fillOf fill))) ∧
      invoke draw "pad_right" (text :: width :: fill.toList) =
        .ok (changed text
          (List.replicate (asked - text.length) (fillOf fill) ++ text.characters))) ∧
    (∀ side : Side, ∃ cut,
      invoke draw side.cutName [text, width] = .ok (changed text cut) ∧
      cut.length = asked ∧
      (asked ≤ text.length → cut = text.characters.take asked) ∧
      (text.length < asked → ∀ fill : Option Argument, fillOf fill = ' ' →
        invoke draw side.name (text :: width :: fill.toList) = .ok (changed text cut))) ∧
    ∀ side : Side, IsSettledBy draw side.cutName text [width] ∧
      ∀ fill : Option Argument,
        IsSettledBy draw side.name text (width :: fill.toList) := by
  intro asked
  refine ⟨fun fill => ⟨?behind, ?before⟩, fun side => ?cut, fun side => ⟨?cutAgain, ?again⟩⟩
  case behind =>
    exact invoke_side_name draw .behind present width fill
  case before =>
    exact invoke_side_name draw .before present width fill
  case cut =>
    have fills : FillsUpTo asked (side.fill asked ' ') := side.fillsUpTo asked ' '
    refine ⟨_, invoke_side_cutName draw side present width, fills.length_cut _,
      fills.cut_of_le, ?_⟩
    intro narrow fill blank
    have whole : side.cut asked text.characters = side.fill asked ' ' text.characters :=
      fills.cut_of_length_le narrow.le
    rw [invoke_side_name draw side present, blank]
    exact congrArg (fun derived => Except.ok (changed text derived)) whole.symm
  case cutAgain =>
    have idempotent := (side.fillsUpTo (widthOf width) ' ').cut_idempotent
    exact isSettledBy_of_idempotent
      (fun _ other => invoke_side_cutName draw side other width) idempotent present
  case again =>
    intro fill
    have idempotent := (side.fillsUpTo (widthOf width) (fillOf fill)).idempotent
    exact isSettledBy_of_idempotent
      (fun _ other => invoke_side_name draw side other width fill) idempotent present

/-- Only the first character of the fill counts, and a width may be enormous or too small. -/
theorem padding_fills_widths_sample :
    let argument (text : String) : Argument := ⟨.literal text, false⟩
    let text : Argument := ⟨.found "日Ä", false⟩
    let padded : Argument := ⟨.found "日Äßß", false⟩
    text.atom.isPresent = true ∧
      invoke 0 "pad" [text, argument "4", argument "ß-"] = .ok (.value padded.atom .all) ∧
      invoke 0 "pad" [padded, argument "4", argument "ß-"] = .ok (.value padded.atom .all) ∧
      invoke 0 "pad_right" [text, argument "99999999999999999999"] =
        .ok (changed text (List.replicate 65534 ' ' ++ text.characters)) ∧
      (∃ cut, invoke 0 "padcut_right" [text, argument "1"] = .ok (changed text cut) ∧
        cut.length = 1 ∧ cut = "日".toList) ∧
      ∃ cut, invoke 0 "padcut_right" [text, argument "4"] = .ok (changed text cut) ∧
        cut.length = 4 ∧
        invoke 0 "pad_right" [text, argument "4", argument ""] = .ok (changed text cut) := by
  intro argument text padded
  have present : text.atom.isPresent = true := rfl
  have asked : min (argument "1").count 65536 = 1 ∧ min (argument "4").count 65536 = 4 ∧
      min (argument "99999999999999999999").count 65536 - text.length = 65534 := by
    decide
  obtain ⟨isOne, isFour, missing⟩ := asked
  have front : text.characters.take 1 = "日".toList := by
    decide
  have replied : invoke 0 "pad" [text, argument "4", argument "ß-"] =
      .ok (.value padded.atom .all) := by
    cbv
  obtain ⟨-, cutFour, settled⟩ := padding_fills_widths 0 present (argument "4")
  obtain ⟨-, cutOne, -⟩ := padding_fills_widths 0 present (argument "1")
  obtain ⟨filled, -⟩ := padding_fills_widths 0 present (argument "99999999999999999999")
  obtain ⟨narrow, narrowReply, narrowLength, isFront, -⟩ := cutOne .before
  obtain ⟨wide, wideReply, wideLength, -, isPadded⟩ := cutFour .before
  obtain ⟨-, enormous⟩ := filled none
  rw [missing] at enormous
  rw [isOne] at narrowLength isFront
  rw [isFour] at wideLength isPadded
  exact ⟨present, replied, (settled .behind).2 (some (argument "ß-")) padded replied, enormous,
    ⟨narrow, narrowReply, narrowLength, (isFront (by decide)).trans front⟩,
    wide, wideReply, wideLength, isPadded (by decide) (some (argument "")) (by decide)⟩

end Functions

end TitleFormatting

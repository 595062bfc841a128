import TitleFormatting.Formatter
import TitleFormatting.Proofs.Functions.Calls
import TitleFormatting.Proofs.Functions.Returning
import TitleFormatting.Proofs.Text.Casing

/-!
# Leading articles

An article leads a text when a space follows what `$stricmp` takes for the article.  The
text is cut behind as many bytes as the article has, so that a variant of another size is
not recognised.  The first article that is recognised decides.
-/

namespace TitleFormatting

namespace Functions

open Text

/-! ## Texts that differ in case only -/

theorem invoke_stricmp (draw : UInt32) (first second : Argument) :
    invoke draw "stricmp" [first, second] =
      .ok (.value (.boolean (lower first.characters == lower second.characters)) .all) := by
  have member : ⟨"stricmp", .stricmp, .exact 2, .string⟩ ∈ Catalog.entries := by
    decide
  rw [invoke_of_mem draw member rfl]
  rfl

/-- `$stricmp` takes the texts for equal, whatever arguments they are the texts of. -/
def EqualInAnyCase (first second : List Char) : Prop :=
  ∀ (draw : UInt32) (a b : Argument), a.characters = first → b.characters = second →
    invoke draw "stricmp" [a, b] = .ok (.value (.boolean true) .all)

theorem equalInAnyCase_iff {first second : List Char} :
    EqualInAnyCase first second ↔ lower first = lower second := by
  constructor
  · intro equal
    obtain ⟨a, rfl⟩ : ∃ a : Argument, a.characters = first :=
      ⟨⟨.literal (String.ofList first), false⟩, String.toList_ofList⟩
    obtain ⟨b, rfl⟩ : ∃ b : Argument, b.characters = second :=
      ⟨⟨.literal (String.ofList second), false⟩, String.toList_ofList⟩
    have compared := equal 0 a b rfl rfl
    rw [invoke_stricmp] at compared
    cases same : lower a.characters == lower b.characters with
    | true =>
        exact eq_of_beq same
    | false =>
        rw [same] at compared
        contradiction
  · intro same draw a b firstText secondText
    rw [invoke_stricmp, firstText, secondText, same, beq_self_eq_true]

/-! ## Articles in front of a text -/

/-- The text begins with the article in any case and goes on behind a space. -/
structure LedBy (text article head rest : List Char) : Prop where
  article_ne_nil : article ≠ []
  written : text = head ++ ' ' :: rest
  rest_ne_nil : rest ≠ []
  equal : EqualInAnyCase head article

/-- The article stands there in its own size. -/
structure Recognized (text article head rest : List Char) : Prop
    extends LedBy text article head rest where
  size : utf8Length head = utf8Length article

variable {text article head rest : List Char}

theorem splitArticle_of_recognized (recognized : Recognized text article head rest) :
    splitArticle text article = .ok (some (head, rest)) := by
  obtain ⟨⟨someArticle, rfl, someRest, equal⟩, size⟩ := recognized
  rw [splitArticle, ← size, splitAtBytes_utf8Length, textFrom_utf8Length]
  have holds : (!article.isEmpty && !rest.isEmpty && lower head == lower article) = true := by
    simp [someArticle, someRest, equalInAnyCase_iff.mp equal]
  exact if_pos holds

theorem splitArticle_of_not_recognized
    (passed : ∀ head rest, ¬ Recognized text article head rest) :
    splitArticle text article = .ok none := by
  rw [splitArticle]
  cases cut : splitAtBytes (utf8Length article) text with
  | none =>
      rfl
  | some parts =>
      obtain ⟨head, after⟩ := parts
      obtain ⟨written, size⟩ := eq_of_splitAtBytes_eq_some cut
      rw [size, written, textFrom_utf8Length]
      dsimp only [bind, Except.bind]
      -- The head has the size of the article, so a split here would be one that is recognised.
      split
      next rest =>
        refine if_neg fun holds => ?_
        rw [Bool.and_eq_true, Bool.and_eq_true, beq_iff_eq] at holds
        obtain ⟨⟨someArticle, someRest⟩, same⟩ := holds
        refine passed head rest ⟨⟨?_, written, ?_, equalInAnyCase_iff.mpr same⟩, size.symm⟩
        · rintro rfl
          contradiction
        · rintro rfl
          contradiction
      next =>
        rfl

theorem not_recognized_of_splitArticle (unsplit : splitArticle text article = .ok none)
    (head rest : List Char) : ¬ Recognized text article head rest := by
  intro recognized
  rw [splitArticle_of_recognized recognized] at unsplit
  cases unsplit

/-- The article that is recognised first decides on the split. -/
theorem splitLeadingArticle_of_recognized {before : List (List Char)}
    (passed : ∀ earlier ∈ before, ∀ head rest, ¬ Recognized text earlier head rest)
    (recognized : Recognized text article head rest) (after : List (List Char)) :
    splitLeadingArticle text (before ++ article :: after) = .ok (some (head, rest)) := by
  induction before with
  | nil =>
      rw [List.nil_append, splitLeadingArticle, splitArticle_of_recognized recognized]
      rfl
  | cons earlier before inductionHypothesis =>
      obtain ⟨first, others⟩ := List.forall_mem_cons.mp passed
      rw [List.cons_append, splitLeadingArticle, splitArticle_of_not_recognized first]
      exact inductionHypothesis others

theorem splitLeadingArticle_of_not_recognized {articles : List (List Char)}
    (passed : ∀ article ∈ articles, ∀ head rest, ¬ Recognized text article head rest) :
    splitLeadingArticle text articles = .ok none := by
  induction articles with
  | nil =>
      rfl
  | cons article articles inductionHypothesis =>
      obtain ⟨first, others⟩ := List.forall_mem_cons.mp passed
      rw [splitLeadingArticle, splitArticle_of_not_recognized first]
      exact inductionHypothesis others

/-- An article leads a text in one way only. -/
theorem LedBy.unique {otherHead otherRest : List Char} (led : LedBy text article head rest)
    (other : LedBy text article otherHead otherRest) : head = otherHead ∧ rest = otherRest := by
  have same : lower head = lower otherHead := by
    rw [equalInAnyCase_iff.mp led.equal, equalInAnyCase_iff.mp other.equal]
  obtain rfl : head = otherHead := by
    have begins : head <+: text := ⟨_, led.written.symm⟩
    have another : otherHead <+: text := ⟨_, other.written.symm⟩
    exact eq_of_prefix_of_lower_eq begins another same
  have written := List.append_cancel_left (led.written.symm.trans other.written)
  exact ⟨rfl, (List.cons.inj written).2⟩

/-! ## Articles whose variants are of one size -/

/-- No letter of the article has a variant of another size in the text: the article is
plain, or the letters of both keep their size in small letters. -/
def KeepsSizeIn (text article : List Char) : Prop :=
  (∀ c ∈ article, Casing.IsPlain c) ∨
    (∀ c ∈ text, Casing.KeepsSize c) ∧ ∀ c ∈ article, Casing.KeepsSize c

theorem LedBy.size_of_keepsSizeIn (led : LedBy text article head rest)
    (keeps : KeepsSizeIn text article) : utf8Length head = utf8Length article := by
  have same := equalInAnyCase_iff.mp led.equal
  rcases keeps with plain | ⟨textKeeps, articleKeeps⟩
  · exact utf8Length_eq_of_plain plain same
  · refine utf8Length_eq_of_keepsSize (fun c member => textKeeps c ?_) articleKeeps same
    rw [led.written]
    exact List.mem_append_left _ member

theorem keepsSizeIn_of_mem_defaultArticles (text : List Char)
    (member : article ∈ defaultArticles) : KeepsSizeIn text article := by
  have plain : defaultArticles.all (·.all fun c => decide (Casing.IsPlain c)) = true := by
    decide
  have each := List.all_eq_true.mp plain article member
  exact Or.inl fun c listed => of_decide_eq_true (List.all_eq_true.mp each c listed)

/-! ## The calls -/

/-- What is left of the text without the article and with the article moved to its end. -/
structure ComeTo (draw : UInt32) (text : Argument) (given : List Argument)
    (stripped swapped : List Char) : Prop where
  stripped : invoke draw "stripprefix" (text :: given) =
    .ok (.value ⟨some (String.ofList stripped), text.truth⟩ .all)
  swapped : invoke draw "swapprefix" (text :: given) =
    .ok (.value ⟨some (String.ofList swapped), text.truth⟩ .all)

/-- A present text that is changed according to the articles. -/
theorem reading_changed {change : List (List Char) → List Char → Except Fault (List Char)}
    {text : Argument} {given : List Argument} {derived : List Char}
    (present : text.atom.isPresent = true)
    (ends : change (articles given) text.characters = .ok derived) :
    reading (do
        let given ← operandsFrom (text :: given) 1
        onTextChecked (change (articles given)) (text :: given)) =
      .ok (.value ⟨some (String.ofList derived), text.truth⟩ .all) := by
  rw [operandsFrom_eq (Nat.le_add_left 1 given.length)]
  change reading (onTextChecked (change (articles given)) (text :: given)) = _
  rw [onTextChecked_of_isPresent present ends]
  rfl

theorem comeTo_of_splitLeadingArticle {text : Argument} {given : List Argument}
    {parts : Option (List Char × List Char)} (present : text.atom.isPresent = true)
    (split : splitLeadingArticle text.characters (articles given) = .ok parts)
    (draw : UInt32) :
    ComeTo draw text given (parts.elim text.characters Prod.snd)
      (parts.elim text.characters fun parts => parts.2 ++ [',', ' '] ++ parts.1) := by
  have accepted : 1 ≤ (text :: given).length := Nat.le_add_left 1 given.length
  constructor
  · have member : ⟨"stripprefix", .stripArticle, .atLeast 1, .string⟩ ∈ Catalog.entries := by
      decide
    rw [invoke_of_mem draw member (decide_eq_true accepted), run]
    apply reading_changed present
    rw [Text.stripArticle, split]
    cases parts <;> rfl
  · have member : ⟨"swapprefix", .swapArticle, .atLeast 1, .string⟩ ∈ Catalog.entries := by
      decide
    rw [invoke_of_mem draw member (decide_eq_true accepted), run]
    apply reading_changed present
    rw [Text.swapArticle, split]
    cases parts <;> rfl

/-- The calls go by the first article that leads the text, and by none if there is none. -/
structure GoByFirst (leads : List Char → List Char → List Char → Prop) (draw : UInt32)
    (text : Argument) (given : List Argument) : Prop where
  led : ∀ before article after head rest, articles given = before ++ article :: after →
    (∀ earlier ∈ before, ∀ head rest, ¬ leads earlier head rest) → leads article head rest →
    ComeTo draw text given rest (rest ++ [',', ' '] ++ head)
  notLed : (∀ article ∈ articles given, ∀ head rest, ¬ leads article head rest) →
    ComeTo draw text given text.characters text.characters

theorem goByFirst_recognized (draw : UInt32) {text : Argument}
    (present : text.atom.isPresent = true) (given : List Argument) :
    GoByFirst (Recognized text.characters) draw text given := by
  constructor
  · intro before article after head rest listed passed recognized
    have split := splitLeadingArticle_of_recognized passed recognized after
    rw [← listed] at split
    exact comeTo_of_splitLeadingArticle present split draw
  · intro passed
    have split := splitLeadingArticle_of_not_recognized passed
    exact comeTo_of_splitLeadingArticle present split draw

theorem GoByFirst.congr {leads others : List Char → List Char → List Char → Prop}
    {draw : UInt32} {text : Argument} {given : List Argument}
    (goes : GoByFirst leads draw text given)
    (alike : ∀ article ∈ articles given, ∀ head rest,
      others article head rest ↔ leads article head rest) :
    GoByFirst others draw text given := by
  constructor
  · intro before article after head rest listed passed leading
    have listedBefore : ∀ earlier ∈ before, earlier ∈ articles given := by
      intro earlier member
      rw [listed]
      exact List.mem_append_left _ member
    have listedHere : article ∈ articles given := by
      rw [listed]
      exact List.mem_append_right _ List.mem_cons_self
    refine goes.led before article after head rest listed ?_ ?_
    · intro earlier member head rest
      rw [← alike earlier (listedBefore earlier member)]
      exact passed earlier member head rest
    · exact (alike article listedHere head rest).mp leading
  · intro passed
    apply goes.notLed
    intro article member head rest
    rw [← alike article member]
    exact passed article member head rest

/-- The functions on leading articles go by the first article that leads the text in its
own size.  This is the first one that leads it, unless a variant in the text takes another
number of bytes, which none does of the default articles and none of articles whose letters
keep their size. -/
theorem articles_go_by_size (draw : UInt32) (text : Argument)
    (present : text.atom.isPresent = true) (given : List Argument) :
    GoByFirst (Recognized text.characters) draw text given ∧
      ((∀ article ∈ articles given, ∀ head rest, LedBy text.characters article head rest →
          utf8Length head = utf8Length article) →
        GoByFirst (LedBy text.characters) draw text given) ∧
      ((∀ article ∈ articles given, KeepsSizeIn text.characters article) →
        GoByFirst (LedBy text.characters) draw text given) ∧
      (given = [] → GoByFirst (LedBy text.characters) draw text given) ∧
      ∀ article head rest otherHead otherRest, LedBy text.characters article head rest →
        LedBy text.characters article otherHead otherRest →
        head = otherHead ∧ rest = otherRest := by
  have bySize := goByFirst_recognized draw present given
  have even : (∀ article ∈ articles given, ∀ head rest,
      LedBy text.characters article head rest → utf8Length head = utf8Length article) →
      GoByFirst (LedBy text.characters) draw text given := by
    intro even
    apply bySize.congr
    intro article member head rest
    constructor
    · intro led
      exact ⟨led, even article member head rest led⟩
    · exact Recognized.toLedBy
  have kept : (∀ article ∈ articles given, KeepsSizeIn text.characters article) →
      GoByFirst (LedBy text.characters) draw text given := by
    intro keeps
    apply even
    intro article member head rest led
    exact led.size_of_keepsSizeIn (keeps article member)
  refine ⟨bySize, even, kept, ?defaults, ?unique⟩
  case defaults =>
    rintro rfl
    apply kept
    intro article member
    exact keepsSizeIn_of_mem_defaultArticles text.characters member
  case unique =>
    intro article head rest otherHead otherRest led other
    exact led.unique other

theorem articles_go_by_size_sample :
    let argument (text : String) : Argument := ⟨.literal text, false⟩
    ComeTo 0 (argument "THE WHO") [] "WHO".toList "WHO, THE".toList ∧
      ComeTo 0 (argument "Theatre") [] "Theatre".toList "Theatre".toList := by
  intro argument
  have notLed : ∀ (text : List Char) (article : List Char), article ∈ defaultArticles →
      splitArticle text article = .ok none → ∀ head rest, ¬ LedBy text article head rest := by
    intro text article member unsplit head rest led
    have size := led.size_of_keepsSizeIn (keepsSizeIn_of_mem_defaultArticles text member)
    exact not_recognized_of_splitArticle unsplit head rest ⟨led, size⟩
  constructor
  · obtain ⟨-, -, -, defaults, -⟩ := articles_go_by_size 0 (argument "THE WHO") rfl []
    refine (defaults rfl).led [['A']] ['T', 'h', 'e'] [] "THE".toList "WHO".toList rfl ?_ ?_
    · rw [List.forall_mem_singleton]
      exact notLed _ _ List.mem_cons_self (by decide)
    · refine ⟨by decide, by decide, by decide, ?_⟩
      exact equalInAnyCase_iff.mpr (by decide)
  · obtain ⟨-, -, -, defaults, -⟩ := articles_go_by_size 0 (argument "Theatre") rfl []
    apply (defaults rfl).notLed
    change ∀ article ∈ [['A'], ['T', 'h', 'e']], _
    rw [List.forall_mem_cons, List.forall_mem_singleton]
    constructor
    · exact notLed _ _ (by decide) (by decide)
    · exact notLed _ _ (by decide) (by decide)

/-- A variant of another size is not recognised: `ẞ` takes three bytes and `ß` two. -/
theorem stripprefix_of_capital_sharp_s :
    let text : Argument := ⟨.literal "GROẞE FREIHEIT", false⟩
    let article : Argument := ⟨.literal "Große", false⟩
    LedBy text.characters article.characters "GROẞE".toList "FREIHEIT".toList ∧
      ¬ GoByFirst (LedBy text.characters) 0 text [article] ∧
      formatOnce "$stripprefix(GROẞE FREIHEIT,Große)" (.ofFields .empty) (fun _ => 0) =
        .ok (.literal "GROẞE FREIHEIT") := by
  intro text article
  have led : LedBy text.characters article.characters "GROẞE".toList "FREIHEIT".toList := by
    refine ⟨by decide, by decide, by decide, ?_⟩
    exact equalInAnyCase_iff.mpr (by decide)
  refine ⟨led, ?_, ?_⟩
  · intro goes
    have moved := goes.led [] _ [] _ _ rfl (List.forall_mem_nil _) led
    have stays : ∀ head rest, ¬ Recognized text.characters article.characters head rest :=
      not_recognized_of_splitArticle (by decide)
    have present : text.atom.isPresent = true := rfl
    have kept := (goByFirst_recognized 0 present [article]).notLed
      (List.forall_mem_singleton.mpr stays)
    have same := moved.stripped.symm.trans kept.stripped
    exact absurd same (by decide)
  · cbv

end Functions

end TitleFormatting

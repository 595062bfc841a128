import TitleFormatting.Text.Repertoire

/-!
# Texts in a small repertoire

A conversion keeps the characters of its repertoire and spells every other one in ASCII,
which belongs to each repertoire.  It therefore yields texts of the repertoire, and of two
repertoires, one within the other, the smaller one decides what both conversions together
make of a text.
-/

namespace TitleFormatting.Text.Repertoire

/-- What stands for a character outside of a repertoire. -/
def respelled (c : Char) : List Char := ((spelling? c).getD "?").toList

theorem isAscii_of_mem_respelled {c d : Char} (member : d ∈ respelled c) :
    isAscii d = true := by
  have listed : (spellings.all fun entry => entry.2.toList.all isAscii) = true := by
    decide
  rw [respelled, spelling?] at member
  cases found : spellings.find? fun entry => inRanges entry.1 c with
  | none =>
      rw [found] at member
      obtain rfl : d = '?' := List.mem_singleton.mp member
      rfl
  | some entry =>
      rw [found] at member
      have spelled := List.all_eq_true.mp listed entry (List.mem_of_find?_eq_some found)
      exact List.all_eq_true.mp spelled d member

section Conversion

variable {belongs narrow wide : Char → Bool}

theorem convert_cons (belongs : Char → Bool) (c : Char) (rest : List Char) :
    convert belongs (c :: rest) =
      (if belongs c then [c] else respelled c) ++ convert belongs rest :=
  List.flatMap_cons

theorem convert_append (belongs : Char → Bool) (first second : List Char) :
    convert belongs (first ++ second) = convert belongs first ++ convert belongs second :=
  List.flatMap_append

theorem convert_eq_self {text : List Char} (written : ∀ c ∈ text, belongs c = true) :
    convert belongs text = text := by
  induction text with
  | nil =>
      rfl
  | cons c rest inductionHypothesis =>
      obtain ⟨first, others⟩ := List.forall_mem_cons.mp written
      rw [convert_cons, if_pos first, inductionHypothesis others, List.singleton_append]

theorem belongs_of_mem_convert (ascii : ∀ c, isAscii c = true → belongs c = true)
    {text : List Char} : ∀ c ∈ convert belongs text, belongs c = true := by
  induction text with
  | nil =>
      exact List.forall_mem_nil _
  | cons c rest inductionHypothesis =>
      rw [convert_cons]
      refine List.forall_mem_append.mpr ⟨?_, inductionHypothesis⟩
      by_cases kept : belongs c = true
      · rw [if_pos kept]
        exact List.forall_mem_singleton.mpr kept
      · rw [if_neg kept]
        intro d member
        exact ascii d (isAscii_of_mem_respelled member)

/-- What the wider conversion respells, the narrower one would have respelled alike. -/
theorem convert_convert (ascii : ∀ c, isAscii c = true → narrow c = true)
    (within : ∀ c, narrow c = true → wide c = true) (text : List Char) :
    convert narrow (convert wide text) = convert narrow text := by
  induction text with
  | nil =>
      rfl
  | cons c rest inductionHypothesis =>
      rw [convert_cons, convert_append, inductionHypothesis]
      by_cases kept : wide c = true
      · rw [if_pos kept, ← convert_append, List.singleton_append]
      · have refused : ¬ narrow c = true := fun belongs => kept (within c belongs)
        have spelled : convert narrow (respelled c) = respelled c :=
          convert_eq_self fun d member => ascii d (isAscii_of_mem_respelled member)
        rw [if_neg kept, spelled, convert_cons, if_neg refused]

/-- A conversion to a repertoire, character by character. -/
structure ConvertsTo (belongs : Char → Bool) (conversion : List Char → List Char) : Prop where
  lands : ∀ text, ∀ c ∈ conversion text, belongs c = true
  keeps : ∀ text, (∀ c ∈ text, belongs c = true) → conversion text = text
  idempotent : ∀ text, conversion (conversion text) = conversion text
  append : ∀ first second, conversion (first ++ second) = conversion first ++ conversion second

theorem convertsTo_convert (ascii : ∀ c, isAscii c = true → belongs c = true) :
    ConvertsTo belongs (convert belongs) where
  lands _ := belongs_of_mem_convert ascii
  keeps _ := convert_eq_self
  idempotent _ := convert_eq_self (belongs_of_mem_convert ascii)
  append := convert_append belongs

end Conversion

theorem isWindows_of_isAscii {c : Char} (ascii : isAscii c = true) : isWindows c = true := by
  rw [isWindows, ascii, Bool.true_or, Bool.true_or]

/-- Both conversions land in their repertoires and keep what is written in them, and ASCII
decides what comes of both, whichever is the first. -/
theorem conversions_compose :
    ConvertsTo isAscii toAscii ∧ ConvertsTo isWindows toWindows ∧
      ∀ text, toAscii (toWindows text) = toAscii text ∧
        toWindows (toAscii text) = toAscii text := by
  refine ⟨convertsTo_convert fun _ => id, convertsTo_convert fun _ => isWindows_of_isAscii,
    fun text => ⟨?_, ?_⟩⟩
  · exact convert_convert (fun _ => id) (fun _ => isWindows_of_isAscii) text
  · apply convert_eq_self
    intro c member
    exact isWindows_of_isAscii (belongs_of_mem_convert (fun _ => id) c member)

example : toWindows "Łódź – 5 €".toList = "Lódz – 5 €".toList ∧
    toAscii "Łódź – 5 €".toList = "Lodz - 5 EUR".toList := by
  decide

end TitleFormatting.Text.Repertoire

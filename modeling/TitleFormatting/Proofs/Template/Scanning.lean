import Mathlib.Data.List.TakeWhile
import TitleFormatting.Proofs.Template.Lexeme

/-!
# What a scan reads

Every source is the lexemes of well-formed tokens, one behind the other, and a
rest that is empty or from which no token can be read. How such a rest breaks
off decides what fault the scan ends with and which character is to blame.
-/

namespace TitleFormatting

namespace Token

/-! ## Sources that break off -/

/-- No token can be read from the source: quotes or a field reference are never
closed, or a function name never reaches its parenthesis. The scan ends with
the fault, which blames the character behind the skipped ones. -/
inductive Breaks : List Char → SyntaxFault → List Char → Prop where
  | inQuotes {text : List Char} (single : text.head? ≠ some '\'') :
      Breaks ('\'' :: doubledQuotes text) .unterminatedLiteral []
  | inField {name : List Char} (unclosed : '%' ∉ name) :
      Breaks ('%' :: name)
        (.unterminatedVariable (name.find? fun c => !isFieldCharacter c)) []
  | inFunctionName {name : List Char}
      (functionName : ∀ c ∈ name, isFunctionCharacter c) :
      Breaks ('$' :: name) (.unterminatedFunction (String.ofList name)) []
  | behindFunctionName {name : List Char} {c : Char} (rest : List Char)
      (functionName : ∀ c ∈ name, isFunctionCharacter c)
      (foreign : isFunctionCharacter c = false)
      (unopened : c = '(' → name = []) :
      Breaks ('$' :: name ++ c :: rest) (.invalidFunctionName c) ('$' :: name)

theorem scanFrom_of_breaks (here : Location) {source skipped : List Char}
    {fault : SyntaxFault} (breaks : Breaks source fault skipped) :
    scanFrom .outside here source = .fail fault (here.after skipped) := by
  cases breaks with
  | inQuotes single =>
      rename_i text
      have follows : (doubledQuotes text).head? ≠ some '\'' := by
        cases text with
        | nil =>
            simp [doubledQuotes]
        | cons c more =>
            have different : c ≠ '\'' := by
              simpa using single
            simp [doubledQuotes, different]
      have scanned :=
        scanFrom_inQuotes_append here (here.next '\'') [] text []
      rw [List.append_nil] at scanned
      rw [scanFrom_outside_quote here follows, scanned, scanFrom]
      rfl
  | inField unclosed =>
      rename_i name
      have scanned :=
        scanFrom_inField_append here (here.next '%') [] none [] unclosed
      rw [List.append_nil] at scanned
      rw [scanFrom_outside_percent, scanned, scanFrom]
      rfl
  | inFunctionName functionName =>
      rename_i name
      have scanned :=
        scanFrom_inFunctionName_append here (here.next '$') [] [] functionName
      rw [List.append_nil] at scanned
      rw [scanFrom_outside_dollar, scanned, scanFrom]
      simp [collected]
  | behindFunctionName rest functionName foreign unopened =>
      rename_i name c
      have scanned :=
        scanFrom_inFunctionName_append here (here.next '$') [] (c :: rest)
          functionName
      have closed : ¬ (c = '(' && !(name.reverse ++ []).isEmpty) = true := by
        simpa using unopened
      rw [List.cons_append, scanFrom_outside_dollar, scanned,
        scanFrom_inFunctionName_cons, if_neg closed, if_neg (by simp [foreign])]
      rfl

/-! ## Tokens and what is left behind them -/

/-- Quoted text goes up to a quote that no other quote follows, or else up to
the end of the source. -/
theorem exists_doubledQuotes_append :
    ∀ source : List Char, ∃ body rest,
      source = doubledQuotes body ++ rest ∧
        (rest = [] ∨ ∃ more, rest = '\'' :: more ∧ more.head? ≠ some '\'')
  | [] => ⟨[], [], rfl, Or.inl rfl⟩
  | [c] => by
      by_cases quote : c = '\''
      · exact ⟨[], [c], rfl, Or.inr ⟨[], by rw [quote], by simp⟩⟩
      · exact ⟨[c], [], by simp [doubledQuotes, quote], Or.inl rfl⟩
  | c :: d :: more => by
      by_cases quote : c = '\''
      · by_cases doubled : d = '\''
        · obtain ⟨body, rest, rfl, ends⟩ := exists_doubledQuotes_append more
          exact ⟨'\'' :: body, rest, by simp [doubledQuotes, quote, doubled], ends⟩
        · exact ⟨[], c :: d :: more, rfl,
            Or.inr ⟨d :: more, by rw [quote], by simpa using doubled⟩⟩
      · obtain ⟨body, rest, equality, ends⟩ :=
          exists_doubledQuotes_append (d :: more)
        exact ⟨c :: body, rest, by simp [doubledQuotes, quote, equality], ends⟩

/-- Behind a quote stands the rest of a quoted token, unless the quotes are
never closed. -/
theorem exists_quoted_or_breaks (source : List Char) :
    (∃ text rest, '\'' :: source = characters (.quoted text) ++ rest ∧
      (quoted text).IsWellFormed ∧ (quoted text).MayPrecede rest) ∨
    ∃ fault skipped, Breaks ('\'' :: source) fault skipped := by
  by_cases doubled : source.head? = some '\''
  · obtain ⟨rest, rfl⟩ := List.head?_eq_some_iff.mp doubled
    exact Or.inl ⟨"'", rest, rfl, Or.inl rfl, by simp [MayPrecede, closesQuotes]⟩
  · obtain ⟨body, rest, rfl, ends⟩ := exists_doubledQuotes_append source
    have single : body.head? ≠ some '\'' := by
      intro quote
      obtain ⟨more, rfl⟩ := List.head?_eq_some_iff.mp quote
      simp [doubledQuotes] at doubled
    rcases ends with rfl | ⟨more, rfl, separated⟩
    · rw [List.append_nil]
      exact Or.inr ⟨_, _, .inQuotes single⟩
    · cases body with
      | nil =>
          simp [doubledQuotes] at doubled
      | cons c body =>
          have different : c ≠ '\'' := by
            simpa using single
          refine Or.inl ⟨String.ofList (c :: body), more, ?_,
            Or.inr ⟨c, body, String.toList_ofList, different⟩,
            fun _ => separated⟩
          simp [characters, quotedCharacters, different]

/-- Behind a dollar sign stand a function name and its parenthesis, or else no
token can be read. -/
theorem exists_openCall_or_breaks (source : List Char) :
    (∃ name rest, '$' :: source = characters (.openCall name) ++ rest ∧
      (openCall name).IsWellFormed) ∨
    ∃ fault skipped, Breaks ('$' :: source) fault skipped := by
  have functionName : ∀ c ∈ source.takeWhile isFunctionCharacter,
      isFunctionCharacter c :=
    fun _ member => List.mem_takeWhile_imp member
  have split : source.takeWhile isFunctionCharacter ++
      source.dropWhile isFunctionCharacter = source :=
    List.takeWhile_append_dropWhile
  cases behind : source.dropWhile isFunctionCharacter with
  | nil =>
      rw [behind, List.append_nil] at split
      rw [← split]
      exact Or.inr ⟨_, _, .inFunctionName functionName⟩
  | cons c rest =>
      have foreign : isFunctionCharacter c = false := by
        have first := List.head?_dropWhile_not isFunctionCharacter source
        rw [behind] at first
        simpa using first
      rw [behind] at split
      rw [← split]
      by_cases opens : c = '(' ∧ source.takeWhile isFunctionCharacter ≠ []
      · obtain ⟨rfl, named⟩ := opens
        refine Or.inl
          ⟨String.ofList (source.takeWhile isFunctionCharacter), rest, ?_, ?_⟩
        · simp [characters]
        · simpa only [IsWellFormed, String.toList_ofList] using
            ⟨named, functionName⟩
      · have unopened : c = '(' → source.takeWhile isFunctionCharacter = [] := by
          simpa using opens
        exact Or.inr ⟨_, _, .behindFunctionName rest functionName foreign unopened⟩

/-- The next token is read off the source, unless the source breaks off. -/
theorem exists_token_or_breaks {source : List Char} (nonempty : source ≠ []) :
    (∃ token rest, source = characters token ++ rest ∧
      token.IsWellFormed ∧ token.MayPrecede rest) ∨
    ∃ fault skipped, Breaks source fault skipped := by
  have free {token : Token} {rest : List Char}
      (plain : token.closesQuotes = false) : token.MayPrecede rest := by
    simp [MayPrecede, plain]
  obtain ⟨c, source, rfl⟩ := List.exists_cons_of_ne_nil nonempty
  by_cases quote : c = '\''
  · subst quote
    rcases exists_quoted_or_breaks source with ⟨text, rest, found⟩ | breaks
    · exact Or.inl ⟨.quoted text, rest, found⟩
    · exact Or.inr breaks
  by_cases percent : c = '%'
  · subst percent
    by_cases closed : '%' ∈ source
    · obtain ⟨name, rest, rfl, unclosed⟩ := List.eq_append_cons_of_mem closed
      exact Or.inl ⟨.field (String.ofList name), rest,
        by simp [characters], by simpa [IsWellFormed] using unclosed, free rfl⟩
    · exact Or.inr ⟨_, _, .inField closed⟩
  by_cases dollar : c = '$'
  · subst dollar
    rcases exists_openCall_or_breaks source with
      ⟨name, rest, equality, wellFormed⟩ | breaks
    · exact Or.inl ⟨.openCall name, rest, equality, wellFormed, free rfl⟩
    · exact Or.inr breaks
  by_cases opening : c = '['
  · exact Or.inl ⟨.openBlock, source, by rw [opening]; rfl, trivial, free rfl⟩
  by_cases closing : c = ']'
  · exact Or.inl ⟨.closeBlock, source, by rw [closing]; rfl, trivial, free rfl⟩
  · exact Or.inl ⟨.plain c, source, rfl,
      isPlainCharacter_iff.mpr ⟨quote, percent, dollar, opening, closing⟩,
      free rfl⟩

/-- The source is written with the tokens and goes on with the rest, which is
not read together with the last of them. -/
structure Splits (source : List Char) (tokens : List Token) (rest : List Char) :
    Prop where
  lexical : Lexical tokens
  separated : ∀ last ∈ tokens.getLast?, last.MayPrecede rest
  written : source = tokens.flatMap characters ++ rest

namespace Splits

theorem scanFrom_eq {source rest : List Char} {tokens : List Token}
    (splits : Splits source tokens rest) (here : Location) :
    scanFrom .outside here source =
      (scanFrom .outside (here.after (tokens.flatMap characters)) rest).behind
        (placeFrom here tokens) := by
  rw [splits.written]
  exact scanFrom_flatMap_characters_append here splits.lexical splits.separated

theorem cons {source rest : List Char} {token : Token} {tokens : List Token}
    (wellFormed : token.IsWellFormed) (mayPrecede : token.MayPrecede source)
    (splits : Splits source tokens rest) :
    Splits (token.characters ++ source) (token :: tokens) rest where
  lexical := by
    refine ⟨List.forall_mem_cons.mpr ⟨wellFormed, splits.lexical.wellFormed⟩,
      List.isChain_cons.mpr ⟨?_, splits.lexical.separated⟩⟩
    intro next member closes quoted
    apply mayPrecede closes
    obtain ⟨more, rfl⟩ := List.head?_eq_some_iff.mp member
    have nextWellFormed := splits.lexical.wellFormed next List.mem_cons_self
    rw [splits.written, List.flatMap_cons, List.append_assoc,
      List.head?_append_of_ne_nil _ (characters_ne_nil nextWellFormed)]
    exact (head?_characters_eq_quote_iff nextWellFormed).mpr quoted
  separated := by
    cases tokens with
    | nil =>
        obtain rfl : source = rest := splits.written
        intro last member
        obtain rfl : token = last := by
          simpa using member
        exact mayPrecede
    | cons next more =>
        intro last member
        rw [List.getLast?_cons_cons] at member
        exact splits.separated last member
  written := by
    rw [List.flatMap_cons, List.append_assoc, ← splits.written]

end Splits

/-- Every source is made of tokens up to its end or up to where it breaks off. -/
theorem exists_splits :
    ∀ source : List Char, ∃ tokens rest,
      Splits source tokens rest ∧
        (rest = [] ∨ ∃ fault skipped, Breaks rest fault skipped)
  | [] => ⟨[], [], ⟨⟨by simp, List.isChain_nil⟩, by simp, rfl⟩, Or.inl rfl⟩
  | c :: source => by
      rcases exists_token_or_breaks (List.cons_ne_nil c source) with
        ⟨token, more, equality, wellFormed, mayPrecede⟩ | breaks
      · have shorter : more.length < (c :: source).length := by
          have positive := List.length_pos_iff.mpr (characters_ne_nil wellFormed)
          rw [equality, List.length_append]
          omega
        obtain ⟨tokens, rest, splits, ends⟩ := exists_splits more
        rw [equality]
        exact ⟨token :: tokens, rest, splits.cons wellFormed mayPrecede, ends⟩
      · exact ⟨[], c :: source, ⟨⟨by simp, List.isChain_nil⟩, by simp, rfl⟩,
          Or.inr breaks⟩
termination_by source => source.length
decreasing_by exact shorter

/-- A source that is scanned without a fault is written by well-formed
tokens. -/
theorem exists_lexical_of_fault_eq_none (here : Location) {source : List Char}
    (faultless : (scanFrom .outside here source).fault = none) :
    ∃ tokens, Lexical tokens ∧ source = tokens.flatMap characters := by
  obtain ⟨tokens, rest, splits, rfl | ⟨fault, skipped, breaks⟩⟩ :=
    exists_splits source
  · exact ⟨tokens, splits.lexical, by rw [splits.written, List.append_nil]⟩
  · rw [splits.scanFrom_eq, scanFrom_of_breaks _ breaks] at faultless
    contradiction

end Token

end TitleFormatting

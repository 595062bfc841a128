import TitleFormatting.Proofs.Template.Source

/-!
# Scanning is the inverse of writing tokens

Every token has one lexeme. Scanning takes the lexeme of a well-formed token
off a source, whatever follows it, except that a quote behind a closing quote
would be read as part of the quoted text. Tokens that no such quote runs together
are therefore scanned back from their lexemes, and the scan goes on behind them.
-/

namespace TitleFormatting

namespace Location

def after (location : Location) (characters : List Char) : Location :=
  characters.foldl next location

@[simp]
theorem position_next (location : Location) (c : Char) :
    (location.next c).position = location.position + 1 :=
  rfl

@[simp]
theorem after_nil (location : Location) : location.after [] = location :=
  rfl

@[simp]
theorem after_cons (location : Location) (c : Char) (characters : List Char) :
    location.after (c :: characters) = (location.next c).after characters :=
  rfl

@[simp]
theorem after_append (location : Location) (first second : List Char) :
    location.after (first ++ second) = (location.after first).after second :=
  List.foldl_append

@[simp]
theorem position_after (location : Location) (characters : List Char) :
    (location.after characters).position =
      location.position + characters.length := by
  induction characters generalizing location with
  | nil =>
      rfl
  | cons c rest inductionHypothesis =>
      rw [after_cons, inductionHypothesis, List.length_cons, position_next]
      omega

end Location

namespace Token

/-! ## Lexemes -/

/-- The characters that a token is written with. -/
def characters : Token → List Char
  | .plain c => [c]
  | .quoted text => quotedCharacters text.toList
  | .field name => '%' :: name.toList ++ ['%']
  | .openCall name => '$' :: name.toList ++ ['(']
  | .openBlock => ['[']
  | .closeBlock => [']']

/-- The token can be read from a source. Quoted text is a single quote, or
else begins with another character. -/
def IsWellFormed : Token → Prop
  | .plain c => isPlainCharacter c
  | .quoted text =>
      text = "'" ∨ ∃ c rest, text.toList = c :: rest ∧ c ≠ '\''
  | .field name => '%' ∉ name.toList
  | .openCall name =>
      name.toList ≠ [] ∧ ∀ c ∈ name.toList, isFunctionCharacter c
  | .openBlock | .closeBlock => True

def isQuoted : Token → Bool
  | .quoted _ => true
  | _ => false

/-- The lexeme ends with a closing quote. -/
def closesQuotes : Token → Bool
  | .quoted text => text ≠ "'"
  | _ => false

/-- The rest of a source can stand behind the token. -/
def MayPrecede (token : Token) (rest : List Char) : Prop :=
  token.closesQuotes → rest.head? ≠ some '\''

/-- The tokens are well formed, and no quoted text follows a closing quote. -/
structure Lexical (tokens : List Token) : Prop where
  wellFormed : ∀ token ∈ tokens, token.IsWellFormed
  separated :
    tokens.IsChain fun first second => first.closesQuotes → ¬ second.isQuoted

/-- The place of each token when the first begins at the given place. -/
def placeFrom : Location → List Token → List PlacedToken
  | _, [] => []
  | here, token :: rest =>
      ⟨token, here⟩ :: placeFrom (here.after token.characters) rest

theorem placeFrom_append (here : Location) (first second : List Token) :
    placeFrom here (first ++ second) =
      placeFrom here first ++
        placeFrom (here.after (first.flatMap characters)) second := by
  induction first generalizing here with
  | nil =>
      rfl
  | cons token rest inductionHypothesis =>
      simp only [List.cons_append, placeFrom, List.flatMap_cons,
        Location.after_append]
      rw [inductionHypothesis]

/-- The scan with more tokens in front. -/
def Scan.behind (scan : Scan) (placed : List PlacedToken) : Scan :=
  ⟨placed ++ scan.tokens, scan.fault⟩

theorem isPlainCharacter_iff {c : Char} :
    isPlainCharacter c ↔
      c ≠ '\'' ∧ c ≠ '%' ∧ c ≠ '$' ∧ c ≠ '[' ∧ c ≠ ']' := by
  simp [isPlainCharacter, and_assoc]

theorem characters_ne_nil {token : Token} (wellFormed : token.IsWellFormed) :
    token.characters ≠ [] := by
  cases token with
  | quoted text =>
      rcases wellFormed with rfl | ⟨c, rest, equality, different⟩
      · decide
      · simp [characters, equality, quotedCharacters, different]
  | plain c | field name | openCall name | openBlock | closeBlock =>
      simp [characters]

theorem head?_characters_eq_quote_iff {token : Token}
    (wellFormed : token.IsWellFormed) :
    token.characters.head? = some '\'' ↔ token.isQuoted := by
  cases token with
  | plain c =>
      have different : c ≠ '\'' := (isPlainCharacter_iff.mp wellFormed).1
      simp [characters, isQuoted, different]
  | quoted text =>
      rcases wellFormed with rfl | ⟨c, rest, equality, different⟩
      · decide
      · simp [characters, isQuoted, equality, quotedCharacters, different]
  | field name | openCall name | openBlock | closeBlock =>
      simp [characters, isQuoted]

/-! ## Scanning one character

How each mode takes the next character, so that nothing below has to open the
scanner. -/

section Modes

attribute [local simp] scanFrom

variable (start here : Location) (text rest : List Char)

theorem scanFrom_outside_quote {rest : List Char}
    (single : rest.head? ≠ some '\'') :
    scanFrom .outside here ('\'' :: rest) =
      scanFrom (.inQuotes here []) (here.next '\'') rest := by
  rw [scanFrom, if_pos rfl]
  intro more _ equality
  exact single (by rw [equality]; rfl)

theorem scanFrom_outside_percent :
    scanFrom .outside here ('%' :: rest) =
      scanFrom (.inField here [] none) (here.next '%') rest :=
  rfl

theorem scanFrom_outside_dollar :
    scanFrom .outside here ('$' :: rest) =
      scanFrom (.inFunctionName here []) (here.next '$') rest :=
  rfl

theorem scanFrom_outside_opening :
    scanFrom .outside here ('[' :: rest) =
      (scanFrom .outside (here.next '[') rest).cons .openBlock here :=
  rfl

theorem scanFrom_outside_closing :
    scanFrom .outside here (']' :: rest) =
      (scanFrom .outside (here.next ']') rest).cons .closeBlock here :=
  rfl

theorem scanFrom_outside_plain {c : Char} (plain : isPlainCharacter c) :
    scanFrom .outside here (c :: rest) =
      (scanFrom .outside (here.next c) rest).cons (.plain c) here := by
  obtain ⟨quote, percent, dollar, opening, closing⟩ :=
    isPlainCharacter_iff.mp plain
  rw [scanFrom, if_neg quote, if_neg percent, if_neg dollar, if_neg opening,
    if_neg closing]
  intro _ equality
  exact absurd equality quote

theorem scanFrom_inQuotes_doubled :
    scanFrom (.inQuotes start text) here ('\'' :: '\'' :: rest) =
      scanFrom (.inQuotes start ('\'' :: text)) ((here.next '\'').next '\'') rest :=
  rfl

theorem scanFrom_inQuotes_quote {rest : List Char}
    (single : rest.head? ≠ some '\'') :
    scanFrom (.inQuotes start text) here ('\'' :: rest) =
      (scanFrom .outside (here.next '\'') rest).cons (.quoted (collected text))
        start := by
  rw [scanFrom, if_pos rfl]
  intro more _ equality
  exact single (by rw [equality]; rfl)

theorem scanFrom_inQuotes_text {c : Char} (different : c ≠ '\'') :
    scanFrom (.inQuotes start text) here (c :: rest) =
      scanFrom (.inQuotes start (c :: text)) (here.next c) rest := by
  rw [scanFrom, if_neg different]
  intro _ equality
  exact absurd equality different

theorem scanFrom_inField_cons (invalid : Option Char) (c : Char) :
    scanFrom (.inField start text invalid) here (c :: rest) =
      if c = '%' then
        (scanFrom .outside (here.next c) rest).cons (.field (collected text)) start
      else
        scanFrom
          (.inField start (c :: text)
            (invalid <|> if isFieldCharacter c then none else some c))
          (here.next c) rest :=
  rfl

theorem scanFrom_inFunctionName_cons (c : Char) :
    scanFrom (.inFunctionName start text) here (c :: rest) =
      if c = '(' && !text.isEmpty then
        (scanFrom .outside (here.next c) rest).cons (.openCall (collected text)) start
      else if isFunctionCharacter c then
        scanFrom (.inFunctionName start (c :: text)) (here.next c) rest
      else .fail (.invalidFunctionName c) here :=
  rfl

end Modes

/-! ## Scanning one token -/

/-- Inside quotes, doubled quotes and other characters are text. -/
theorem scanFrom_inQuotes_append (start here : Location)
    (text body rest : List Char) :
    scanFrom (.inQuotes start text) here (doubledQuotes body ++ rest) =
      scanFrom (.inQuotes start (body.reverse ++ text))
        (here.after (doubledQuotes body)) rest := by
  induction body generalizing text here with
  | nil =>
      rfl
  | cons c body inductionHypothesis =>
      by_cases quote : c = '\''
      · subst quote
        simp only [doubledQuotes, if_true, List.cons_append]
        rw [scanFrom_inQuotes_doubled, inductionHypothesis]
        simp
      · simp only [doubledQuotes, if_neg quote, List.cons_append]
        rw [scanFrom_inQuotes_text _ _ _ _ quote, inductionHypothesis]
        simp

/-- Characters of a field name are collected, and the first that no
well-formed name may hold is kept. -/
theorem scanFrom_inField_append (start here : Location)
    (name : List Char) (invalid : Option Char) {more : List Char}
    (rest : List Char) (unclosed : '%' ∉ more) :
    scanFrom (.inField start name invalid) here (more ++ rest) =
      scanFrom
        (.inField start (more.reverse ++ name)
          (invalid <|> more.find? fun c => !isFieldCharacter c))
        (here.after more) rest := by
  induction more generalizing name invalid here with
  | nil =>
      simp
  | cons c more inductionHypothesis =>
      simp only [List.mem_cons, not_or] at unclosed
      obtain ⟨different, others⟩ := unclosed
      have first :
          ((invalid <|> if isFieldCharacter c then none else some c) <|>
              more.find? fun d => !isFieldCharacter d) =
            (invalid <|> (c :: more).find? fun d => !isFieldCharacter d) := by
        cases invalid <;> cases known : isFieldCharacter c <;> simp [known]
      rw [List.cons_append, scanFrom_inField_cons, if_neg (Ne.symm different),
        inductionHypothesis _ _ _ others, first]
      simp

theorem scanFrom_inFunctionName_append (start here : Location)
    (name : List Char) {more : List Char} (rest : List Char)
    (functionName : ∀ c ∈ more, isFunctionCharacter c) :
    scanFrom (.inFunctionName start name) here (more ++ rest) =
      scanFrom (.inFunctionName start (more.reverse ++ name))
        (here.after more) rest := by
  induction more generalizing name here with
  | nil =>
      rfl
  | cons c more inductionHypothesis =>
      obtain ⟨character, others⟩ := List.forall_mem_cons.mp functionName
      have different : c ≠ '(' := by
        rintro rfl
        exact absurd character (by decide)
      rw [List.cons_append, scanFrom_inFunctionName_cons,
        if_neg (by simp [different]), if_pos character,
        inductionHypothesis _ _ others]
      simp

/-- A token is scanned off the front of a source that may follow it. -/
theorem scanFrom_outside_append (here : Location) {token : Token}
    {rest : List Char} (wellFormed : token.IsWellFormed)
    (separated : token.MayPrecede rest) :
    scanFrom .outside here (token.characters ++ rest) =
      (scanFrom .outside (here.after token.characters) rest).cons token here := by
  cases token with
  | plain c =>
      exact scanFrom_outside_plain here rest wellFormed
  | quoted text =>
      by_cases single : text = "'"
      · subst single
        rfl
      · obtain ⟨c, more, equality, different⟩ := wellFormed.resolve_left single
        have follows : rest.head? ≠ some '\'' :=
          separated (by simpa [closesQuotes] using single)
        have collectedText : String.ofList (c :: more) = text := by
          rw [← equality, String.ofList_toList]
        have lexeme :
            characters (.quoted text) =
              '\'' :: (doubledQuotes (c :: more) ++ ['\'']) := by
          simp [characters, equality, quotedCharacters, different]
        have opened :=
          scanFrom_outside_quote here
            (show (doubledQuotes (c :: more) ++ '\'' :: rest).head? ≠ some '\'' by
              simp [doubledQuotes, different])
        rw [lexeme, List.cons_append, List.append_assoc,
          List.singleton_append, opened, scanFrom_inQuotes_append,
          scanFrom_inQuotes_quote _ _ _ follows]
        simp [collected, collectedText]
  | field name =>
      have opened := scanFrom_inField_append here (here.next '%') [] none
        ('%' :: rest) wellFormed
      rw [scanFrom_inField_cons, if_pos rfl] at opened
      simpa [characters, scanFrom_outside_percent, collected] using opened
  | openCall name =>
      have opened := scanFrom_inFunctionName_append here (here.next '$') []
        ('(' :: rest) wellFormed.2
      rw [scanFrom_inFunctionName_cons, if_pos (by simpa using wellFormed.1)]
        at opened
      simpa [characters, scanFrom_outside_dollar, collected] using opened
  | openBlock =>
      exact scanFrom_outside_opening here rest
  | closeBlock =>
      exact scanFrom_outside_closing here rest

/-- Tokens are scanned off the front of a source, each at its place, when the
rest may follow the last of them. -/
theorem scanFrom_flatMap_characters_append (here : Location)
    {tokens : List Token} {rest : List Char} (lexical : Lexical tokens)
    (separated : ∀ last ∈ tokens.getLast?, last.MayPrecede rest) :
    scanFrom .outside here (tokens.flatMap characters ++ rest) =
      (scanFrom .outside (here.after (tokens.flatMap characters)) rest).behind
        (placeFrom here tokens) := by
  induction tokens generalizing here with
  | nil =>
      rfl
  | cons token others inductionHypothesis =>
      have othersWellFormed : ∀ next ∈ others, next.IsWellFormed :=
        fun next member => lexical.wellFormed next (List.mem_cons_of_mem _ member)
      obtain ⟨tokenSeparated, othersSeparated⟩ :=
        List.isChain_cons.mp lexical.separated
      have mayPrecede : token.MayPrecede (others.flatMap characters ++ rest) := by
        cases others with
        | nil =>
            exact separated token rfl
        | cons next more =>
            intro closes quote
            rw [List.flatMap_cons, List.append_assoc,
              List.head?_append_of_ne_nil _
                (characters_ne_nil (othersWellFormed next List.mem_cons_self)),
              head?_characters_eq_quote_iff
                (othersWellFormed next List.mem_cons_self)] at quote
            exact tokenSeparated next rfl closes quote
      have othersPrecede : ∀ last ∈ others.getLast?, last.MayPrecede rest := by
        intro last member
        refine separated last ?_
        rw [List.getLast?_cons, Option.mem_def.mp member]
        rfl
      rw [List.flatMap_cons, List.append_assoc,
        scanFrom_outside_append here
          (lexical.wellFormed token List.mem_cons_self) mayPrecede,
        inductionHypothesis _ ⟨othersWellFormed, othersSeparated⟩ othersPrecede,
        Location.after_append]
      rfl

/-- Tokens are scanned back from their lexemes, each at its place. -/
theorem scanFrom_flatMap_characters (here : Location) {tokens : List Token}
    (lexical : Lexical tokens) :
    scanFrom .outside here (tokens.flatMap characters) =
      ⟨placeFrom here tokens, none⟩ := by
  have separated : ∀ last ∈ tokens.getLast?, last.MayPrecede [] :=
    fun _ _ _ => by simp
  have scanned := scanFrom_flatMap_characters_append here lexical separated
  rw [List.append_nil] at scanned
  rw [scanned, Scan.behind, scanFrom, Scan.done, List.append_nil]

end Token

end TitleFormatting

import TitleFormatting.Proofs.Template.Lexeme

/-!
# The tokens of a template

Between a template and its source stand its tokens. Their lexemes make up the
source, and the tokens of a canonical template can be told apart again.
-/

namespace TitleFormatting

/-- The tokens of quoted text: one for each quote in front of everything else,
and one for the rest, if anything is left. -/
def quotedTokens : List Char → List Token
  | [] => []
  | c :: rest =>
      if c = '\'' then .quoted "'" :: quotedTokens rest
      else [.quoted (String.ofList (c :: rest))]

mutual

/-- The tokens that a segment is written with. -/
def Segment.tokens : Segment → List Token
  | .literal text => text.toList.map .plain
  | .quoted text => quotedTokens text.toList
  | .field name => [.field name]
  | .call name arguments _ =>
      .openCall name :: (argumentTokens arguments ++ [.plain ')'])
  | .conditional body => .openBlock :: (body.tokens ++ [.closeBlock])

def Template.tokens : Template → List Token
  | ⟨segments⟩ => segmentTokens segments

def segmentTokens : List Segment → List Token
  | [] => []
  | segment :: rest => segment.tokens ++ segmentTokens rest

/-- The tokens of arguments with commas between them. -/
def argumentTokens : List Template → List Token
  | [] => []
  | [last] => last.tokens
  | argument :: next :: rest =>
      argument.tokens ++ .plain ',' :: argumentTokens (next :: rest)

end

/-! ## The lexemes of the tokens are the source -/

theorem flatMap_characters_map_plain (characters : List Char) :
    (characters.map Token.plain).flatMap Token.characters = characters := by
  induction characters with
  | nil =>
      rfl
  | cons c rest inductionHypothesis =>
      rw [List.map_cons, List.flatMap_cons, inductionHypothesis]
      rfl

theorem flatMap_characters_quotedTokens (text : List Char) :
    (quotedTokens text).flatMap Token.characters = quotedCharacters text := by
  induction text with
  | nil =>
      rfl
  | cons c rest inductionHypothesis =>
      by_cases quote : c = '\''
      · simp only [quotedTokens, quotedCharacters, if_pos quote,
          List.flatMap_cons, inductionHypothesis]
        rfl
      · simp [quotedTokens, quotedCharacters, quote, Token.characters]

mutual

theorem Segment.flatMap_characters_tokens :
    ∀ segment : Segment,
      segment.tokens.flatMap Token.characters = segment.characters
  | .literal text => by
      rw [Segment.tokens, flatMap_characters_map_plain, Segment.characters]
  | .quoted text => by
      rw [Segment.tokens, flatMap_characters_quotedTokens, Segment.characters]
  | .field name => by
      simp [Segment.tokens, Segment.characters, Token.characters]
  | .call name arguments _ => by
      have inner := flatMap_characters_argumentTokens arguments
      simp [Segment.tokens, Segment.characters, Token.characters, inner]
  | .conditional body => by
      have inner := body.flatMap_characters_tokens
      simp [Segment.tokens, Segment.characters, Token.characters, inner]

theorem Template.flatMap_characters_tokens :
    ∀ template : Template,
      template.tokens.flatMap Token.characters = template.characters
  | ⟨segments⟩ => by
      rw [Template.tokens, flatMap_characters_segmentTokens segments,
        Template.characters]

theorem flatMap_characters_segmentTokens :
    ∀ segments : List Segment,
      (segmentTokens segments).flatMap Token.characters =
        segmentCharacters segments
  | [] => rfl
  | segment :: rest => by
      rw [segmentTokens, List.flatMap_append, segment.flatMap_characters_tokens,
        flatMap_characters_segmentTokens rest, segmentCharacters]

theorem flatMap_characters_argumentTokens :
    ∀ arguments : List Template,
      (argumentTokens arguments).flatMap Token.characters =
        argumentCharacters arguments
  | [] => rfl
  | [last] => by
      rw [argumentTokens, last.flatMap_characters_tokens, argumentCharacters]
  | argument :: next :: rest => by
      have inner := flatMap_characters_argumentTokens (next :: rest)
      rw [argumentTokens, List.flatMap_append, List.flatMap_cons, inner,
        argument.flatMap_characters_tokens, argumentCharacters]
      rfl

end

/-! ## Tokens of canonical templates can be told apart -/

namespace Token.Lexical

theorem nil : Lexical [] :=
  ⟨by simp, List.isChain_nil⟩

/-- A token that closes no quotes may stand in front of any tokens. -/
theorem cons {token : Token} {rest : List Token}
    (wellFormed : token.IsWellFormed) (free : token.closesQuotes = false)
    (lexical : Lexical rest) : Lexical (token :: rest) where
  wellFormed := by
    simpa [wellFormed] using lexical.wellFormed
  separated := by
    refine List.isChain_cons.mpr ⟨?_, lexical.separated⟩
    intro next _ closes
    rw [free] at closes
    contradiction

theorem append {first second : List Token}
    (firstLexical : Lexical first) (secondLexical : Lexical second)
    (boundary :
      ∀ last ∈ first.getLast?, ∀ next ∈ second.head?,
        last.closesQuotes → ¬ next.isQuoted) :
    Lexical (first ++ second) where
  wellFormed := by
    intro token member
    rcases List.mem_append.mp member with inFirst | inSecond
    · exact firstLexical.wellFormed token inFirst
    · exact secondLexical.wellFormed token inSecond
  separated :=
    firstLexical.separated.append secondLexical.separated boundary

/-- Tokens of which the first is not quoted may stand behind any tokens. -/
theorem append_cons {first rest : List Token} {token : Token}
    (firstLexical : Lexical first) (secondLexical : Lexical (token :: rest))
    (free : token.isQuoted = false) :
    Lexical (first ++ token :: rest) := by
  refine firstLexical.append secondLexical ?_
  intro last _ next member _
  obtain rfl : token = next := by
    simpa using member
  simp [free]

end Token.Lexical

def Segment.isQuoted : Segment → Bool
  | .quoted _ => true
  | _ => false

theorem joins_of_isQuoted {first second : Segment}
    (firstQuoted : first.isQuoted) (secondQuoted : second.isQuoted) :
    first.joins second = true := by
  cases first <;> cases second <;>
    simp_all [Segment.isQuoted, Segment.joins]

theorem quotedTokens_ne_nil {text : List Char} (nonempty : text ≠ []) :
    quotedTokens text ≠ [] := by
  obtain ⟨c, rest, rfl⟩ := List.exists_cons_of_ne_nil nonempty
  by_cases quote : c = '\'' <;> simp [quotedTokens, quote]

theorem lexical_quotedTokens (text : List Char) :
    Token.Lexical (quotedTokens text) := by
  induction text with
  | nil =>
      exact Token.Lexical.nil
  | cons c rest inductionHypothesis =>
      by_cases quote : c = '\''
      · rw [quotedTokens, if_pos quote]
        exact inductionHypothesis.cons (Or.inl rfl) rfl
      · rw [quotedTokens, if_neg quote]
        refine ⟨?_, List.isChain_singleton _⟩
        simp [Token.IsWellFormed, quote]

theorem lexical_map_plain {text : List Char}
    (plain : ∀ c ∈ text, Token.isPlainCharacter c) :
    Token.Lexical (text.map Token.plain) := by
  induction text with
  | nil =>
      exact Token.Lexical.nil
  | cons c rest inductionHypothesis =>
      have restLexical :=
        inductionHypothesis fun d member => plain d (List.mem_cons_of_mem c member)
      exact restLexical.cons (plain c List.mem_cons_self) rfl

namespace Segment

theorem tokens_ne_nil {segment : Segment} (canonical : segment.IsCanonical) :
    segment.tokens ≠ [] := by
  cases segment with
  | literal text =>
      simp only [IsCanonical] at canonical
      simpa [tokens] using canonical.1
  | quoted text =>
      simp only [IsCanonical] at canonical
      exact quotedTokens_ne_nil canonical
  | field name | call name arguments position | conditional body =>
      simp [tokens]

/-- Only the tokens of quoted text begin with a quoted token. -/
theorem isQuoted_of_head? {segment : Segment} {first : Token}
    (member : first ∈ segment.tokens.head?) (quoted : first.isQuoted) :
    segment.isQuoted := by
  cases segment with
  | literal text =>
      simp only [tokens, List.head?_map, Option.mem_def,
        Option.map_eq_some_iff] at member
      obtain ⟨c, _, rfl⟩ := member
      simp [Token.isQuoted] at quoted
  | quoted text =>
      rfl
  | field name | call name arguments position | conditional body =>
      simp only [tokens, List.head?_cons, Option.mem_def,
        Option.some.injEq] at member
      subst member
      simp [Token.isQuoted] at quoted

/-- Only the tokens of quoted text end with a closing quote. -/
theorem isQuoted_of_getLast? {segment : Segment} {last : Token}
    (member : last ∈ segment.tokens.getLast?) (closes : last.closesQuotes) :
    segment.isQuoted := by
  cases segment with
  | literal text =>
      simp only [tokens, List.getLast?_map, Option.mem_def,
        Option.map_eq_some_iff] at member
      obtain ⟨c, _, rfl⟩ := member
      simp [Token.closesQuotes] at closes
  | quoted text =>
      rfl
  | field name =>
      obtain rfl : Token.field name = last := by
        simpa [tokens] using member
      simp [Token.closesQuotes] at closes
  | call name arguments position =>
      obtain rfl : Token.plain ')' = last := by
        simpa [tokens, List.getLast?_cons, List.getLast?_append] using member
      simp [Token.closesQuotes] at closes
  | conditional body =>
      obtain rfl : Token.closeBlock = last := by
        simpa [tokens, List.getLast?_cons, List.getLast?_append] using member
      simp [Token.closesQuotes] at closes

end Segment

mutual

theorem Segment.lexical_tokens :
    ∀ segment : Segment, segment.IsCanonical → Token.Lexical segment.tokens
  | .literal text, canonical => by
      simp only [Segment.IsCanonical] at canonical
      exact lexical_map_plain canonical.2
  | .quoted text, _ => lexical_quotedTokens text.toList
  | .field name, canonical => by
      simp only [Segment.IsCanonical] at canonical
      exact Token.Lexical.nil.cons canonical rfl
  | .call name arguments _, canonical => by
      simp only [Segment.IsCanonical] at canonical
      obtain ⟨named, _, inner⟩ := canonical
      have closing : Token.Lexical [.plain ')'] :=
        Token.Lexical.nil.cons (Token.isPlainCharacter_iff.mpr (by decide)) rfl
      exact ((lexical_argumentTokens arguments inner).append_cons closing rfl).cons
        named rfl
  | .conditional body, canonical => by
      simp only [Segment.IsCanonical] at canonical
      have closing : Token.Lexical [.closeBlock] :=
        Token.Lexical.nil.cons trivial rfl
      exact ((body.lexical_tokens canonical).append_cons closing rfl).cons
        trivial rfl

theorem Template.lexical_tokens :
    ∀ template : Template, template.IsCanonical → Token.Lexical template.tokens
  | ⟨segments⟩, canonical => by
      simp only [Template.IsCanonical] at canonical
      exact lexical_segmentTokens segments canonical.1 canonical.2

theorem lexical_segmentTokens :
    ∀ segments : List Segment,
      segments.IsChain (fun first second => first.joins second = false) →
        SegmentsCanonical segments → Token.Lexical (segmentTokens segments)
  | [], _, _ => Token.Lexical.nil
  | segment :: rest, separate, canonical => by
      simp only [SegmentsCanonical] at canonical
      obtain ⟨separateHead, separateRest⟩ := List.isChain_cons.mp separate
      refine (segment.lexical_tokens canonical.1).append
        (lexical_segmentTokens rest separateRest canonical.2) ?_
      intro last lastMember next nextMember closes quoted
      cases rest with
      | nil =>
          simp [segmentTokens] at nextMember
      | cons follower more =>
          simp only [SegmentsCanonical] at canonical
          rw [segmentTokens, List.head?_append_of_ne_nil _
            (Segment.tokens_ne_nil canonical.2.1)] at nextMember
          have joined := joins_of_isQuoted
            (Segment.isQuoted_of_getLast? lastMember closes)
            (Segment.isQuoted_of_head? nextMember quoted)
          rw [separateHead follower rfl] at joined
          contradiction

theorem lexical_argumentTokens :
    ∀ arguments : List Template,
      ArgumentsCanonical arguments → Token.Lexical (argumentTokens arguments)
  | [], _ => Token.Lexical.nil
  | [last], canonical => by
      simp only [ArgumentsCanonical] at canonical
      exact last.lexical_tokens canonical.1.1
  | argument :: next :: rest, canonical => by
      rw [ArgumentsCanonical] at canonical
      have comma :
          Token.Lexical (.plain ',' :: argumentTokens (next :: rest)) :=
        (lexical_argumentTokens (next :: rest) canonical.2).cons
          (Token.isPlainCharacter_iff.mpr (by decide)) rfl
      exact (argument.lexical_tokens canonical.1.1).append_cons comma rfl

end

end TitleFormatting

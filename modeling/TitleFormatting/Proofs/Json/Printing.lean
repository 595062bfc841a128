import Mathlib.Data.List.Forall2
import TitleFormatting.Json.Layout
import TitleFormatting.Proofs.Json.Members
import TitleFormatting.Proofs.Number.Reading

/-!
# Documents that are read back

What is written for a value is taken apart into the tokens of the value, and from its
tokens the value is put together again, with the members of its objects in the order of
their names.  Words and numerals end only at the character behind them.  Within a
document this is a comma or a line feed.
-/

namespace TitleFormatting

/-! ## Numerals -/

namespace JsonNumber

/-- Only the numeral of zero begins with a zero. -/
theorem head?_toDigits_ne {n : Nat} (positive : n ≠ 0) :
    (Nat.toDigits 10 n).head? ≠ some '0' := by
  induction n using Nat.strongRecOn with
  | ind n inductionHypothesis =>
      rw [Nat.toDigits_eq_if (by decide)]
      by_cases single : n < 10
      · have digits : ∀ digit < 10, digit ≠ 0 → digit.digitChar ≠ '0' := by
          decide
        rw [if_pos single]
        simpa using digits n single positive
      · -- A longer numeral begins as that of the number without its last digit does.
        rw [if_neg single, List.head?_append_of_ne_nil _ Nat.toDigits_ne_nil]
        exact inductionHypothesis (n / 10) (by omega) (by omega)

namespace Numeral

theorem isWhole_toDigits (n : Nat) : isWhole (Nat.toDigits 10 n) = true := by
  by_cases zero : n = 0
  · rw [zero]
    rfl
  · have leading := head?_toDigits_ne zero
    have nonempty : Nat.toDigits 10 n ≠ [] := Nat.toDigits_ne_nil
    unfold isWhole
    split
    · contradiction
    · rfl
    · simpa using leading

theorem ofText?_of_digits {digits : List Char} (allDigits : ∀ c ∈ digits, c.isDigit = true)
    (whole : isWhole digits = true) : ofText? digits = some ⟨false, digits, [], false, []⟩ := by
  have taken := List.takeWhile_eq_self_iff.mpr allDigits
  have dropped := List.dropWhile_eq_nil_iff.mpr allDigits
  unfold ofText?
  split
  next negative unsigned parts =>
    split at parts
    next rest =>
      have isDigit : Char.isDigit '-' = true := allDigits '-' List.mem_cons_self
      contradiction
    next =>
      obtain ⟨rfl, rfl⟩ := Prod.mk.inj parts
      simp only [taken, dropped, whole]
      rfl

end Numeral

theorem ofText?_toDigits {n : Nat} (fits : n < UInt64.size) :
    ofText? (Nat.toDigits 10 n) = some (.integer n) := by
  have value : Number.digitsValue (Nat.toDigits 10 n) = n := by
    rw [← Number.denoted_of_digits Number.isDigit_of_mem_numeral, Number.denoted_numeral]
  have bounded : n < naturalBound := fits
  rw [ofText?, Numeral.ofText?_of_digits Number.isDigit_of_mem_numeral
    (Numeral.isWhole_toDigits n), Option.bind_some, ofNumeral?]
  simp [Numeral.isInteger, value, bounded]

end JsonNumber

/-! ## Tokens -/

mutual

/-- The tokens of a value as it is written. -/
def JsonValue.tokens : JsonValue → List JsonToken
  | .string text => [.text text]
  | .array items =>
    .openArray :: ([JsonToken.comma].intercalate (itemTokens items) ++ [.closeArray])
  | .object members =>
    .openObject :: ([JsonToken.comma].intercalate (memberTokens members) ++ [.closeObject])
  | .null => [.scalar .null]
  | .bool flag => [.scalar (.bool flag)]
  | .number number => [.scalar (.number number)]

def itemTokens : List JsonValue → List (List JsonToken)
  | [] => []
  | item :: rest => item.tokens :: itemTokens rest

def memberTokens : List JsonMember → List (List JsonToken)
  | [] => []
  | ⟨name, value⟩ :: rest =>
    (JsonToken.text name :: .colon :: value.tokens) :: memberTokens rest

end

namespace JsonToken

namespace Reader

/-- These tokens have been read, though the last one may end only at a comma or a line
feed behind it. -/
structure Has (reader : Reader) (tokens : List JsonToken) : Prop where
  ended : reader.ended? = some tokens
  ends : ∀ c, c = ',' ∨ c = '\n' → reader.step? c = begin? tokens c

theorem has_between (tokens : List JsonToken) : Has ⟨.between, tokens⟩ tokens :=
  ⟨rfl, fun _ _ => rfl⟩

end Reader

open Reader

/-- A text is taken apart into these tokens, whatever was read before. -/
def Scans (text : String) (tokens : List JsonToken) : Prop :=
  ∀ before, ∃ reader, text.toList.foldlM step? ⟨.between, before⟩ = some reader ∧
    reader.Has (tokens.reverse ++ before)

/-- The tokens of a text end within the text. -/
def Delimits (text : String) (tokens : List JsonToken) : Prop :=
  ∀ before, text.toList.foldlM step? ⟨.between, before⟩ =
    some ⟨.between, tokens.reverse ++ before⟩

variable {first second : String} {tokens others : List JsonToken}

theorem Delimits.scans (delimits : Delimits first tokens) : Scans first tokens := fun before =>
  ⟨_, delimits before, has_between _⟩

theorem Delimits.append (delimits : Delimits first tokens) (scans : Scans second others) :
    Scans (first ++ second) (tokens ++ others) := by
  intro before
  rw [String.toList_append, List.foldlM_append, delimits before, List.reverse_append,
    List.append_assoc]
  exact scans _

theorem Delimits.append_delimits (delimits : Delimits first tokens)
    (delimitsNext : Delimits second others) :
    Delimits (first ++ second) (tokens ++ others) := by
  intro before
  rw [String.toList_append, List.foldlM_append, delimits before, List.reverse_append,
    List.append_assoc]
  exact delimitsNext _

/-- What ends at the comma or the line feed behind it is delimited by that. -/
theorem Scans.append_delimits {c : Char} {rest : List Char} (scans : Scans first tokens)
    (written : second.toList = c :: rest) (ends : c = ',' ∨ c = '\n')
    (delimitsNext : Delimits second others) :
    Delimits (first ++ second) (tokens ++ others) := by
  intro before
  obtain ⟨reader, scanned, has⟩ := scans before
  have same := delimitsNext (tokens.reverse ++ before)
  rw [written, List.foldlM_cons] at same
  rw [String.toList_append, List.foldlM_append, scanned, List.reverse_append, List.append_assoc,
    written]
  change (reader.step? c >>= _) = _
  rw [has.ends c ends]
  exact same

/-! ## Blanks, words and numerals -/

theorem delimits_margin (level : Nat) : Delimits (JsonValue.margin level) [] := by
  have blanks (count : Nat) (before : List JsonToken) :
      (List.replicate count ' ').foldlM step? ⟨.between, before⟩ = some ⟨.between, before⟩ := by
    induction count with
    | zero =>
        rfl
    | succ count inductionHypothesis =>
        rw [List.replicate_succ, List.foldlM_cons]
        exact inductionHypothesis
  intro before
  rw [JsonValue.margin, String.toList_ofList]
  exact blanks (2 * level) before

theorem scans_null : Scans "null" [.scalar .null] := by
  intro before
  refine ⟨⟨.word ['l', 'l', 'u', 'n'], before⟩, rfl, rfl, ?_⟩
  rintro c (rfl | rfl) <;> rfl

theorem scans_bool (flag : Bool) :
    Scans (if flag then "true" else "false") [.scalar (.bool flag)] := by
  intro before
  cases flag with
  | false =>
      refine ⟨⟨.word ['e', 's', 'l', 'a', 'f'], before⟩, rfl, rfl, ?_⟩
      rintro c (rfl | rfl) <;> rfl
  | true =>
      refine ⟨⟨.word ['e', 'u', 'r', 't'], before⟩, rfl, rfl, ?_⟩
      rintro c (rfl | rfl) <;> rfl

theorem foldlM_step?_digits {digits : List Char} (allDigits : ∀ c ∈ digits, c.isDigit = true)
    (read : List Char) (before : List JsonToken) :
    digits.foldlM step? ⟨.numeral read, before⟩ =
      some ⟨.numeral (digits.reverse ++ read), before⟩ := by
  induction digits generalizing read with
  | nil =>
      rfl
  | cons c rest inductionHypothesis =>
      obtain ⟨isDigit, others⟩ := List.forall_mem_cons.mp allDigits
      have stepped : step? ⟨.numeral read, before⟩ c = some ⟨.numeral (c :: read), before⟩ := by
        simp [step?, isNumeric, isDigit]
      rw [List.foldlM_cons, stepped, List.reverse_cons, List.append_assoc]
      exact inductionHypothesis others (c :: read)

theorem begin?_of_isDigit {c : Char} (isDigit : c.isDigit = true) (before : List JsonToken) :
    begin? before c = some ⟨.numeral [c], before⟩ := by
  obtain ⟨value, small, rfl⟩ := Number.exists_digitChar isDigit
  have foreign : ∀ value < 10, isBlank value.digitChar = false ∧ value.digitChar ≠ '"' ∧
      value.digitChar.isLower = false := by
    decide
  obtain ⟨notBlank, notQuote, notLower⟩ := foreign value small
  simp [begin?, notBlank, notQuote, notLower, isDigit]

theorem scans_natural {n : Nat} (fits : n < UInt64.size) :
    Scans (JsonNumber.integer n).text [.scalar (.natural n)] := by
  intro before
  have written : (JsonNumber.integer n).text.toList = Nat.toDigits 10 n := by
    have unsigned : ¬ (n : Int) < 0 := Int.not_lt.mpr (Int.natCast_nonneg n)
    rw [JsonNumber.text, String.toList_ofList, Number.decimal, if_neg unsigned, Int.natAbs_natCast]
  have digits : ∀ c ∈ Nat.toDigits 10 n, c.isDigit = true := Number.isDigit_of_mem_numeral
  have scanned : (Nat.toDigits 10 n).foldlM step? ⟨.between, before⟩ =
      some ⟨.numeral (Nat.toDigits 10 n).reverse, before⟩ := by
    obtain ⟨first, rest, equality⟩ :=
      List.exists_cons_of_ne_nil (Nat.toDigits_ne_nil : Nat.toDigits 10 n ≠ [])
    rw [equality, List.forall_mem_cons] at digits
    rw [equality, List.foldlM_cons, List.reverse_cons, ← foldlM_step?_digits digits.2]
    exact congrArg (· >>= _) (begin?_of_isDigit digits.1 before)
  have ended : ended? ⟨.numeral (Nat.toDigits 10 n).reverse, before⟩ =
      some (.scalar (.natural n) :: before) := by
    simp only [ended?, List.reverse_reverse, JsonNumber.ofText?_toDigits fits, Option.map_some]
    rfl
  rw [written]
  refine ⟨_, scanned, ended, fun c ends => ?_⟩
  have foreign : isNumeric c = false := by
    rcases ends with rfl | rfl <;> rfl
  rw [step?]
  simp only [foreign, ended]
  rfl

/-! ## Texts -/

theorem step?_unit {c : Char} {digit : Nat} (hexadecimal : hexadecimalValue? c = some digit)
    (read : List Char) (high : Option Nat) (value missing : Nat) (before : List JsonToken) :
    step? ⟨.unit read high value (missing + 2), before⟩ c =
      some ⟨.unit read high (16 * value + digit) (missing + 1), before⟩ := by
  simp [step?, hexadecimal]

/-- Control characters are written as UTF-16 units. -/
theorem foldlM_unit {c : Char} (control : c < ' ') (read : List Char)
    (before : List JsonToken) :
    ('\\' :: 'u' :: '0' :: '0' :: (Nat.toDigits 16 (0x100 + c.toNat)).drop 1).foldlM step?
        ⟨.text read, before⟩ =
      some ⟨.text (c :: read), before⟩ := by
  -- Two zeros and two more digits spell the unit, and it is neither half of a pair.
  have small : c.toNat < 32 := control
  have digits : ∀ n < 32, ((Nat.toDigits 16 (0x100 + n)).drop 1).map hexadecimalValue? =
      [some (n / 16), some (n % 16)] := by
    decide
  obtain ⟨high, others, written, highDigit, mapped⟩ :=
    List.map_eq_cons_iff.mp (digits c.toNat small)
  obtain ⟨low, rest, rfl, lowDigit, ended⟩ := List.map_eq_cons_iff.mp mapped
  obtain rfl := List.map_eq_nil_iff.mp ended
  have firstStep := step?_unit highDigit read none 0 0 before
  have completed : afterUnit? read none c.toNat = some (.text (c :: read)) := by
    have low : isHighSurrogate c.toNat = false ∧ isLowSurrogate c.toNat = false := by
      simp only [isHighSurrogate, isLowSurrogate, Bool.and_eq_false_iff, decide_eq_false_iff_not]
      omega
    rw [afterUnit?, low.1, low.2, Char.ofNat_toNat]
    rfl
  have secondStep : step? ⟨.unit read none (16 * 0 + c.toNat / 16) 1, before⟩ low =
      some ⟨.text (c :: read), before⟩ := by
    simp [step?, lowDigit, Nat.div_add_mod, completed]
  have opened : ['\\', 'u', '0', '0'].foldlM step? ⟨.text read, before⟩ =
      some ⟨.unit read none 0 2, before⟩ := rfl
  rw [written]
  change (['\\', 'u', '0', '0'] ++ [high, low]).foldlM step? _ = _
  rw [List.foldlM_append, opened]
  change (step? _ high >>= fun reader => step? reader low >>= pure) = _
  rw [firstStep]
  exact congrArg (· >>= pure) secondStep

theorem foldlM_escaped (c : Char) (read : List Char) (before : List JsonToken) :
    (JsonValue.escaped c).foldlM step? ⟨.text read, before⟩ =
      some ⟨.text (c :: read), before⟩ := by
  rw [JsonValue.escaped]
  cases found : JsonValue.shortEscapes.lookup c with
  | some letter =>
      have member := List.mem_of_lookup_eq_some found
      simp only [JsonValue.shortEscapes, List.mem_cons, Prod.mk.injEq, List.not_mem_nil,
        or_false] at member
      rcases member with ⟨rfl, rfl⟩ | ⟨rfl, rfl⟩ | ⟨rfl, rfl⟩ | ⟨rfl, rfl⟩ | ⟨rfl, rfl⟩ |
        ⟨rfl, rfl⟩ | ⟨rfl, rfl⟩ <;> rfl
  | none =>
      have plain := List.lookup_eq_none_iff.mp found
      dsimp only
      by_cases control : c < ' '
      · rw [if_pos control]
        exact foldlM_unit control read before
      · have unquoted : c ≠ '"' := by
          simpa using plain ('"', '"') (by decide)
        have unescaped : c ≠ '\\' := by
          simpa using plain ('\\', '\\') (by decide)
        rw [if_neg control]
        simp [step?, unquoted, unescaped, control]

theorem delimits_quoted (text : String) : Delimits (JsonValue.quoted text) [.text text] := by
  have body (characters read : List Char) (before : List JsonToken) :
      (characters.flatMap JsonValue.escaped).foldlM step? ⟨.text read, before⟩ =
        some ⟨.text (characters.reverse ++ read), before⟩ := by
    induction characters generalizing read with
    | nil =>
        rfl
    | cons c rest inductionHypothesis =>
        rw [List.flatMap_cons, List.foldlM_append, foldlM_escaped, List.reverse_cons,
          List.append_assoc]
        exact inductionHypothesis (c :: read)
  intro before
  have opened : step? ⟨.between, before⟩ '"' = some ⟨.text [], before⟩ := rfl
  rw [JsonValue.quoted, String.toList_ofList, List.foldlM_cons, opened]
  change List.foldlM step? _ _ = _
  rw [List.foldlM_append, body, List.append_nil]
  simp [step?]

/-! ## Lines between brackets -/

theorem scans_intercalate {lines : List String} {pieces : List (List JsonToken)}
    (each : List.Forall₂ Scans lines pieces) (nonempty : lines ≠ []) :
    Scans (",\n".intercalate lines) ([comma].intercalate pieces) := by
  induction each with
  | nil =>
      contradiction
  | cons first rest inductionHypothesis =>
      cases rest with
      | nil =>
          rw [String.intercalate_singleton, List.intercalate_singleton]
          exact first
      | cons second others =>
          have separated : Delimits ",\n" [comma] := fun _ => rfl
          have delimited := first.append_delimits rfl (.inl rfl) separated
          rw [String.intercalate_cons_cons, List.intercalate_cons_cons]
          exact delimited.append (inductionHypothesis (List.cons_ne_nil _ _))

theorem delimits_bracketed {opening closing : String} {opener closer : JsonToken}
    {lines : List String} {pieces : List (List JsonToken)}
    (opens : Delimits opening [opener]) (closes : Delimits closing [closer])
    (each : List.Forall₂ Scans lines pieces) (level : Nat) :
    Delimits (JsonValue.bracketed level opening closing lines)
      (opener :: ([comma].intercalate pieces ++ [closer])) := by
  rw [JsonValue.bracketed]
  cases each with
  | nil =>
      exact opens.append_delimits closes
  | @cons line piece otherLines otherPieces first rest =>
      have indented : List.Forall₂ Scans
          ((line :: otherLines).map (JsonValue.margin (level + 1) ++ ·))
          (piece :: otherPieces) := by
        refine List.forall₂_map_left_iff.mpr ((List.Forall₂.cons first rest).imp ?_)
        exact fun text tokens scans => (delimits_margin (level + 1)).append scans
      have lineFeed : Delimits "\n" [] := fun _ => rfl
      -- The last line ends at the line feed behind it, whatever its last token is.
      have inner := scans_intercalate indented (List.cons_ne_nil _ _)
      have delimited := ((opens.append_delimits lineFeed).append inner).append_delimits rfl
        (.inr rfl) lineFeed
      have whole := (delimited.append_delimits (delimits_margin level)).append_delimits closes
      simpa using whole

end JsonToken

/-! ## Values -/

namespace JsonValue

open JsonToken (Scans Delimits delimits_bracketed delimits_quoted)

/-- The numbers in the value are natural numbers of 64 bits, and no more arrays and objects
are within each other than the depth says. -/
inductive Printable : Nat → JsonValue → Prop
  | null {depth : Nat} : Printable depth .null
  | bool {depth : Nat} (flag : Bool) : Printable depth (.bool flag)
  | natural {depth n : Nat} : n < UInt64.size → Printable depth (.natural n)
  | string {depth : Nat} (text : String) : Printable depth (.string text)
  | array {depth : Nat} {items : List JsonValue} :
      (∀ item ∈ items, Printable depth item) → Printable (depth + 1) (.array items)
  | object {depth : Nat} {members : List JsonMember} :
      (∀ member ∈ members, Printable depth member.value) → Printable (depth + 1) (.object members)

theorem forall₂_layoutItems {items : List JsonValue} {level : Nat}
    (each : ∀ item ∈ items, Scans (item.layout level) item.tokens) :
    List.Forall₂ Scans (layoutItems level items) (itemTokens items) := by
  induction items with
  | nil =>
      exact .nil
  | cons item rest inductionHypothesis =>
      obtain ⟨first, others⟩ := List.forall_mem_cons.mp each
      exact .cons first (inductionHypothesis others)

theorem forall₂_layoutMembers {members : List JsonMember} {level : Nat}
    (each : ∀ member ∈ members, Scans (member.value.layout level) member.value.tokens) :
    List.Forall₂ Scans (layoutMembers level members) (memberTokens members) := by
  induction members with
  | nil =>
      exact .nil
  | cons member rest inductionHypothesis =>
      obtain ⟨name, value⟩ := member
      obtain ⟨first, others⟩ := List.forall_mem_cons.mp each
      have colon : Delimits ": " [.colon] := fun _ => rfl
      have named := ((delimits_quoted name).append_delimits colon).append first
      exact .cons named (inductionHypothesis others)

/-- What is written for a value is taken apart into its tokens. -/
theorem Printable.scans_layout {depth : Nat} {value : JsonValue}
    (printable : Printable depth value) (level : Nat) :
    Scans (value.layout level) value.tokens := by
  induction printable generalizing level with
  | null =>
      exact JsonToken.scans_null
  | bool flag =>
      exact JsonToken.scans_bool flag
  | natural fits =>
      exact JsonToken.scans_natural fits
  | string text =>
      exact (delimits_quoted text).scans
  | array _ inductionHypothesis =>
      have opens : Delimits "[" [.openArray] := fun _ => rfl
      have closes : Delimits "]" [.closeArray] := fun _ => rfl
      have each := forall₂_layoutItems fun item member =>
        inductionHypothesis item member (level + 1)
      exact (delimits_bracketed opens closes each level).scans
  | object _ inductionHypothesis =>
      have opens : Delimits "\x7b" [.openObject] := fun _ => rfl
      have closes : Delimits "\x7d" [.closeObject] := fun _ => rfl
      have each := forall₂_layoutMembers fun member inside =>
        inductionHypothesis member inside (level + 1)
      exact (delimits_bracketed opens closes each level).scans

/-! ## Assembling -/

mutual

/-- The value with the members of its objects in the order of their names. -/
def arranged : JsonValue → JsonValue
  | .array items => .array (arrangedItems items)
  | .object members => .object (arrangedMembers [] members)
  | .null => .null
  | .bool flag => .bool flag
  | .number n => .number n
  | .string text => .string text

def arrangedItems : List JsonValue → List JsonValue
  | [] => []
  | item :: rest => item.arranged :: arrangedItems rest

/-- The members put in the order of their names, behind those put in order before. -/
def arrangedMembers (earlier : List JsonMember) : List JsonMember → List JsonMember
  | [] => earlier
  | ⟨name, value⟩ :: rest =>
    arrangedMembers (JsonMember.insert ⟨name, value.arranged⟩ earlier) rest

end

theorem arrangedItems_eq_map (items : List JsonValue) :
    arrangedItems items = items.map arranged := by
  induction items with
  | nil =>
      rfl
  | cons item rest inductionHypothesis =>
      rw [arrangedItems, inductionHypothesis, List.map_cons]

theorem arrangedMembers_eq_foldl (earlier members : List JsonMember) :
    arrangedMembers earlier members =
      members.foldl (fun before member =>
        JsonMember.insert ⟨member.name, member.value.arranged⟩ before) earlier := by
  induction members generalizing earlier with
  | nil =>
      rfl
  | cons member rest inductionHypothesis =>
      obtain ⟨name, value⟩ := member
      exact inductionHypothesis _

theorem itemTokens_eq_map (items : List JsonValue) : itemTokens items = items.map tokens := by
  induction items with
  | nil =>
      rfl
  | cons item rest inductionHypothesis =>
      rw [itemTokens, inductionHypothesis, List.map_cons]

theorem memberTokens_eq_map (members : List JsonMember) :
    memberTokens members =
      members.map fun member => .text member.name :: .colon :: member.value.tokens := by
  induction members with
  | nil =>
      rfl
  | cons member rest inductionHypothesis =>
      obtain ⟨name, value⟩ := member
      rw [memberTokens, inductionHypothesis, List.map_cons]

open Progress (step? deliver?)

theorem foldlM_singleton (progress : Progress) (token : JsonToken) :
    [token].foldlM step? progress = step? progress token := by
  rw [List.foldlM_cons]
  exact bind_pure _

/-- Parts between commas are added one after the other, when each of them is added where
the first or a later one is due. -/
theorem foldlM_separated {ι σ : Type} (tokens : ι → List JsonToken) (add : σ → ι → σ)
    (due : Bool → σ → Progress) (added : σ → Progress)
    (separated : ∀ state, step? (added state) .comma = some (due false state)) {items : List ι}
    (nonempty : items ≠ [])
    (each : ∀ item ∈ items, ∀ isFirst state,
      (tokens item).foldlM step? (due isFirst state) = some (added (add state item)))
    (isFirst : Bool) (state : σ) :
    ([JsonToken.comma].intercalate (items.map tokens)).foldlM step? (due isFirst state) =
      some (added (items.foldl add state)) := by
  induction items generalizing isFirst state with
  | nil =>
      contradiction
  | cons item rest inductionHypothesis =>
      obtain ⟨head, others⟩ := List.forall_mem_cons.mp each
      cases rest with
      | nil =>
          rw [List.map_singleton, List.intercalate_singleton]
          exact head isFirst state
      | cons second more =>
          have comma := (foldlM_singleton _ .comma).trans (separated (add state item))
          rw [List.map_cons, List.map_cons, List.intercalate_cons_cons, List.foldlM_append,
            List.foldlM_append, head, Option.bind_eq_bind, Option.bind_some, comma]
          exact inductionHypothesis (List.cons_ne_nil _ _) others false (add state item)

/-- The tokens of a value deliver the value, where there is room for it. -/
def Assembles (depth : Nat) (value : JsonValue) : Prop :=
  ∀ (orClose : Bool) (containers : List Container), containers.length + depth ≤ deepest →
    value.tokens.foldlM step? ⟨.value orClose, containers⟩ = deliver? value.arranged containers

theorem foldlM_itemTokens {depth : Nat} {items : List JsonValue} {containers : List Container}
    (each : ∀ item ∈ items, Assembles depth item) (nonempty : items ≠ [])
    (room : containers.length + depth < deepest) :
    ([JsonToken.comma].intercalate (itemTokens items)).foldlM step?
        ⟨.value true, .array [] :: containers⟩ =
      some ⟨.separator, .array (arrangedItems items).reverse :: containers⟩ := by
  have folded : items.foldl (fun read item => item.arranged :: read) [] =
      (arrangedItems items).reverse := by
    rw [arrangedItems_eq_map, List.foldl_flip_cons_eq_append, List.append_nil]
  rw [itemTokens_eq_map, ← folded]
  refine foldlM_separated tokens _ (fun isFirst read => ⟨.value isFirst, .array read :: containers⟩)
    (fun read => ⟨.separator, .array read :: containers⟩) (fun _ => rfl) nonempty ?_ true []
  intro item member isFirst read
  refine each item member isFirst (.array read :: containers) ?_
  rw [List.length_cons]
  omega

theorem foldlM_memberTokens {depth : Nat} {members : List JsonMember}
    {containers : List Container} (each : ∀ member ∈ members, Assembles depth member.value)
    (nonempty : members ≠ []) (room : containers.length + depth < deepest) :
    ([JsonToken.comma].intercalate (memberTokens members)).foldlM step?
        ⟨.name true, .object [] :: containers⟩ =
      some ⟨.separator, .object (arrangedMembers [] members) :: containers⟩ := by
  rw [memberTokens_eq_map, arrangedMembers_eq_foldl]
  refine foldlM_separated _ _ (fun isFirst read => ⟨.name isFirst, .object read :: containers⟩)
    (fun read => ⟨.separator, .object read :: containers⟩) (fun _ => rfl) nonempty ?_ true []
  intro member inside isFirst read
  -- The name and the colon lead to the value, with the name kept beside the members.
  refine each member inside false (.naming member.name read :: containers) ?_
  rw [List.length_cons]
  omega

/-- What stands between brackets is read after the first and before the last of them. -/
theorem foldlM_bracketed {opener closer : JsonToken} {inner : List JsonToken}
    {before inside behind : Progress} (opens : step? before opener = some inside)
    (reads : inner.foldlM step? inside = some behind) :
    (opener :: (inner ++ [closer])).foldlM step? before = step? behind closer := by
  rw [List.foldlM_cons, opens, Option.bind_eq_bind, Option.bind_some, List.foldlM_append, reads]
  exact foldlM_singleton behind closer

theorem Printable.assembles {depth : Nat} {value : JsonValue}
    (printable : Printable depth value) : Assembles depth value := by
  induction printable with
  | null | bool flag | natural fits | string text =>
      intro orClose containers room
      cases orClose <;> exact foldlM_singleton _ _
  | @array depth items _ inductionHypothesis =>
      intro orClose containers room
      have inside : containers.length + depth < deepest := room
      have opened : step? ⟨.value orClose, containers⟩ .openArray =
          some ⟨.value true, .array [] :: containers⟩ :=
        if_pos (Nat.lt_of_le_of_lt (Nat.le_add_right _ depth) inside)
      rw [tokens]
      cases items with
      | nil =>
          exact foldlM_bracketed opened List.foldlM_nil
      | cons item rest =>
          have read := foldlM_itemTokens inductionHypothesis (List.cons_ne_nil _ _) inside
          refine (foldlM_bracketed opened read).trans ?_
          simp [step?, arranged]
  | @object depth members _ inductionHypothesis =>
      intro orClose containers room
      have inside : containers.length + depth < deepest := room
      have opened : step? ⟨.value orClose, containers⟩ .openObject =
          some ⟨.name true, .object [] :: containers⟩ :=
        if_pos (Nat.lt_of_le_of_lt (Nat.le_add_right _ depth) inside)
      rw [tokens]
      cases members with
      | nil =>
          exact foldlM_bracketed opened List.foldlM_nil
      | cons member rest =>
          have read := foldlM_memberTokens inductionHypothesis (List.cons_ne_nil _ _) inside
          exact foldlM_bracketed opened read

/-- A document that was written is read as the value that was written, up to the order of
members. -/
theorem parse?_pretty {value : JsonValue} (printable : Printable deepest value) :
    parse? (value.pretty ++ "\n") = some value.arranged := by
  have lineFeed : Delimits "\n" [] := fun _ => rfl
  have whole := (printable.scans_layout 0).append_delimits rfl (.inr rfl) lineFeed
  have scanned : JsonToken.scan? (value.pretty ++ "\n").toList = some value.tokens := by
    have read := whole []
    rw [JsonToken.scan?, pretty, read]
    simp [JsonToken.Reader.ended?]
  have assembled := printable.assembles false [] (Nat.le_refl _)
  rw [parse?, scanned]
  change (value.tokens.foldlM step? ⟨.value false, []⟩ >>= _) = _
  rw [assembled]
  rfl

end JsonValue

end TitleFormatting

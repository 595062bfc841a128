import TitleFormatting.Proofs.Lint.Rejection
import TitleFormatting.Proofs.Returning

/-!
# Calls that return

A function that is called with as many arguments as the catalog admits reads no
argument that it does not have, and whatever else it computes has a result.  One
thing is left: the two functions that pad numerals hold widths at one more than
the widest numeral, and on that width they come to a halt.
-/

namespace TitleFormatting

/-! ## Arguments -/

/-- How many arguments a function reads by their index. The other functions
look at the arguments that there are. -/
def Builtin.operands : Builtin → Nat
  | .insert | .substr => 3
  | .cut | .left | .right | .longer | .num | .pad | .padRight | .padCut | .padCutRight
  | .repeatText | .strchr | .strrchr | .strstr | .strcmp | .stricmp => 2
  | .caps | .caps2 | .len | .len2 | .lower | .upper | .replace | .roman | .rot13
  | .stripArticle | .swapArticle | .trim | .fixEol | .codePoint | .directory
  | .directoryPath | .filename | .ext | .ansi | .ascii | .crc32 | .hex => 1
  | .ifThen | .if2 | .if3 | .ifEqual | .ifGreater | .ifLonger | .select | .add | .sub
  | .mul | .div | .mod | .muldiv | .min | .max | .greater | .rand | .and | .or | .not
  | .xor | .abbr | .longest | .shortest | .crlf | .tab | .progress | .progress2 => 0

/-- The least number of arguments. -/
def Arity.least : Arity → Nat
  | .exact count => count
  | .range least _ => least
  | .atLeast count => count

theorem Arity.least_le_of_accepts {arity : Arity} {count : Nat}
    (accepted : arity.accepts count = true) : arity.least ≤ count := by
  cases arity with
  | exact n =>
      exact (beq_iff_eq.mp accepted).ge
  | range least most =>
      simp only [accepts, Bool.and_eq_true, decide_eq_true_eq] at accepted
      exact accepted.1
  | atLeast n =>
      exact of_decide_eq_true accepted

namespace Catalog

/-- The catalog admits no call that lacks an argument which its function
reads. -/
theorem operands_le_least :
    ∀ entry ∈ entries, entry.builtin.operands ≤ entry.arity.least := by
  decide

theorem accepts_of_find?_eq_some {name : String} {count : Nat} {entry : CatalogEntry}
    (found : find? name count = some entry) : entry.arity.accepts count = true := by
  rw [find?, Option.orElse_eq_some] at found
  rcases found with exact | ⟨-, accepting⟩
  · have arity := List.find?_some exact
    rw [beq_iff_eq.mp arity, Arity.accepts, beq_self_eq_true]
  · have accepted := List.find?_some accepting
    exact accepted

end Catalog

/-- The call is one of a function that pads numerals, and the width that it asks
for is wider than the widest numeral even when it is held at the greatest
width. -/
def Builtin.PadsTooWide (builtin : Builtin) (arguments : List Argument) : Prop :=
  (builtin = .num ∨ builtin = .hex) ∧
    ∃ width, arguments[1]? = some width ∧ 65536 ≤ width.count

namespace Functions

theorem returns_deriveChecked {f : List Char → Except Fault (List Char)} (atom : Atom)
    (each : ∀ text, Returns (f text)) : Returns (atom.deriveChecked f) := by
  rw [Atom.deriveChecked]
  cases atom.value with
  | none =>
      exact .ok Atom.absent
  | some text =>
      exact (each text.toList).bind fun _ => .ok _

theorem returns_onTextChecked {f : List Char → Except Fault (List Char)}
    {arguments : List Argument} (given : 1 ≤ arguments.length)
    (each : ∀ text, Returns (f text)) : Returns (onTextChecked f arguments) := by
  obtain ⟨text, rest, rfl⟩ := List.exists_cons_of_length_pos given
  exact returns_deriveChecked text.atom each

theorem operandsFrom_eq {arguments : List Argument} {index : Nat}
    (given : index ≤ arguments.length) :
    operandsFrom arguments index = .ok (arguments.drop index) :=
  if_pos given

theorem returns_reading {atom : Except Fault Atom} (returning : Returns atom) :
    Returns (reading atom) :=
  returning.map _

/-- The text is cut at the offset of its index, which is behind whole characters. -/
theorem insertAt_eq (text insertion index : Argument) (rest : List Argument) :
    insertAt (text :: insertion :: index :: rest) =
      .ok (text.atom.deriveText fun t =>
        t.take index.count ++ insertion.characters ++ t.drop index.count) := by
  have cut (t : List Char) :
      (do
        let before ← Text.textBefore (Text.utf8Length (t.take index.count)) t
        let rest ← Text.textFrom (Text.utf8Length (t.take index.count)) t
        return before ++ insertion.characters ++ rest) =
        Except.ok (t.take index.count ++ insertion.characters ++ t.drop index.count) := by
    have before := Text.textBefore_utf8Length (t.take index.count) (t.drop index.count)
    have after := Text.textFrom_utf8Length (t.take index.count) (t.drop index.count)
    rw [List.take_append_drop] at before after
    rw [before, after]
    rfl
  have ran : insertAt (text :: insertion :: index :: rest) =
      text.atom.deriveChecked fun t => do
        let offset := (Text.offsetOfIndex? index.count t).getD (Text.utf8Length t)
        let before ← Text.textBefore offset t
        let rest ← Text.textFrom offset t
        return before ++ insertion.characters ++ rest :=
    rfl
  simp only [ran, Text.getD_offsetOfIndex?, cut]
  obtain ⟨⟨value, truth⟩, quoted⟩ := text
  cases value <;> rfl

/-- A slice begins at the first character when its first number is not positive. -/
theorem substr_eq (text first last : Argument) (rest : List Argument) :
    substr (text :: first :: last :: rest) =
      .ok (text.atom.deriveText (Text.slice first.count last.count)) := by
  have least := first.number.le_toInt
  have greatest := first.number.toInt_lt
  have fits : signed 64 (max first.number.toInt 1 - 1) =
      .ok (max first.number.toInt 1 - 1) :=
    signed_eq (by omega) (by omega)
  have start : (max first.number.toInt 1 - 1).toNat = first.count - 1 := by
    rw [Argument.count]
    omega
  have sliced : (fun t => (t.drop (first.count - 1)).take (last.count - (first.count - 1))) =
      Text.slice first.count last.count := by
    funext t
    exact List.drop_take.symm
  have ran : substr (text :: first :: last :: rest) =
      signed 64 (max first.number.toInt 1 - 1) >>= fun start =>
        .ok (text.atom.deriveText fun t =>
          (t.drop start.toNat).take (last.count - start.toNat)) :=
    rfl
  rw [ran, fits]
  dsimp only [bind, Except.bind]
  rw [start, sliced]

theorem strstr_eq (text sought : Argument) (rest : List Argument) :
    strstr (text :: sought :: rest) =
      .ok (positionAtom (if sought.characters = [] then none
        else Text.firstEnding? sought.characters text.characters)) := by
  by_cases empty : sought.characters = []
  · rw [if_pos empty]
    exact if_pos (List.isEmpty_iff.mpr empty)
  · rw [if_neg empty]
    refine (if_neg (List.isEmpty_iff.not.mpr empty)).trans ?_
    rw [Text.indexOf?_eq]
    rfl

theorem returns_replace {arguments : List Argument} (given : 1 ≤ arguments.length) :
    Returns (replace arguments) :=
  returns_onTextChecked given fun _ => .bind_of_eq (operandsFrom_eq given) (.ok _)

theorem returns_stripArticle {arguments : List Argument} (given : 1 ≤ arguments.length) :
    Returns (stripArticle arguments) :=
  .bind_of_eq (operandsFrom_eq given)
    (returns_onTextChecked given (Text.returns_stripArticle _))

theorem returns_swapArticle {arguments : List Argument} (given : 1 ≤ arguments.length) :
    Returns (swapArticle arguments) :=
  .bind_of_eq (operandsFrom_eq given)
    (returns_onTextChecked given (Text.returns_swapArticle _))

theorem returns_crc32 {arguments : List Argument} (given : 1 ≤ arguments.length) :
    Returns (crc32 arguments) :=
  returns_onTextChecked given fun _ =>
    (Text.Checksum.returns_crc32 _).bind fun _ => .ok _

theorem returns_roman (number : Argument) (rest : List Argument) :
    Returns (roman (number :: rest)) := by
  rw [roman]
  refine .bind_of_eq rfl ((Number.returns_roman? number.number.toInt).bind fun found => ?_)
  cases found <;> exact .ok _

theorem returns_codePoint (number : Argument) (rest : List Argument) :
    Returns (codePoint (number :: rest)) := by
  rw [codePoint]
  refine .bind_of_eq rfl ?_
  dsimp only
  split <;> exact .ok _

theorem returns_muldiv (arguments : List Argument) : Returns (muldiv arguments) := by
  unfold muldiv
  split
  · exact (Number.returns_scaled _ _ _).bind fun _ => .ok _
  · exact .ok _

theorem returns_progress2 (arguments : List Argument) : Returns (progress2 arguments) := by
  unfold progress2
  split
  · refine Returns.bind ?_ fun _ => .ok _
    exact .bind_of_eq (difference_eq (Nat.min_le_right _ _)) (.ok _)
  · exact .ok _

theorem widestNumeral_lt_widthOf_iff (width : Argument) :
    Number.widestNumeral < widthOf width ↔ 65536 ≤ width.count := by
  rw [Number.widestNumeral, widthOf, greatestWidth]
  omega

theorem returns_num (number : Argument) {width : Argument} (rest : List Argument)
    (narrow : ¬ 65536 ≤ width.count) : Returns (num (number :: width :: rest)) := by
  rw [← widestNumeral_lt_widthOf_iff] at narrow
  rw [num]
  refine .bind_of_eq rfl (.bind_of_eq rfl ?_)
  rw [if_neg narrow]
  exact .ok _

theorem returns_hex (number : Argument) {rest : List Argument}
    (narrow : ∀ width, (number :: rest)[1]? = some width → ¬ 65536 ≤ width.count) :
    Returns (hex (number :: rest)) := by
  have small : ¬ Number.widestNumeral < (((number :: rest)[1]?).map widthOf).getD 0 := by
    cases asked : (number :: rest)[1]? with
    | none =>
        exact Nat.not_lt_zero _
    | some width =>
        exact (widestNumeral_lt_widthOf_iff width).not.mpr (narrow width asked)
  rw [hex]
  refine .bind_of_eq rfl ?_
  rw [if_neg small]
  exact .ok _

theorem exists_eq_cons_cons {α : Type} {items : List α} (given : 2 ≤ items.length) :
    ∃ first second rest, items = first :: second :: rest := by
  obtain ⟨first, others, rfl⟩ :=
    List.exists_cons_of_length_pos (Nat.lt_of_lt_of_le Nat.zero_lt_two given)
  obtain ⟨second, rest, rfl⟩ :=
    List.exists_cons_of_length_pos (Nat.lt_of_succ_le (Nat.le_of_succ_le_succ given))
  exact ⟨first, second, rest, rfl⟩

/-- Padding a numeral is the only thing that a call with enough arguments may fail
in. -/
theorem returns_run (draw : UInt32) {builtin : Builtin} {arguments : List Argument}
    (given : builtin.operands ≤ arguments.length)
    (narrow : ¬ builtin.PadsTooWide arguments) : Returns (run draw builtin arguments) := by
  cases builtin with
  | ifThen | if2 | if3 | ifEqual | ifGreater | ifLonger | select | add | sub | mul | div
  | mod | min | max | greater | rand | and | or | not | xor | abbr | longest | shortest
  | crlf | tab | progress =>
      exact .ok _
  | muldiv =>
      exact returns_reading (returns_muldiv arguments)
  | progress2 =>
      exact returns_reading (returns_progress2 arguments)
  | caps | caps2 | len | len2 | lower | upper | trim | ansi | ascii =>
      obtain ⟨text, rest, rfl⟩ := List.exists_cons_of_length_pos given
      exact .ok _
  | replace =>
      exact returns_reading (returns_replace given)
  | stripArticle =>
      exact returns_reading (returns_stripArticle given)
  | swapArticle =>
      exact returns_reading (returns_swapArticle given)
  | crc32 =>
      exact returns_reading (returns_crc32 given)
  | rot13 =>
      exact returns_reading
        (returns_onTextChecked given fun t => returns_mapM t Text.returns_rotateLetter)
  | fixEol =>
      exact returns_reading (returns_onTextChecked given (Text.returns_firstLine _))
  | directory =>
      exact returns_reading (returns_onTextChecked given (Text.Path.returns_directory _))
  | directoryPath =>
      exact returns_reading (returns_onTextChecked given Text.Path.returns_parent)
  | filename =>
      exact returns_reading (returns_onTextChecked given Text.Path.returns_stem)
  | ext =>
      exact returns_reading (returns_onTextChecked given Text.Path.returns_extension)
  | roman =>
      obtain ⟨number, rest, rfl⟩ := List.exists_cons_of_length_pos given
      exact returns_reading (returns_roman number rest)
  | codePoint =>
      obtain ⟨number, rest, rfl⟩ := List.exists_cons_of_length_pos given
      exact returns_reading (returns_codePoint number rest)
  | num =>
      obtain ⟨number, width, rest, rfl⟩ := exists_eq_cons_cons given
      exact returns_reading
        (returns_num number rest fun wide => narrow ⟨.inl rfl, width, rfl, wide⟩)
  | hex =>
      obtain ⟨number, rest, rfl⟩ := List.exists_cons_of_length_pos given
      exact returns_reading
        (returns_hex number fun width asked wide => narrow ⟨.inr rfl, width, asked, wide⟩)
  | cut | left | right | longer | pad | padRight | padCut | padCutRight | repeatText
  | strchr | strrchr | strcmp | stricmp =>
      obtain ⟨first, second, rest, rfl⟩ := exists_eq_cons_cons given
      exact .ok _
  | strstr =>
      obtain ⟨text, sought, rest, rfl⟩ := exists_eq_cons_cons given
      exact returns_reading ⟨_, strstr_eq text sought rest⟩
  | insert =>
      obtain ⟨text, rest, rfl⟩ :=
        List.exists_cons_of_length_pos (Nat.lt_of_lt_of_le (by decide) given)
      obtain ⟨insertion, index, rest, rfl⟩ := exists_eq_cons_cons (Nat.le_of_succ_le_succ given)
      exact returns_reading ⟨_, insertAt_eq text insertion index rest⟩
  | substr =>
      obtain ⟨text, rest, rfl⟩ :=
        List.exists_cons_of_length_pos (Nat.lt_of_lt_of_le (by decide) given)
      obtain ⟨first, last, rest, rfl⟩ := exists_eq_cons_cons (Nat.le_of_succ_le_succ given)
      exact returns_reading ⟨_, substr_eq text first last rest⟩

theorem run_of_padsTooWide (draw : UInt32) {builtin : Builtin} {arguments : List Argument}
    (wide : builtin.PadsTooWide arguments) :
    run draw builtin arguments = .error .widthOutOfRange := by
  obtain ⟨pads, width, asked, wide⟩ := wide
  have within := (List.getElem?_eq_some_iff.mp asked).1
  obtain ⟨number, second, rest, rfl⟩ := exists_eq_cons_cons within
  obtain rfl : second = width := Option.some.inj asked
  have beyond := (widestNumeral_lt_widthOf_iff second).mpr wide
  rcases pads with rfl | rfl
  · have halted : num (number :: second :: rest) = .error .widthOutOfRange := if_pos beyond
    rw [run, halted]
    rfl
  · have halted : hex (number :: second :: rest) = .error .widthOutOfRange := if_pos beyond
    rw [run, halted]
    rfl

end Functions

/-! ## Calls by name -/

/-- The call selects a function that pads numerals and asks it for too wide
a numeral. -/
def CallPadsTooWide (name : String) (arguments : List Argument) : Prop :=
  ∃ entry, Catalog.find? name arguments.length = some entry ∧
    entry.builtin.PadsTooWide arguments

/-- Every call comes to a result or a marker, unless it asks for too wide a
numeral; then it comes to a halt where the numeral is padded.  So no function that
the catalog admits reads an argument which its call does not have, cuts a text
inside a character, reads a list beyond its end or leaves the width of a number,
whichever way the arguments are counted that its entry accepts. -/
theorem invoke_returns_unless_padsTooWide (draw : UInt32) (arguments : List Argument) :
    (∀ name,
      (¬ CallPadsTooWide name arguments → ∃ reply, invoke draw name arguments = .ok reply) ∧
      (CallPadsTooWide name arguments →
        invoke draw name arguments = .error .widthOutOfRange)) ∧
    ∀ entry ∈ Catalog.entries, entry.arity.accepts arguments.length = true →
      (¬ entry.builtin.PadsTooWide arguments →
        ∃ reply, Functions.run draw entry.builtin arguments = .ok reply) ∧
      (entry.builtin.PadsTooWide arguments →
        Functions.run draw entry.builtin arguments = .error .widthOutOfRange) := by
  have admitted : ∀ entry ∈ Catalog.entries,
      entry.arity.accepts arguments.length = true →
        entry.builtin.operands ≤ arguments.length :=
    fun entry member accepted =>
      (Catalog.operands_le_least entry member).trans (Arity.least_le_of_accepts accepted)
  refine ⟨fun name => ⟨fun narrow => ?_, ?_⟩, fun entry member accepted =>
    ⟨Functions.returns_run draw (admitted entry member accepted),
      Functions.run_of_padsTooWide draw⟩⟩
  · rw [invoke]
    cases found : Catalog.find? name arguments.length with
    | none =>
        exact ⟨_, rfl⟩
    | some entry =>
        exact Functions.returns_run draw
          (admitted entry (Catalog.mem_of_find?_eq_some found).1
            (Catalog.accepts_of_find?_eq_some found))
          fun wide => narrow ⟨entry, found, wide⟩
  · rintro ⟨entry, found, wide⟩
    rw [invoke, found]
    exact Functions.run_of_padsTooWide draw wide

/-- The greatest width that is left to a call is one too wide for a numeral, and
a text is cut behind characters of several bytes. -/
theorem invoke_returns_unless_padsTooWide_sample :
    let number (text : String) : Argument := ⟨.found text, false⟩
    (∃ reply, invoke 0 "INSERT" [number "é日", number "ß", number "1"] = .ok reply) ∧
      (∃ reply, invoke 0 "hex" [number "255", number "65535"] = .ok reply) ∧
      invoke 0 "num" [number "7", number "70000"] = .error .widthOutOfRange := by
  intro number
  have inserting : ¬ CallPadsTooWide "INSERT" [number "é日", number "ß", number "1"] := by
    rintro ⟨entry, found, pads, -⟩
    have selected : Catalog.find? "INSERT" 3 = some ⟨"insert", .insert, .exact 3, .string⟩ := by
      cbv
    obtain rfl := Option.some.inj (selected.symm.trans found)
    rcases pads with pads | pads <;> contradiction
  have narrow : ¬ CallPadsTooWide "hex" [number "255", number "65535"] := by
    rintro ⟨entry, -, -, width, asked, wide⟩
    obtain rfl := Option.some.inj asked
    have count : (number "65535").count = 65535 := by
      cbv
    omega
  have wide : CallPadsTooWide "num" [number "7", number "70000"] := by
    refine ⟨⟨"num", .num, .exact 2, .string⟩, by cbv, .inl rfl, _, rfl, ?_⟩
    have count : (number "70000").count = 70000 := by
      cbv
    omega
  exact ⟨((invoke_returns_unless_padsTooWide 0 _).1 "INSERT").1 inserting,
    ((invoke_returns_unless_padsTooWide 0 _).1 "hex").1 narrow,
    ((invoke_returns_unless_padsTooWide 0 _).1 "num").2 wide⟩

end TitleFormatting

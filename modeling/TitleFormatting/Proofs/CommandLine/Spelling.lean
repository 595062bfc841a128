import TitleFormatting.CommandLine.Run
import TitleFormatting.Proofs.Except
import TitleFormatting.Proofs.Number.Reading

/-!
# Arguments that are spelled out

Every value stands behind its option and an equals sign, and the template stands behind
`--`.  Nothing in a value or a template is then taken for an option, so each command can
be asked for any template.
-/

namespace TitleFormatting.CommandLine

variable {rules : List OptionRule} {rule : OptionRule} {name : String}

/-! ## Single options -/

theorem readArgument_dashes {text : String} (nonempty : text.toList ≠ []) :
    readArgument rules ("--" ++ text) = readLong rules text.toList := by
  have characters : ("--" ++ text).toList = '-' :: '-' :: text.toList := by
    rw [String.toList_append]
    rfl
  obtain ⟨c, rest, letters⟩ := List.exists_cons_of_ne_nil nonempty
  rw [readArgument, characters, letters]
  rfl

theorem bne_equals_of_mem {text : List Char} (plain : '=' ∉ text) :
    ∀ c ∈ text, (c != '=') = true := by
  intro c member
  rw [bne_iff_ne]
  rintro rfl
  exact plain member

/-- A long option with its value behind an equals sign. -/
theorem readArgument_valued (listed : rules.find? (·.name == name) = some rule)
    (takesValue : rule.kind = .valued) (plain : '=' ∉ name.toList) (value : String) :
    readArgument rules ("--" ++ (name ++ "=" ++ value)) = .ok (.settings [⟨name, value⟩]) := by
  have characters : (name ++ "=" ++ value).toList = name.toList ++ '=' :: value.toList := by
    simp [String.toList_append]
  have taken : (name.toList ++ '=' :: value.toList).takeWhile (· != '=') = name.toList := by
    rw [List.takeWhile_append_of_pos (bne_equals_of_mem plain)]
    simp
  have dropped : (name.toList ++ '=' :: value.toList).dropWhile (· != '=') =
      '=' :: value.toList := by
    rw [List.dropWhile_append_of_pos (bne_equals_of_mem plain)]
    simp
  have nonempty : (name ++ "=" ++ value).toList ≠ [] := by
    simp [characters]
  rw [readArgument_dashes nonempty, characters, readLong, taken, dropped, String.ofList_toList,
    listed]
  dsimp only
  rw [takesValue]
  dsimp only
  rw [String.ofList_toList]

theorem readArgument_flag (listed : rules.find? (·.name == name) = some rule)
    (isFlag : rule.kind = .flag) (nonempty : name.toList ≠ []) (plain : '=' ∉ name.toList) :
    readArgument rules ("--" ++ name) = .ok (.settings [⟨name, ""⟩]) := by
  have taken : name.toList.takeWhile (· != '=') = name.toList :=
    List.takeWhile_eq_self_iff.mpr (bne_equals_of_mem plain)
  have dropped : name.toList.dropWhile (· != '=') = [] :=
    List.dropWhile_eq_nil_iff.mpr (bne_equals_of_mem plain)
  rw [readArgument_dashes nonempty, readLong, taken, dropped, String.ofList_toList, listed]
  dsimp only
  rw [isFlag]

/-! ## Options and operands -/

/-- A flag as it is spelled, if it is wanted. -/
def flagged (name : String) (wanted : Bool) : List (String × Setting) :=
  if wanted then [("--" ++ name, ⟨name, ""⟩)] else []

/-- An option with a value as it is spelled. -/
def valued (name value : String) : String × Setting :=
  ("--" ++ (name ++ "=" ++ value), ⟨name, value⟩)

/-- All of the arguments are read as the settings that they spell. -/
def AreRead (rules : List OptionRule) (options : List (String × Setting)) : Prop :=
  ∀ option ∈ options, readArgument rules option.1 = .ok (.settings [option.2])

theorem AreRead.append {first second : List (String × Setting)}
    (firstRead : AreRead rules first) (secondRead : AreRead rules second) :
    AreRead rules (first ++ second) := by
  intro option member
  rcases List.mem_append.mp member with inFirst | inSecond
  · exact firstRead option inFirst
  · exact secondRead option inSecond

theorem areRead_flagged (wanted : Bool)
    (listed : rules.find? (·.name == name) = some rule) (isFlag : rule.kind = .flag)
    (nonempty : name.toList ≠ []) (plain : '=' ∉ name.toList) :
    AreRead rules (flagged name wanted) := by
  intro option member
  cases wanted with
  | false =>
      contradiction
  | true =>
      obtain rfl := List.mem_singleton.mp member
      exact readArgument_flag listed isFlag nonempty plain

theorem areRead_valued (listed : rules.find? (·.name == name) = some rule)
    (takesValue : rule.kind = .valued) (plain : '=' ∉ name.toList) (value : String) :
    AreRead rules [valued name value] := by
  intro option member
  obtain rfl := List.mem_singleton.mp member
  exact readArgument_valued listed takesValue plain value

/-- Options that are spelled out, and then the operands. -/
theorem Parts.read_spelledOut {options : List (String × Setting)}
    (read : AreRead rules options) (operands : List String) :
    Parts.read rules none (options.map Prod.fst ++ "--" :: operands) =
      .ok ⟨options.map Prod.snd, operands⟩ := by
  induction options with
  | nil =>
      rfl
  | cons option rest inductionHypothesis =>
      obtain ⟨first, others⟩ := List.forall_mem_cons.mp read
      rw [List.map_cons, List.cons_append, Parts.read, first]
      dsimp only [bind, Except.bind]
      rw [inductionHypothesis others]
      rfl

/-! ## Flags of the program -/

/-- The flags that decide how fields are looked up. -/
def lookupFlags (caseSensitive magic : Bool) : List (String × Setting) :=
  flagged "case-sensitive" caseSensitive ++ flagged "no-magic" (!magic)

theorem areRead_lookupFlags (caseSensitive magic : Bool)
    (listed : ∀ rule ∈ Invocation.programOptions,
      rules.find? (·.name == rule.name) = some rule) :
    AreRead rules (lookupFlags caseSensitive magic) := by
  have cased := listed ⟨"case-sensitive", none, .flag⟩ (by simp [Invocation.programOptions])
  have unmagical := listed ⟨"no-magic", none, .flag⟩ (by simp [Invocation.programOptions])
  apply AreRead.append
  · exact areRead_flagged caseSensitive cased rfl (by decide) (by decide)
  · exact areRead_flagged (!magic) unmagical rfl (by decide) (by decide)

/-- The settings of the flags that decide how fields are looked up. -/
def lookupSettings (caseSensitive magic : Bool) : List Setting :=
  (lookupFlags caseSensitive magic).map Prod.snd

/-- The settings are those of a command, given once, and none of the program itself. -/
structure AreOwn (settings : List Setting) : Prop where
  cased : settings.any (·.name == "case-sensitive") = false
  unmagical : settings.any (·.name == "no-magic") = false
  uncolored : ∀ setting ∈ settings, setting.name ≠ "color"
  once : repeated? Invocation.repeatable settings = none

/-- The program's own flags are told apart from the settings of a command. -/
theorem AreOwn.with_lookupSettings {settings : List Setting} (own : AreOwn settings)
    (caseSensitive magic : Bool) :
    (lookupSettings caseSensitive magic ++ settings).any (·.name == "case-sensitive") =
        caseSensitive ∧
      (lookupSettings caseSensitive magic ++ settings).any (·.name == "no-magic") =
        !magic ∧
      ((lookupSettings caseSensitive magic ++ settings).filter
        (·.name == "color")).map Setting.value = [] ∧
      repeated? Invocation.repeatable (lookupSettings caseSensitive magic ++ settings) =
        none := by
  cases caseSensitive <;> cases magic <;>
    simpa [lookupSettings, lookupFlags, flagged, repeated?, own.cased, own.unmagical,
      own.once] using own.uncolored

/-! ## Commands -/

/-- The name of a command, its options and its operands. -/
def spelledOut (name : String) (options : List (String × Setting))
    (operands : List String) : List String :=
  name :: (options.map Prod.fst ++ "--" :: operands)

/-- A command line gives the flags of the program, and the command is made of all of its
settings. -/
theorem Invocation.ofArguments_spelledOut (caseSensitive magic : Bool)
    {options : List (String × Setting)} {operands : List String}
    {commandOf : Parts → Except Halt Command} {command : Command}
    (operand : readArgument (versionOption :: programOptions) name = .ok .operand)
    (listed : commands.lookup name = some (rules, commandOf))
    (lookups : AreRead (rules ++ programOptions) (lookupFlags caseSensitive magic))
    (read : AreRead (rules ++ programOptions) options)
    (own : AreOwn (options.map Prod.snd))
    (asked : commandOf
      ⟨lookupSettings caseSensitive magic ++ options.map Prod.snd, operands⟩ =
        .ok command) :
    ofArguments (spelledOut name (lookupFlags caseSensitive magic ++ options) operands) =
      .ok ⟨{ caseSensitive, magic }, command⟩ := by
  have before : readToCommand (versionOption :: programOptions) none
      (spelledOut name (lookupFlags caseSensitive magic ++ options) operands) =
        .ok ([], name,
          (lookupFlags caseSensitive magic ++ options).map Prod.fst ++ "--" :: operands) := by
    rw [spelledOut, readToCommand, operand]
    rfl
  have settings : (lookupFlags caseSensitive magic ++ options).map Prod.snd =
      lookupSettings caseSensitive magic ++ options.map Prod.snd :=
    List.map_append
  have parts := Parts.read_spelledOut (lookups.append read) operands
  rw [settings] at parts
  obtain ⟨cased, unmagical, uncolored, once⟩ :=
    own.with_lookupSettings caseSensitive magic
  have unchanged (parts : Parts) : parts.withSettings [] = parts := by
    rfl
  rw [ofArguments, before]
  dsimp only [bind, Except.bind]
  rw [checkRepetition, repeated?]
  dsimp only
  rw [listed]
  dsimp only
  rw [parts]
  dsimp only
  rw [checkRepetition, once]
  dsimp only
  rw [unchanged, Parts.values, uncolored, asked, Parts.has, cased, Parts.has, unmagical,
    Bool.not_not]
  rfl

namespace Invocation

theorem count?_repr {track : Nat} (fits : track < UInt64.size) :
    count? track.repr = some track := by
  have digits : ∀ c ∈ Nat.toDigits 10 track, c.isDigit = true :=
    Number.isDigit_of_mem_numeral
  have value : Number.digitsValue (Nat.toDigits 10 track) = track := by
    rw [← Number.denoted_of_digits digits, Number.denoted_numeral]
  have nonempty : Nat.toDigits 10 track ≠ [] := Nat.toDigits_ne_nil
  rw [count?, Nat.toList_repr]
  cases written : Nat.toDigits 10 track with
  | nil =>
      contradiction
  | cons c rest =>
      rw [written] at digits value
      obtain ⟨first, others⟩ := List.forall_mem_cons.mp digits
      have unsigned : c ≠ '+' := by
        rintro rfl
        contradiction
      simpa [unsigned, value, fits, first] using others

theorem file?_eq {file : String} (named : file ≠ "") : file? file = some file := by
  simp [file?, named]

section

variable (caseSensitive magic : Bool) {file : String} (named : file ≠ "")
  (json : Bool) (template : String)

include named in
theorem ofArguments_eval {track : Nat} (fits : track < UInt64.size) :
    ofArguments (spelledOut "eval"
        (lookupFlags caseSensitive magic ++ (flagged "json" json ++ ([valued "tags" file] ++
          [valued "track" track.repr]))) [template]) =
      .ok ⟨{ caseSensitive, magic }, .eval ⟨template, [], some file, track, json⟩⟩ := by
  have listed : commands.lookup "eval" =
      some (evalOptions, fun parts => return .eval (← evalRequest parts)) := by
    rfl
  have read : AreRead (evalOptions ++ programOptions)
      (flagged "json" json ++ ([valued "tags" file] ++ [valued "track" track.repr])) :=
    (areRead_flagged json rfl rfl (by decide) (by decide)).append
      ((areRead_valued rfl rfl (by decide) file).append
        (areRead_valued rfl rfl (by decide) track.repr))
  apply ofArguments_spelledOut caseSensitive magic rfl listed
    (areRead_lookupFlags caseSensitive magic (by decide)) read
  · cases json <;> constructor <;> simp [flagged, valued, repeated?]
  · cases caseSensitive <;> cases magic <;> cases json <;>
      simp [evalRequest, lookupSettings, lookupFlags, flagged, valued, Parts.values,
        Parts.value?, Parts.has, Parts.operand, convert, file?_eq named, count?_repr fits,
        bind, Except.bind, pure, Except.pure]

include named in
theorem ofArguments_format (unique : Bool) :
    ofArguments (spelledOut "format"
        (lookupFlags caseSensitive magic ++
          (flagged "unique" unique ++ (flagged "json" json ++ [valued "tags" file])))
        [template]) =
      .ok ⟨{ caseSensitive, magic }, .format ⟨template, file, unique, json⟩⟩ := by
  have listed : commands.lookup "format" =
      some (formatOptions, fun parts => return .format (← formatRequest parts)) := by
    rfl
  have read : AreRead (formatOptions ++ programOptions)
      (flagged "unique" unique ++ (flagged "json" json ++ [valued "tags" file])) :=
    (areRead_flagged unique rfl rfl (by decide) (by decide)).append
      ((areRead_flagged json rfl rfl (by decide) (by decide)).append
        (areRead_valued rfl rfl (by decide) file))
  apply ofArguments_spelledOut caseSensitive magic rfl listed
    (areRead_lookupFlags caseSensitive magic (by decide)) read
  · cases unique <;> cases json <;> constructor <;> simp [flagged, valued, repeated?]
  · cases caseSensitive <;> cases magic <;> cases unique <;> cases json <;>
      simp [formatRequest, lookupSettings, lookupFlags, flagged, valued, Parts.values,
        Parts.value?, Parts.has, Parts.operand, convert, file?_eq named, bind, Except.bind,
        pure, Except.pure]

theorem ofArguments_check (strict : Bool) :
    ofArguments (spelledOut "check"
        (lookupFlags caseSensitive magic ++ (flagged "json" json ++ flagged "strict" strict))
        [template]) =
      .ok ⟨{ caseSensitive, magic }, .check ⟨[template], json, strict⟩⟩ := by
  have listed : commands.lookup "check" =
      some (checkOptions, fun parts => return .check (← checkRequest parts)) := by
    rfl
  have read : AreRead (checkOptions ++ programOptions)
      (flagged "json" json ++ flagged "strict" strict) :=
    (areRead_flagged json rfl rfl (by decide) (by decide)).append
      (areRead_flagged strict rfl rfl (by decide) (by decide))
  apply ofArguments_spelledOut caseSensitive magic rfl listed
    (areRead_lookupFlags caseSensitive magic (by decide)) read
  · cases json <;> cases strict <;> constructor <;> simp [flagged, repeated?]
  · cases caseSensitive <;> cases magic <;> cases json <;> cases strict <;> rfl

end

end Invocation

/-! ## Command lines for one template -/

/-- Arguments by which three commands are asked for one template with the same options:
to evaluate it on a track of a tag file, to format all tracks of that file with it, and to
check it. -/
structure CommandLines (options : Options) (template file : String) (track : Nat) where
  eval : (json : Bool) → List String
  format : (json : Bool) → List String
  check : (json strict : Bool) → List String
  eval_asks : ∀ json, Invocation.ofArguments (eval json) =
    .ok ⟨options, .eval ⟨template, [], some file, track, json⟩⟩
  format_asks : ∀ json, Invocation.ofArguments (format json) =
    .ok ⟨options, .format ⟨template, file, false, json⟩⟩
  check_asks : ∀ json strict, Invocation.ofArguments (check json strict) =
    .ok ⟨options, .check ⟨[template], json, strict⟩⟩

/-- Every template can be asked for, whatever it begins with. -/
def CommandLines.spelledOut (caseSensitive magic : Bool) (template : String)
    {file : String} (named : file ≠ "") {track : Nat} (fits : track < UInt64.size) :
    CommandLines { caseSensitive, magic } template file track where
  eval json := CommandLine.spelledOut "eval"
    (lookupFlags caseSensitive magic ++ (flagged "json" json ++ ([valued "tags" file] ++
      [valued "track" track.repr]))) [template]
  format json := CommandLine.spelledOut "format"
    (lookupFlags caseSensitive magic ++ (flagged "json" json ++ [valued "tags" file]))
      [template]
  check json strict := CommandLine.spelledOut "check"
    (lookupFlags caseSensitive magic ++ (flagged "json" json ++ flagged "strict" strict))
      [template]
  eval_asks json := Invocation.ofArguments_eval caseSensitive magic named json template fits
  format_asks json :=
    Invocation.ofArguments_format caseSensitive magic named json template false
  check_asks json strict :=
    Invocation.ofArguments_check caseSensitive magic json template strict

end TitleFormatting.CommandLine

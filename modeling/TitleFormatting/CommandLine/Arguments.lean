/-!
The syntax of command-line arguments. An option has a long name, as in
`--name value` or `--name=value`, and perhaps a letter, as in `-n value` or
`-nvalue`; letters of options without a value can be joined. Everything else
is an operand, as is everything after `--`.
-/

namespace TitleFormatting.CommandLine

/-- A text about the program itself. -/
inductive Page where
  | help
  | version
deriving DecidableEq, Repr

inductive OptionKind where
  | flag
  | valued
  /-- Shows a page instead of running anything. -/
  | page (page : Page)
deriving DecidableEq, Repr

/-- An option that a command knows. -/
structure OptionRule where
  name : String
  letter : Option Char
  kind : OptionKind
deriving DecidableEq, Repr

/-- Why arguments are refused. -/
inductive UsageError where
  | missingCommand
  | unknownCommand (name : String)
  | unknownOption (option : String)
  | missingValue (option : String)
  | unwantedValue (option : String)
  | invalidValue (option value : String)
  | repeatedOption (option : String)
  | missingOption (option : String)
  | missingOperand
  | unexpectedOperand (operand : String)
deriving DecidableEq, Repr

namespace UsageError

def message : UsageError → String
  | missingCommand => "a command is required"
  | unknownCommand name => "unknown command '" ++ name ++ "'"
  | unknownOption option => "unknown option '" ++ option ++ "'"
  | missingValue option => "option '--" ++ option ++ "' requires a value"
  | unwantedValue option => "option '--" ++ option ++ "' takes no value"
  | invalidValue option value => "invalid value '" ++ value ++ "' for option '--" ++ option ++ "'"
  | repeatedOption option => "option '--" ++ option ++ "' is given more than once"
  | missingOption option => "option '--" ++ option ++ "' is required"
  | missingOperand => "a template is required"
  | unexpectedOperand operand => "unexpected argument '" ++ operand ++ "'"

end UsageError

/-- Why no command is run. -/
inductive Halt where
  | page (page : Page)
  | misuse (error : UsageError)
deriving DecidableEq, Repr

/-- An option as it was given; the value of a flag is empty. -/
structure Setting where
  name : String
  value : String
deriving DecidableEq, Repr

/-- One argument where an option may begin. -/
inductive Reading where
  | operand
  /-- The argument `--`. -/
  | endOfOptions
  | settings (settings : List Setting)
  /-- Settings and then an option whose value is the next argument. -/
  | awaiting (settings : List Setting) (option : String)
deriving DecidableEq, Repr

/-- Read an option given by its long name, with or without a value. -/
def readLong (rules : List OptionRule) (text : List Char) : Except Halt Reading :=
  let name := String.ofList (text.takeWhile (· != '='))
  match rules.find? (·.name == name) with
  | none => .error (.misuse (.unknownOption name))
  | some rule =>
    match rule.kind, text.dropWhile (· != '=') with
    | .valued, [] => .ok (.awaiting [] name)
    | .valued, _ :: value => .ok (.settings [⟨name, String.ofList value⟩])
    | .flag, [] => .ok (.settings [⟨name, ""⟩])
    | .page page, [] => .error (.page page)
    | _, _ => .error (.misuse (.unwantedValue name))

/-- Read letters that follow a hyphen. What stands behind the letter of an
option with a value is that value, except for one equals sign. -/
def readLetters (rules : List OptionRule) (settings : List Setting) :
    List Char → Except Halt Reading
  | [] => .ok (.settings settings)
  | letter :: rest =>
    match rules.find? (·.letter == some letter) with
    | none => .error (.misuse (.unknownOption letter.toString))
    | some rule =>
      let given (value : List Char) := settings ++ [⟨rule.name, String.ofList value⟩]
      match rule.kind, rest with
      | .page page, _ => .error (.page page)
      | .flag, _ => readLetters rules (given []) rest
      | .valued, [] => .ok (.awaiting settings rule.name)
      | .valued, '=' :: value => .ok (.settings (given value))
      | .valued, value => .ok (.settings (given value))

/-- Read one argument. A single hyphen is an operand. -/
def readArgument (rules : List OptionRule) (argument : String) : Except Halt Reading :=
  match argument.toList with
  | ['-', '-'] => .ok .endOfOptions
  | '-' :: '-' :: text => readLong rules text
  | '-' :: letter :: rest => readLetters rules [] (letter :: rest)
  | _ => .ok .operand

/-- An argument that can be the value of the option before it. -/
def isValue (argument : String) : Bool :=
  argument == "-" || argument.toList.head? != some '-'

/-- The value of an option that awaits one. -/
def valueOf (option argument : String) : Except Halt Setting :=
  if isValue argument then .ok ⟨option, argument⟩
  else .error (.misuse (.missingValue option))

/-- The arguments of a command taken apart. -/
structure Parts where
  settings : List Setting
  operands : List String
deriving DecidableEq, Repr

namespace Parts

def empty : Parts := ⟨[], []⟩

def withSettings (settings : List Setting) (parts : Parts) : Parts :=
  { parts with settings := settings ++ parts.settings }

def withOperand (operand : String) (parts : Parts) : Parts :=
  { parts with operands := operand :: parts.operands }

/-- Take arguments apart; `awaited` is the option before them if it lacks its
value. -/
def read (rules : List OptionRule) :
    (awaited : Option String) → List String → Except Halt Parts
  | none, [] => .ok .empty
  | some option, [] => .error (.misuse (.missingValue option))
  | some option, argument :: rest => do
    let setting ← valueOf option argument
    return (← read rules none rest).withSettings [setting]
  | none, argument :: rest => do
    match ← readArgument rules argument with
    | .operand => return (← read rules none rest).withOperand argument
    | .endOfOptions => return ⟨[], rest⟩
    | .settings settings => return (← read rules none rest).withSettings settings
    | .awaiting settings option =>
      return (← read rules (some option) rest).withSettings settings

def values (parts : Parts) (option : String) : List String :=
  (parts.settings.filter (·.name == option)).map Setting.value

def value? (parts : Parts) (option : String) : Option String :=
  (parts.values option).head?

def has (parts : Parts) (option : String) : Bool := parts.settings.any (·.name == option)

def operand (parts : Parts) : Except Halt String :=
  match parts.operands with
  | [] => .error (.misuse .missingOperand)
  | [operand] => .ok operand
  | _ :: operand :: _ => .error (.misuse (.unexpectedOperand operand))

end Parts

/-- Take apart the arguments before a command: the settings, the name of the
command and the arguments after it. -/
def readToCommand (rules : List OptionRule) :
    (awaited : Option String) → List String →
      Except Halt (List Setting × String × List String)
  | none, [] => .error (.misuse .missingCommand)
  | some option, [] => .error (.misuse (.missingValue option))
  | some option, argument :: rest => do
    let setting ← valueOf option argument
    let (settings, command) ← readToCommand rules none rest
    return (setting :: settings, command)
  | none, argument :: rest => do
    match ← readArgument rules argument with
    | .operand => return ([], argument, rest)
    | .endOfOptions => .error (.misuse .missingCommand)
    | .settings given =>
      let (settings, command) ← readToCommand rules none rest
      return (given ++ settings, command)
    | .awaiting given option =>
      let (settings, command) ← readToCommand rules (some option) rest
      return (given ++ settings, command)

/-- An option that was given more than once, apart from those that may be. -/
def repeated? (repeatable : List String) : List Setting → Option String
  | [] => none
  | setting :: rest =>
    if !repeatable.contains setting.name && rest.any (·.name == setting.name) then
      some setting.name
    else repeated? repeatable rest

def checkRepetition (repeatable : List String) (settings : List Setting) : Except Halt Unit :=
  match repeated? repeatable settings with
  | some option => .error (.misuse (.repeatedOption option))
  | none => .ok ()

end TitleFormatting.CommandLine

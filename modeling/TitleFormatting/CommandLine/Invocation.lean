import TitleFormatting.CommandLine.Arguments
import TitleFormatting.Number.Reading
import TitleFormatting.Options

/-!
Invocations of the program: which command is to be run with which settings.
-/

namespace TitleFormatting.CommandLine

/-- Evaluate a template on one track. -/
structure EvalRequest where
  template : String
  /-- Fields that are set for this evaluation. -/
  fields : List (String × String)
  tagFile : Option String
  /-- The number of the track in the tag file, from one on. -/
  track : Nat
  json : Bool
deriving DecidableEq, Repr

/-- Check templates without evaluating them. -/
structure CheckRequest where
  templates : List String
  json : Bool
  /-- Warnings count as failures. -/
  strict : Bool
deriving DecidableEq, Repr

/-- Format every track of a tag file. -/
structure FormatRequest where
  template : String
  tagFile : String
  /-- Leave out results that were printed for an earlier track. -/
  unique : Bool
  json : Bool
deriving DecidableEq, Repr

inductive Command where
  | eval (request : EvalRequest)
  | check (request : CheckRequest)
  | format (request : FormatRequest)
  /-- List the functions. -/
  | functions (json : Bool)
deriving DecidableEq, Repr

/-- The tag file that a command reads. -/
def Command.tagFile? : Command → Option String
  | eval request => request.tagFile
  | format request => some request.tagFile
  | check _ | functions _ => none

/-- A command and the options for its evaluations. -/
structure Invocation where
  options : Options
  command : Command
deriving DecidableEq, Repr

namespace Invocation

/-! The options of the commands. Those of the program itself may stand before
and behind the name of a command. Colours and logs are a matter of the error
stream alone. -/

def programOptions : List OptionRule := [
  ⟨"color", none, .valued⟩,
  ⟨"verbose", some 'v', .flag⟩,
  ⟨"case-sensitive", none, .flag⟩,
  ⟨"no-magic", none, .flag⟩,
  ⟨"help", some 'h', .page .help⟩]

def versionOption : OptionRule := ⟨"version", some 'V', .page .version⟩

def evalOptions : List OptionRule := [
  ⟨"field", some 'f', .valued⟩,
  ⟨"tags", none, .valued⟩,
  ⟨"track", none, .valued⟩,
  ⟨"json", none, .flag⟩]

def checkOptions : List OptionRule := [⟨"json", none, .flag⟩, ⟨"strict", none, .flag⟩]

def formatOptions : List OptionRule := [
  ⟨"tags", none, .valued⟩,
  ⟨"unique", none, .flag⟩,
  ⟨"json", none, .flag⟩]

def functionsOptions : List OptionRule := [⟨"json", none, .flag⟩]

/-- Options that may be given any number of times. -/
def repeatable : List String := ["field"]

/-! The values of options. -/

/-- The value of an option in another form, if it has that form. -/
def convert {α : Type} (option : String) (read? : String → Option α) (value : String) :
    Except Halt α :=
  match read? value with
  | some result => .ok result
  | none => .error (.misuse (.invalidValue option value))

def color? (text : String) : Option Unit :=
  if ["auto", "always", "never"].contains text then some () else none

/-- A field with its value, as in `NAME=VALUE`. -/
def field? (text : String) : Option (String × String) :=
  match text.toList.dropWhile (· != '=') with
  | _ :: value =>
    some (String.ofList (text.toList.takeWhile (· != '=')), String.ofList value)
  | [] => none

/-- The name of a file, which is not empty. -/
def file? (text : String) : Option String := if text.isEmpty then none else some text

/-- An unsigned number of 64 bits, with or without a plus sign. -/
def count? (text : String) : Option Nat :=
  let digits :=
    match text.toList with
    | '+' :: rest => rest
    | rest => rest
  let value := Number.digitsValue digits
  if !digits.isEmpty && digits.all Char.isDigit && value < UInt64.size then some value else none

/-! The commands. -/

def evalRequest (parts : Parts) : Except Halt EvalRequest := do
  let fields ← (parts.values "field").mapM (convert "field" field?)
  let tagFile ← (parts.value? "tags").mapM (convert "tags" file?)
  let track ← (parts.value? "track").mapM (convert "track" count?)
  let template ← parts.operand
  if track.isSome && tagFile.isNone then .error (.misuse (.missingOption "tags"))
  return { template, fields, tagFile, track := track.getD 1, json := parts.has "json" }

def checkRequest (parts : Parts) : Except Halt CheckRequest :=
  if parts.operands.isEmpty then .error (.misuse .missingOperand)
  else .ok ⟨parts.operands, parts.has "json", parts.has "strict"⟩

def formatRequest (parts : Parts) : Except Halt FormatRequest := do
  let template ← parts.operand
  match parts.value? "tags" with
  | none => .error (.misuse (.missingOption "tags"))
  | some value =>
    let tagFile ← convert "tags" file? value
    return { template, tagFile, unique := parts.has "unique", json := parts.has "json" }

def functionsRequest (parts : Parts) : Except Halt Bool :=
  match parts.operands with
  | [] => .ok (parts.has "json")
  | operand :: _ => .error (.misuse (.unexpectedOperand operand))

/-- The commands by their names: the options of each and what it makes of its
arguments. -/
def commands : List (String × List OptionRule × (Parts → Except Halt Command)) := [
  ("eval", evalOptions, fun parts => return .eval (← evalRequest parts)),
  ("check", checkOptions, fun parts => return .check (← checkRequest parts)),
  ("format", formatOptions, fun parts => return .format (← formatRequest parts)),
  ("functions", functionsOptions, fun parts => return .functions (← functionsRequest parts))]

def ofArguments (arguments : List String) : Except Halt Invocation := do
  let (before, name, rest) ← readToCommand (versionOption :: programOptions) none arguments
  checkRepetition repeatable before
  match commands.lookup name with
  | none =>
    if name = "help" then .error (.page .help)
    else .error (.misuse (.unknownCommand name))
  | some (options, commandOf) =>
    let parts ← Parts.read (options ++ programOptions) none rest
    checkRepetition repeatable parts.settings
    let anywhere := parts.withSettings before
    let _ ← (anywhere.values "color").mapM (convert "color" color?)
    let command ← commandOf parts
    let options : Options :=
      { caseSensitive := anywhere.has "case-sensitive", magic := !anywhere.has "no-magic" }
    return { options, command }

end Invocation

end TitleFormatting.CommandLine

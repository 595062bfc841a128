import TitleFormatting.CommandLine.Invocation
import TitleFormatting.CommandLine.Outcome
import TitleFormatting.Lint

/-!
The `check` command: what is wrong with templates and what looks wrong.
-/

namespace TitleFormatting.CommandLine

/-- A template that was checked: why it cannot be read or the warnings about
it. -/
structure CheckedTemplate where
  source : String
  findings : Except SyntaxError (List Warning)

namespace CheckedTemplate

/-- Read a template within the nesting limit of the options and look for
warnings. -/
def check (options : Options) (source : String) : CheckedTemplate :=
  ⟨source, (Template.parse options.maxDepth source).map Template.warnings⟩

def isMalformed (checked : CheckedTemplate) : Bool :=
  match checked.findings with
  | .ok _ => false
  | .error _ => true

def hasWarnings (checked : CheckedTemplate) : Bool :=
  match checked.findings with
  | .ok warnings => !warnings.isEmpty
  | .error _ => false

def value (checked : CheckedTemplate) : JsonValue :=
  let (message, position, warnings) :=
    match checked.findings with
    | .ok warnings => (JsonValue.null, JsonValue.null, warnings)
    | .error error => (.string error.message, .natural error.location.position, [])
  .object [⟨"template", .string checked.source⟩, ⟨"error", message⟩,
    ⟨"position", position⟩, ⟨"warnings", .texts (warnings.map Warning.text)⟩]

/-- Text between the escape sequences that switch a rendition on and off. -/
def rendered (on off : Nat) (text : String) : String :=
  "\x1b[" ++ on.repr ++ "m" ++ text ++ "\x1b[" ++ off.repr ++ "m"

/-- The name of a template by its place among the templates, from one on. -/
def label (number : Nat) : String := "template " ++ number.repr

/-- The findings in lines; errors are a matter of the error stream. -/
def report (number : Nat) (checked : CheckedTemplate) : List String :=
  match checked.findings with
  | .error _ => []
  | .ok [] => [rendered 32 39 "ok" ++ " " ++ label number]
  | .ok warnings =>
    (rendered 33 39 "warning" ++ " " ++ label number) ::
      warnings.map fun warning => "  " ++ rendered 2 0 "-" ++ " " ++ warning.text

/-- The complaint about a template that cannot be read. -/
def complaints (number : Nat) (checked : CheckedTemplate) : Except Fault (List String) :=
  match checked.findings with
  | .ok _ => .ok []
  | .error error => do
    let diagnostic ← error.diagnostic checked.source
    return label number :: complaintsOf diagnostic

end CheckedTemplate

/-- What is said about one template after the other, up to the first one whose
complaint cannot be made. -/
structure CheckRun where
  printed : List String
  complaints : List String
  fault : Option Fault
deriving DecidableEq, Repr

/-- Report on checked templates, the first of which has the given number. -/
def CheckRun.ofChecked : Nat → List CheckedTemplate → CheckRun
  | _, [] => ⟨[], [], none⟩
  | number, checked :: rest =>
    match checked.complaints number with
    | .error fault => ⟨[], [], some fault⟩
    | .ok complaints =>
      let later := ofChecked (number + 1) rest
      ⟨checked.report number ++ later.printed, complaints ++ later.complaints, later.fault⟩

namespace CheckRequest

/-- What a number of checked templates amounts to. -/
def status (request : CheckRequest) (checked : List CheckedTemplate) : ExitStatus :=
  if checked.any (·.isMalformed) || request.strict && checked.any (·.hasWarnings) then .dataError
  else .success

/-- Run the command. Complaints are made in lines only. -/
def run (request : CheckRequest) (options : Options) : Outcome :=
  let checked := request.templates.map (.check options)
  if request.json then
    ⟨request.status checked, document (.array (checked.map (·.value))), []⟩
  else
    let run := CheckRun.ofChecked 1 checked
    match run.fault with
    | some fault => .halted (lines run.printed) run.complaints fault
    | none => ⟨request.status checked, lines run.printed, run.complaints⟩

end CheckRequest

end TitleFormatting.CommandLine

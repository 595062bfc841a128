import TitleFormatting.CommandLine.Check
import TitleFormatting.CommandLine.Eval
import TitleFormatting.CommandLine.Format
import TitleFormatting.CommandLine.FunctionList

/-!
Running the program on arguments. The files it may read and the random numbers
it may draw are given.
-/

namespace TitleFormatting.CommandLine

/-- Run a command with a new formatter. The random number of a call depends on
the number of the track and the position of the call. -/
def Invocation.run (invocation : Invocation) (files : String → Option String)
    (draws : Nat → Nat → UInt32) : Outcome :=
  let formatter : Formatter := { options := invocation.options }
  match invocation.command with
  | .eval request => request.run formatter files (draws request.track)
  | .check request => request.run invocation.options
  | .format request => request.run formatter files draws
  | .functions json => FunctionList.run json

def Page.text : Page → List String
  | help => [
    "Title-formatting template tools", "",
    "titlefmt eval <TEMPLATE> [-f NAME=VALUE]... [--tags FILE [--track N]] [--json]",
    "titlefmt check <TEMPLATE>... [--json] [--strict]",
    "titlefmt format <TEMPLATE> --tags FILE [--unique] [--json]",
    "titlefmt functions [--json]", "",
    "Everywhere: --color auto|always|never, -v, --verbose, --case-sensitive, --no-magic,",
    "-h, --help, -V, --version"]
  | version => ["titlefmt 0.1.0"]

/-- What happens when no command is run. -/
def Halt.outcome : Halt → Outcome
  | .page shown => .success (lines shown.text)
  | .misuse error => ⟨.usage, "", ["error: " ++ error.message]⟩

def run (arguments : List String) (files : String → Option String)
    (draws : Nat → Nat → UInt32) : Outcome :=
  match Invocation.ofArguments arguments with
  | .ok invocation => invocation.run files draws
  | .error stop => stop.outcome

end TitleFormatting.CommandLine

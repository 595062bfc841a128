import TitleFormatting.CommandLine.Arguments
import TitleFormatting.Functions.Argument
import TitleFormatting.Json.Layout
import TitleFormatting.TagFile

/-!
What running a command leads to: an exit status, the text it prints and the
complaints it makes on the error stream.
-/

namespace TitleFormatting.CommandLine

inductive ExitStatus where
  | success
  /-- The arguments were refused. -/
  | usage
  /-- A template is wrong. -/
  | dataError
  /-- Anything else is wrong. -/
  | failure
  /-- An evaluation came to a halt. -/
  | halted
deriving DecidableEq, Repr

def ExitStatus.code : ExitStatus → Nat
  | success => 0
  | usage => 2
  | dataError => 65
  | failure => 70
  | halted => 101

structure Outcome where
  status : ExitStatus
  output : String
  complaints : List String
deriving DecidableEq, Repr

namespace Outcome

/-- A run without complaints. -/
def success (output : String) : Outcome := ⟨.success, output, []⟩

/-- A run that comes to a halt after it has printed and complained about
something. -/
def halted (output : String) (complaints : List String) (fault : Fault) : Outcome :=
  ⟨.halted, output, complaints ++ [fault.message]⟩

end Outcome

/-- Texts with a line feed behind each. -/
def lines (texts : List String) : String := String.join (texts.map (· ++ "\n"))

/-- A JSON document with a line feed behind it. -/
def document (value : JsonValue) : String := value.pretty ++ "\n"

def complaintsOf (diagnostic : Diagnostic) : List String :=
  diagnostic.message :: (diagnostic.help.map ("help: " ++ ·)).toList

inductive Failure where
  | malformed (error : SyntaxError) (source : String)
  | tagFile (error : TagFileError)
  | noSuchTrack (track : Nat) (file : String) (count : Nat)
  | halted (fault : Fault)
deriving DecidableEq, Repr

namespace Failure

def status : Failure → ExitStatus
  | malformed _ _ => .dataError
  | tagFile _ | noSuchTrack _ _ _ => .failure
  | halted _ => .halted

def complaints : Failure → Except Fault (List String)
  | malformed error source => do
    let diagnostic ← error.diagnostic source
    return complaintsOf diagnostic
  | tagFile error => return complaintsOf error.diagnostic
  | noSuchTrack track file count =>
    return ["track " ++ track.repr ++ " is out of range: " ++ file ++ " has " ++ count.repr ++
      " track(s)"]
  | halted fault => .error fault

/-- A run that fails after it has printed something. -/
def outcome (failure : Failure) (output : String) : Outcome :=
  match failure.complaints with
  | .ok complaints => ⟨failure.status, output, complaints⟩
  | .error fault => .halted output [] fault

end Failure

end TitleFormatting.CommandLine

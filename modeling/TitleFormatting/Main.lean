import TitleFormatting.CommandLine.Run

/-!
The program: reads the tag file that its arguments name, if they name one, and
prints the outcome of the run.
-/

namespace TitleFormatting.CommandLine

/-- The content of a file, if it can be read. -/
def readFile? (file : String) : IO (Option String) := do
  try
    return some (← IO.FS.readFile file)
  catch _ =>
    return none

/-- The files that a run may read, in the state they are in now. -/
def filesFor (arguments : List String) : IO (String → Option String) := do
  match (Invocation.ofArguments arguments).toOption.bind (·.command.tagFile?) with
  | none => return fun _ => none
  | some file =>
    let content ← readFile? file
    return fun name => if name = file then content else none

/-- Random numbers by track and position, all from one seed. -/
def drawsFrom (seed track position : Nat) : UInt32 :=
  (mixHash (hash seed) (mixHash (hash track) (hash position))).toUInt32

end TitleFormatting.CommandLine

/-- Run the program and exit with its status. -/
def main (arguments : List String) : IO UInt32 := do
  let files ← TitleFormatting.CommandLine.filesFor arguments
  let seed ← IO.rand 0 (UInt32.size - 1)
  let outcome := TitleFormatting.CommandLine.run arguments files
    (TitleFormatting.CommandLine.drawsFrom seed)
  IO.print outcome.output
  outcome.complaints.forM fun complaint => IO.eprintln complaint
  return outcome.status.code.toUInt32

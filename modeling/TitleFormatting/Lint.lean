import TitleFormatting.Functions.Catalog
import TitleFormatting.Suggestion
import TitleFormatting.Template.Parser

/-!
Static checks of templates: calls that would yield a marker on every track.
-/

namespace TitleFormatting

/-- A problem of a call that is found without evaluating it. -/
inductive Warning where
  | unknownFunction (name : String) (position : Nat) (suggestions : List String)
  | argumentCount (name : String) (position got : Nat) (expected : String)
deriving DecidableEq, Repr

namespace Warning

/-- The suggestions as a question, if there are any. -/
def suggestionText (suggestions : List String) : String :=
  if suggestions.isEmpty then ""
  else " (did you mean " ++ ", ".intercalate (suggestions.map ("$" ++ ·)) ++ "?)"

def text : Warning → String
  | unknownFunction name position suggestions =>
    "unknown function '$" ++ name ++ "' at position " ++ position.repr ++
      suggestionText suggestions
  | argumentCount name position got expected =>
    "'$" ++ name ++ "' does not take " ++ got.repr ++
      " argument(s) at position " ++ position.repr ++ ", expected " ++ expected

end Warning

namespace Lint

/-- The numbers of arguments that control functions support. The catalog
accepts any number for them, because they report broken syntax themselves. -/
def controlCounts : List (String × List Nat) := [
  ("if", [2, 3]), ("if2", [2]), ("ifequal", [4]), ("ifgreater", [4]),
  ("iflonger", [4])]

/-- Several numbers of arguments to choose from. -/
def alternatives (counts : List String) : String := " or ".intercalate counts

/-- What a function of the catalog expects, if not this number of
arguments. -/
def expectedInstead (name : String) (got : Nat) : Option String :=
  match controlCounts.lookup name with
  | some counts =>
    if counts.contains got then none else some (alternatives (counts.map Nat.repr))
  | none =>
    if (Catalog.find? name got).isSome then none
    else
      let named := Catalog.entries.filter (·.name == name)
      some (alternatives (named.map (·.arity.text)))

/-- The warning about a call, if there is one. -/
def warning? (call : Call) : Option Warning :=
  let name := Catalog.canonicalName call.name
  if Catalog.isKnown name then
    (expectedInstead name call.arguments.length).map fun expected =>
      .argumentCount call.name call.position call.arguments.length expected
  else
    some (.unknownFunction call.name call.position
      (Suggestion.closest name Catalog.names))

end Lint

/-- The warnings about a template, in the order of its source. -/
def Template.warnings (template : Template) : List Warning :=
  template.calls.filterMap Lint.warning?

/-- The warnings about a template given by its source. -/
def Template.lint (source : String) : Except SyntaxError (List Warning) := do
  let template ← Template.parse Template.defaultDepth source
  return template.warnings

end TitleFormatting

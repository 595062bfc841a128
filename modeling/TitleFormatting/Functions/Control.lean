import TitleFormatting.Functions.Argument

/-!
Control functions. Each picks at most one of its arguments, and the call then
yields that argument's atom untouched: `$if(%a%,x)` is as true as the literal
`x`, which is false.
-/

namespace TitleFormatting.Functions

/-- The index of the argument that a control function picks, or the marker of
a call with the wrong number of arguments. -/
abbrev Choice := Except Marker (Option Nat)

/-- The marker of a control function whose syntax is broken. -/
def brokenSyntax (function : String) (arguments : List Argument) : Choice :=
  .error (.invalidSyntax function arguments.length)

/-- The then-branch or the else-branch of a comparison. -/
def branch (condition : Bool) : Choice := .ok (some (if condition then 2 else 3))

/-- `$if(cond,then)` and `$if(cond,then,else)`. -/
def ifThen (arguments : List Argument) : Choice :=
  match arguments with
  | [condition, _] => .ok (if condition.truth then some 1 else none)
  | [condition, _, _] => .ok (some (if condition.truth then 1 else 2))
  | _ => brokenSyntax "IF" arguments

/-- `$if2(a,else)`: `a` when it is true. -/
def if2 (arguments : List Argument) : Choice :=
  match arguments with
  | [first, _] => .ok (some (if first.truth then 0 else 1))
  | _ => brokenSyntax "IF2" arguments

/-- `$if3(a1,...,aN,else)`: the first of the `a` that is true. A single
argument has no other branch. -/
def if3 (arguments : List Argument) : Option Nat :=
  match arguments with
  | [] => none
  | [only] => if only.truth then some 0 else none
  | several =>
    let candidates := several.dropLast
    some ((candidates.findIdx? Argument.truth).getD candidates.length)

/-- `$ifequal(n1,n2,then,else)`: the numbers are equal. -/
def ifEqual (arguments : List Argument) : Choice :=
  match arguments with
  | [first, second, _, _] => branch (first.number = second.number)
  | _ => brokenSyntax "IFEQUAL" arguments

/-- `$ifgreater(n1,n2,then,else)`: the first number is the greater. -/
def ifGreater (arguments : List Argument) : Choice :=
  match arguments with
  | [first, second, _, _] => branch (second.number < first.number)
  | _ => brokenSyntax "IFGREATER" arguments

/-- `$iflonger(s,n,then,else)`: `s` has more than `n` characters. -/
def ifLonger (arguments : List Argument) : Choice :=
  match arguments with
  | [text, limit, _, _] => branch (limit.number.toInt < (text.length : Int))
  | _ => brokenSyntax "IFLONGER" arguments

/-- `$select(n,a1,...,aN)`: the `n`-th of the other arguments, counted from
one. -/
def select (arguments : List Argument) : Option Nat :=
  match arguments with
  | [] => none
  | index :: options =>
    let n := index.number.toInt
    if 1 ≤ n && n ≤ (options.length : Int) then some n.toNat else none

/-- The atom of the argument that was picked, or nothing when none was. -/
def picked (arguments : List Argument) (index : Option Nat) : Reply :=
  match index with
  | none => .value .absent .nothing
  | some i =>
    match arguments[i]? with
    | some argument => .value argument.atom (.argument i)
    | none => .value .absent .nothing

/-- The reply of a control function. -/
def choose (arguments : List Argument) (choice : Choice) : Reply :=
  match choice with
  | .ok index => picked arguments index
  | .error marker => .marker marker

end TitleFormatting.Functions

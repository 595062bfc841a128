/-!
Faults: what brings an evaluation to a halt without a result. Texts that are cut
at a byte, lists that are read at an index and numbers that are computed within
a width have no result everywhere; the operations here and those on bytes of
texts come to a fault where there is none.
-/

namespace TitleFormatting

/-- Why an evaluation comes to a halt without a result. -/
inductive Fault where
  /-- A function reads an argument that its call does not have. -/
  | missingArgument (index : Nat)
  /-- A text is cut at a byte that is no boundary between two characters. -/
  | noBoundary (offset : Nat)
  /-- A list is read at an index that it does not have. -/
  | noElement (index : Nat)
  /-- A number does not fit into the width that it is computed in. -/
  | unrepresentable
  /-- A number is to be padded beyond the widest numeral. -/
  | widthOutOfRange
deriving DecidableEq, Repr

namespace Fault

def message : Fault → String
  | missingArgument index => "argument " ++ index.repr ++ " is missing"
  | noBoundary offset => "byte " ++ offset.repr ++ " is not a boundary of the text"
  | noElement index => "element " ++ index.repr ++ " is missing"
  | unrepresentable => "arithmetic overflow"
  | widthOutOfRange => "Formatting argument out of range"

end Fault

/-- The difference of two sizes. -/
def difference (size taken : Nat) : Except Fault { rest : Nat // rest + taken = size } :=
  if fits : taken ≤ size then .ok ⟨size - taken, Nat.sub_add_cancel fits⟩
  else .error .unrepresentable

/-- How many numbers have this many bits. -/
def countOfBits (bits : Nat) : Nat := 1 <<< bits

/-- A value as a signed number of this many bits. -/
def signed (bits : Nat) (value : Int) : Except Fault Int :=
  if -(countOfBits (bits - 1) : Int) ≤ value ∧ value < countOfBits (bits - 1) then .ok value
  else .error .unrepresentable

/-- A value as an unsigned number of this many bits. -/
def unsigned (bits : Nat) (value : Int) : Except Fault Nat :=
  if 0 ≤ value ∧ value < countOfBits bits then .ok value.toNat
  else .error .unrepresentable

/-- The element of a list at an index. -/
def elementAt {α : Type} (items : List α) (index : Nat) : Except Fault α :=
  match items[index]? with
  | some item => .ok item
  | none => .error (.noElement index)

end TitleFormatting

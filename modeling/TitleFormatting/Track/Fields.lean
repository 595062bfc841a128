/-!
The fields of one track, in the order in which they were first set. Setting a
field again replaces its value and keeps its place.
-/

namespace TitleFormatting

/-- Field names with their values; no name is set twice. -/
structure Fields where
  entries : List (String × String)
deriving DecidableEq, Repr

namespace Fields

def empty : Fields := ⟨[]⟩

/-- The entries with the value of `name` replaced, or with a new entry at the
end. -/
def insertEntry (name value : String) : List (String × String) → List (String × String)
  | [] => [(name, value)]
  | (key, old) :: rest =>
    if key = name then (key, value) :: rest
    else (key, old) :: insertEntry name value rest

def insert (fields : Fields) (name value : String) : Fields :=
  ⟨insertEntry name value fields.entries⟩

def get? (fields : Fields) (name : String) : Option String :=
  fields.entries.lookup name

def contains (fields : Fields) (name : String) : Bool := (fields.get? name).isSome

def erase (fields : Fields) (name : String) : Fields :=
  ⟨fields.entries.eraseP (·.1 = name)⟩

/-- The value of a field, if it is set, and the fields without it. -/
def remove (fields : Fields) (name : String) : Option String × Fields :=
  match fields.entries.findIdx? (·.1 = name) with
  | some index => (fields.entries[index]?.map Prod.snd, ⟨fields.entries.eraseIdx index⟩)
  | none => (none, fields)

def names (fields : Fields) : List String := fields.entries.map Prod.fst

def size (fields : Fields) : Nat := fields.entries.length

def isEmpty (fields : Fields) : Bool := fields.entries.isEmpty

/-- The fields of a list of pairs; of a repeated name the last value counts
and the first place. -/
def ofList (pairs : List (String × String)) : Fields :=
  pairs.foldl (fun fields pair => fields.insert pair.1 pair.2) empty

end Fields

end TitleFormatting

import PhoneticSearch.Json.Tree

/-!
# Building trees

The trees of plain values, of lists and of records.
-/

namespace PhoneticSearch.Json.Tree

def ofReal (value : Float) : Tree := .number (some (.real value))

def ofCount (value : Nat) : Tree := .number (some (.integer value))

def ofOption {α : Type} (inner : α → Tree) : Option α → Tree
  | none => .null
  | some value => inner value

def ofList {α : Type} (inner : α → Tree) (values : List α) : Tree := .list (values.map inner) none

def ofFields (fields : List (String × Tree)) : Tree :=
  .object (fields.map fun field => (.ofText field.1, field.2)) none

end PhoneticSearch.Json.Tree

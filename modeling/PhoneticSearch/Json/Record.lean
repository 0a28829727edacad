import PhoneticSearch.Json.Decoder

/-!
# Records

A record is written as an object of named fields or as a list of its fields in order. Its fields
are read independently of each other, each fault with its place in the document, and the record
reports the earliest one.

* `Members`: the fields that a tree gives a record.
* `Fields`: reads a value out of the members; an `Applicative`, so that a record is read as its
  constructor applied to its fields.
* `record`, `openRecord`: decoders of records without and with room for unknown fields.
-/

namespace PhoneticSearch.Json

/-- The fields that a tree gives a record. -/
structure Members where
  title : String
  names : List String
  /-- Whether the fields are given by their order alone. -/
  positional : Bool
  /-- The fields given, in document order. -/
  entries : List (String × Tree)
  /-- The break that ends them early. -/
  stop : Option Break

/-- A fault and its place: the number of entries before it. -/
abbrev Placed := Nat × Fault

/-- Of two faults the one that comes first in the document. -/
def Placed.earlier (a b : Placed) : Placed := if b.1 < a.1 then b else a

def Fields (α : Type) := Members → Except Placed α

instance : Applicative Fields where
  pure a := fun _ => .ok a
  seq f x := fun members =>
    match f members, x () members with
    | .ok f, .ok a => .ok (f a)
    | .ok _, .error fault => .error fault
    | .error fault, .ok _ => .error fault
    | .error fault, .error other => .error (fault.earlier other)

namespace Members

def elements (n : Nat) : String := if n == 1 then s!"{n} element" else s!"{n} elements"

/-- The fault of a field that is not there. It comes after all that is there. -/
def missing (members : Members) (name : String) : Placed :=
  let index := members.names.idxOf name
  let size := elements members.names.length
  (members.entries.length + 1 + index,
    .shape <|
      if members.positional then
        s!"invalid length {index}, expected struct {members.title} with {size}"
      else s!"missing field `{name}`")

def listing (names : List String) : String :=
  match names.map fun name => s!"`{name}`" with
  | [a] => a
  | [a, b] => s!"{a} or {b}"
  | all =>
    let joined := ", ".intercalate all
    s!"one of {joined}"

/-- The first name that is unknown or given twice. -/
def nameFault? (names seen : List String) (place : Nat) : List (String × Tree) → Option Placed
  | [] => none
  | (name, _) :: rest =>
    if !names.contains name then
      let expected := listing names
      some (place, .shape s!"unknown field `{name}`, expected {expected}")
    else if seen.contains name then some (place, .shape s!"duplicate field `{name}`")
    else nameFault? names (name :: seen) (place + 1) rest

/-- The first name that is given twice, or value of an unknown name that is broken. -/
def openNameFault? (names seen : List String) (place : Nat) :
    List (String × Tree) → Option Placed
  | [] => none
  | (name, value) :: rest =>
    if !names.contains name then
      match value.skipBreak? with
      | some cause => some (place, .text cause)
      | none => openNameFault? names seen (place + 1) rest
    else if seen.contains name then some (place, .shape s!"duplicate field `{name}`")
    else openNameFault? names (name :: seen) (place + 1) rest

def stopFault? (members : Members) : Option Placed :=
  members.stop.map fun cause => (members.entries.length, .text cause)

/-- The entries of an object up to the first name that breaks. -/
def namedEntries (stop : Option Break) :
    List (Literal × Tree) → List (String × Tree) × Option Break
  | [] => ([], stop)
  | (name, value) :: rest =>
    match name.text with
    | .ok name =>
      let (entries, stop) := namedEntries stop rest
      ((name, value) :: entries, stop)
    | .error cause => ([], some cause)

/-- The first entry with a name, and its place after `place` others. -/
def find? (name : String) (place : Nat) : List (String × Tree) → Option (Nat × Tree)
  | [] => none
  | (other, value) :: rest =>
    if other == name then some (place, value) else find? name (place + 1) rest

def ofTree? (title : String) (names : List String) : Tree → Option Members
  | .object members stop =>
    let (entries, stop) := namedEntries stop members
    some ⟨title, names, false, entries, stop⟩
  | .list items stop =>
    let stop := if names.length < items.length then some .malformed else stop
    some ⟨title, names, true, names.zip items, stop⟩
  | _ => none

end Members

namespace Fields

/-- The field `name`, read by `inner` where it is given. -/
def field {α : Type} (name : String) (absent : Members → Except Placed α) (inner : Decoder α) :
    Fields α := fun members =>
  match Members.find? name 0 members.entries with
  | some (place, value) => (inner value).mapError fun fault => (place, fault)
  | none => absent members

def required {α : Type} (name : String) (inner : Decoder α) : Fields α :=
  field name (fun members => .error (members.missing name)) inner

def withDefault {α : Type} (name : String) (default : α) (inner : Decoder α) : Fields α :=
  field name (fun _ => .ok default) inner

def optional {α : Type} (name : String) (inner : Decoder α) : Fields (Option α) :=
  withDefault name none (Decoder.nullable inner)

end Fields

namespace Decoder

/-- A record whose other faults `check` finds in its members. -/
def recordWith {α : Type} (check : Members → Option Placed) (title : String) (names : List String)
    (fields : Fields α) : Decoder α := fun tree =>
  match Members.ofTree? title names tree with
  | none =>
    match tree with
    | .deep _ => .error (.text .malformed)
    | other => .error (mismatch s!"struct {title}" other)
  | some members =>
    match fields members, [check members, members.stopFault?].filterMap id with
    | .ok value, [] => .ok value
    | .ok _, fault :: rest => .error (rest.foldl Placed.earlier fault).2
    | .error fault, faults => .error (faults.foldl Placed.earlier fault).2

def record {α : Type} (title : String) (names : List String) (fields : Fields α) : Decoder α :=
  recordWith (fun members => Members.nameFault? names [] 0 members.entries) title names fields

/-- A record that may have fields of other names, which are skipped. -/
def openRecord {α : Type} (title : String) (names : List String) (fields : Fields α) :
    Decoder α :=
  recordWith (fun members => Members.openNameFault? names [] 0 members.entries) title names fields

end Decoder

end PhoneticSearch.Json

import PhoneticSearch.Json.Reader
import PhoneticSearch.Decimal.Layout
import PhoneticSearch.Text.Quoted

/-!
# Reading values out of trees

* `Decoder`: reads a value of a type out of a tree, or says why there is none.
* `text`, `real`, `count`, `listOf`, `nullable`: the decoders of plain values.
* `choice`: the first of several decoders that succeeds on a value without breaks.
* `Decoder.read`: the value of a whole text.
-/

namespace PhoneticSearch.Json

/-- Reads a value out of a tree. -/
abbrev Decoder (α : Type) := Tree → Except Fault α

/-- The fault of a value that is of another kind than the one expected. -/
def mismatch (expected : String) : Tree → Fault
  | .null => .shape s!"invalid type: null, expected {expected}"
  | .bool b => .shape s!"invalid type: boolean `{b}`, expected {expected}"
  | .number (some (.integer n)) => .shape s!"invalid type: integer `{n}`, expected {expected}"
  | .number (some (.real x)) =>
    let shown := Decimal.general x
    .shape s!"invalid type: floating point `{shown}`, expected {expected}"
  | .number none => .text .malformed
  | .string content =>
    match content.text with
    | .ok text =>
      let shown := Text.quoted text
      .shape s!"invalid type: string {shown}, expected {expected}"
    | .error cause => .text cause
  | .list .. => .shape s!"invalid type: sequence, expected {expected}"
  | .object .. => .shape s!"invalid type: map, expected {expected}"
  | .deep value => mismatch expected value
  | .brokenNumeral cause => .text cause
  | .broken cause => .text cause

namespace Decoder

/-- A string, called `expected` where there is none. -/
def textNamed (expected : String) : Decoder String
  | .string content => content.text.mapError .text
  | other => .error (mismatch expected other)

def text : Decoder String := textNamed "a string"

def path : Decoder String := textNamed "path string"

def real : Decoder Float
  | .number (some (.real x)) => .ok x
  | .number (some (.integer n)) => .ok (Float.ofInt n)
  | other => .error (mismatch "f64" other)

def count : Decoder Nat
  | .number (some (.integer (.ofNat n))) => .ok n
  | .number (some (.integer n)) =>
    .error (.shape s!"invalid value: integer `{n}`, expected usize")
  | other => .error (mismatch "usize" other)

def nullable {α : Type} (inner : Decoder α) : Decoder (Option α)
  | .null => .ok none
  | other => (inner other).map some

def items {α : Type} (inner : Decoder α) : List Tree → Except Fault (List α)
  | [] => .ok []
  | item :: rest =>
    match inner item with
    | .error fault => .error fault
    | .ok value => (items inner rest).map (value :: ·)

def listOf {α : Type} (inner : Decoder α) : Decoder (List α)
  | .list trees stop =>
    match items inner trees, stop with
    | .error fault, _ => .error fault
    | .ok _, some cause => .error (.text cause)
    | .ok values, none => .ok values
  | .deep _ => .error (.text .malformed)
  | other => .error (mismatch "a sequence" other)

def firstOf {α : Type} (decoders : List (Decoder α)) (tree : Tree) : Option α :=
  decoders.findSome? fun decoder =>
    match decoder tree with
    | .ok value => some value
    | .error _ => none

/-- A value that one of several decoders accepts. The whole value is read first, so a break in it
comes before any question of shape. -/
def choice {α : Type} (name : String) (decoders : List (Decoder α)) : Decoder α := fun tree =>
  match tree.break? with
  | some cause => .error (.text cause)
  | none =>
    match firstOf decoders tree with
    | some value => .ok value
    | none => .error (.shape s!"data did not match any variant of untagged enum {name}")

/-- The value of a text, which may hold nothing after it. -/
def read {α : Type} (decoder : Decoder α) (text : String) : Except Fault α :=
  let document := Document.ofText text
  match decoder document.root, document.trailing with
  | .error fault, _ => .error fault
  | .ok _, some cause => .error (.text cause)
  | .ok value, none => .ok value

end Decoder

end PhoneticSearch.Json

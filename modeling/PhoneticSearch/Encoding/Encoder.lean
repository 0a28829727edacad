import PhoneticSearch.Encoding.Basic
import PhoneticSearch.Pattern.Segment

/-!
# Encoders

An encoder reads a spelling by the patterns of an encoding, in two passes.

* `Encoder.cells`: the replacements cut the spelling into cells, each with a text and phones. A
  character that no replacement covers is a cell of its own, with an unset phone, or with an empty
  phone if it is a modifier, that is, a literal character of a template.
* `Encoder.overlays`: the templates are matched on the characters of the cells; each match lays its
  phones over the phone under its wildcard.
* `Encoder.transduce`: texts, secondary transliterations and non-empty phones of the cells.
-/

namespace PhoneticSearch

structure Transduction where
  text : String
  repr : String
  phones : List Phone

/-- A stretch of the output and its phones. -/
structure Cell where
  text : List Char
  phones : List Phone

/-- Phones to be laid over the phone at an offset in a cell. -/
structure Overlay where
  cell : Nat
  offset : Nat
  phones : List Phone

structure Rule where
  pattern : Pattern
  automaton : Automaton
  automaton_eq : automaton = pattern.compile

def Rule.ofPattern (pattern : Pattern) : Rule := ⟨pattern, _, rfl⟩

/-- The rules of an encoding by kind, as far as they match anything. -/
structure RuleTable where
  replacements : List Rule
  templates : List Rule
  /-- The literal characters of the templates. -/
  modifiers : List Char

def RuleTable.ofPatterns (patterns : List Pattern) : RuleTable :=
  let live := (patterns.map Rule.ofPattern).filter fun rule => !rule.automaton.isInert
  let templates := live.filter fun rule => !rule.pattern.isReplacement
  { replacements := live.filter fun rule => rule.pattern.isReplacement
    templates
    modifiers := templates.flatMap fun rule => rule.automaton.literals }

structure Encoder where
  encoding : Encoding
  rules : RuleTable
  rules_eq : rules = RuleTable.ofPatterns encoding.patterns

/-- The cell with phones laid over the one at `offset`, or over its last one if it has fewer. The
phone gives way to one phone for each of `phones`. -/
def Cell.overlay (features : FeatureSet) (offset : Nat) (phones : List Phone) (cell : Cell) :
    Cell :=
  if phones.isEmpty then cell
  else
    let index := min offset (cell.phones.length - 1)
    match cell.phones[index]? with
    | none => cell
    | some base =>
      { cell with
        phones := cell.phones.take index ++ phones.map (features.override base) ++
          cell.phones.drop (index + 1) }

namespace Encoder

def ofEncoding (encoding : Encoding) : Encoder := ⟨encoding, _, rfl⟩

def features (encoder : Encoder) : FeatureSet := encoder.encoding.features

/-- Whether a character only modifies others. -/
def isModifier (encoder : Encoder) (c : Char) : Bool := encoder.rules.modifiers.contains c

/-- The spelling cut by the replacements. -/
def segments (encoder : Encoder) (source : List Char) : List (Segment Rule Char) :=
  Segment.segments Rule.automaton encoder.rules.replacements id source

/-- The phone of a character that no replacement covers. -/
def barePhone (encoder : Encoder) (c : Char) : Phone :=
  if encoder.isModifier c then [] else encoder.features.unsetPhone

def cellOf (encoder : Encoder) : Segment Rule Char → Cell
  | .covered rule items =>
    ⟨match rule.pattern.output with
      | some output => output.toList
      | none => items, rule.pattern.phones⟩
  | .bare c => ⟨[c], [encoder.barePhone c]⟩

def reprOf : Segment Rule Char → List Char
  | .covered rule _ =>
    match rule.pattern.repr with
    | some repr => repr.toList
    | none => []
  | .bare _ => []

/-- The cells after the replacement pass. -/
def cells (encoder : Encoder) (source : List Char) : List Cell :=
  (encoder.segments source).map encoder.cellOf

/-- The characters of the cells, each with the number of its cell and its offset in it. -/
def places (cells : List Cell) : List (Char × Nat × Nat) :=
  cells.zipIdx.flatMap fun (cell, number) =>
    cell.text.zipIdx.map fun (c, offset) => (c, number, offset)

def overlayOf : Segment Rule (Char × Nat × Nat) → Option Overlay
  | .covered rule items => do
    let offset ← rule.automaton.wildcard
    let (_, cell, offset) ← items[offset]?
    return ⟨cell, offset, rule.pattern.phones⟩
  | .bare _ => none

/-- The overlays of the templates' matches, from left to right. -/
def overlays (encoder : Encoder) (cells : List Cell) : List Overlay :=
  (Segment.segments Rule.automaton encoder.rules.templates Prod.fst (places cells)).filterMap
    overlayOf

def apply (encoder : Encoder) (overlay : Overlay) (cells : Array Cell) : Array Cell :=
  cells.modify overlay.cell (Cell.overlay encoder.features overlay.offset overlay.phones)

/-- The cells after the template pass, which applies the overlays from right to left. -/
def overlaid (encoder : Encoder) (cells : List Cell) : List Cell :=
  ((encoder.overlays cells).foldr encoder.apply cells.toArray).toList

/-- The phones of cells, without those that only modified others. -/
def phonesOf (cells : List Cell) : List Phone :=
  cells.flatMap fun cell => cell.phones.filter fun phone => !phone.isEmpty

def transduce (encoder : Encoder) (source : String) : Transduction :=
  let segments := encoder.segments source.toList
  let cells := encoder.overlaid (segments.map encoder.cellOf)
  { text := String.ofList (cells.flatMap Cell.text)
    repr := String.ofList (segments.flatMap reprOf)
    phones := phonesOf cells }

def encode (encoder : Encoder) (source : String) : List Phone := (encoder.transduce source).phones

end Encoder

end PhoneticSearch

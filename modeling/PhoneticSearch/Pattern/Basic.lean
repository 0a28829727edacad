import PhoneticSearch.FeatureSet
import PhoneticSearch.Pattern.Automaton

/-!
# Patterns

A pattern is a rule from spelling to phones. With one wildcard it is a template that changes the
phone of the character under the wildcard; any other pattern is a replacement for its input.

* `Pattern.wildcardOffset`, `Pattern.isReplacement`: of which kind a pattern is.
* `Pattern.isInert`: a pattern without input or phones matches nothing.
* `Pattern.compile`: the automaton of a pattern.
-/

namespace PhoneticSearch

structure Pattern where
  input : String
  /-- The text that replaces the input; the input stays where there is none. -/
  output : Option String
  repr : Option String
  phones : List Phone

namespace Pattern

/-- An empty text counts as none. -/
def nonempty (text : Option String) : Option String := text.filter (· ≠ "")

/-- The pattern with an input and phones; empty texts are dropped. -/
def ofParts (input : String) (phones : List Phone) (output repr : Option String) : Pattern :=
  ⟨input, nonempty output, nonempty repr, phones⟩

def template (pattern : Pattern) : List Char := pattern.input.toList

/-- The place of the wildcard in the input, if there is exactly one. -/
def wildcardOffset (pattern : Pattern) : Option Nat :=
  if pattern.template.count wildcard = 1 then some (pattern.template.idxOf wildcard) else none

def isReplacement (pattern : Pattern) : Bool := pattern.wildcardOffset.isNone

def length (pattern : Pattern) : Nat := pattern.template.length

def isInert (pattern : Pattern) : Bool := pattern.template.isEmpty || pattern.phones.isEmpty

def compile (pattern : Pattern) : Automaton :=
  if pattern.isInert then .inert
  else
    match pattern.wildcardOffset with
    | none => .literal pattern.template
    | some offset => (Automaton.template? pattern.template offset).getD .inert

end Pattern

end PhoneticSearch

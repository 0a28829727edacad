import PhoneticSearch.Pattern.Automaton

/-!
# Segments

A row of items with characters is cut from left to right by rules: where rules match, the longest
match is cut off, of several rules the first; elsewhere one item is left bare.

* `longestMatch`: the match at the start of the row, found by running all rules side by side.
* `segments`: the whole row, cut.
-/

namespace PhoneticSearch

variable {ρ α : Type}

inductive Segment (ρ α : Type) where
  /-- Items that a rule matches. -/
  | covered (rule : ρ) (items : List α)
  /-- An item at which no match begins. -/
  | bare (item : α)

def Segment.items : Segment ρ α → List α
  | covered _ items => items
  | bare item => [item]

namespace Segment

/-- The rules that still agree with the text, each with its state, after one more character. -/
@[specialize]
def advance (automaton : ρ → Automaton) (c : Char) : List (ρ × Scan) → List (ρ × Scan)
  | [] => []
  | (rule, scan) :: rest =>
    match (automaton rule).step scan c with
    | .failed => advance automaton c rest
    | next => (rule, next) :: advance automaton c rest

@[specialize]
def complete? (automaton : ρ → Automaton) (live : List (ρ × Scan)) : Option ρ :=
  (live.find? fun run => (automaton run.1).accepts run.2).map Prod.fst

/-- Reads on while some rule agrees with the text; `best` is the longest match so far, `consumed`
the number of characters read. -/
@[specialize]
def longestFrom (automaton : ρ → Automaton) (char : α → Char) :
    List α → List (ρ × Scan) → Nat → Option (ρ × Nat) → Option (ρ × Nat)
  | [], _, _, best => best
  | item :: rest, live, consumed, best =>
    let live := advance automaton (char item) live
    let best :=
      match complete? automaton live with
      | some rule => some (rule, consumed + 1)
      | none => best
    if live.isEmpty then best else longestFrom automaton char rest live (consumed + 1) best

@[specialize]
def starts (automaton : ρ → Automaton) (rules : List ρ) : List (ρ × Scan) :=
  (rules.map fun rule => (rule, (automaton rule).start)).filter fun run => !run.2.isFailed

/-- The longest match at the start of a row and its length; of several rules the first. -/
@[specialize]
def longestMatch (automaton : ρ → Automaton) (rules : List ρ) (char : α → Char) (row : List α) :
    Option (ρ × Nat) :=
  longestFrom automaton char row (starts automaton rules) 0 none

/-- A row cut into segments. A match is never empty, so each segment uses up an item. -/
@[specialize]
def segments (automaton : ρ → Automaton) (rules : List ρ) (char : α → Char) :
    List α → List (Segment ρ α)
  | [] => []
  | item :: rest =>
    match longestMatch automaton rules char (item :: rest) with
    | some (rule, length) =>
      covered rule ((item :: rest).take length) ::
        segments automaton rules char (rest.drop (length - 1))
    | none => bare item :: segments automaton rules char rest
termination_by row => row.length
decreasing_by
  · simp only [List.length_drop, List.length_cons]; omega
  · simp

end Segment

end PhoneticSearch

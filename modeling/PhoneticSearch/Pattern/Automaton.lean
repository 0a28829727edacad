/-!
# Automata of templates

A template is a row of characters of which at most one may stand for any character. Its automaton
counts the characters that agree with the template so far.

* `Automaton.step`, `Automaton.run`: one character, all characters of a text.
* `Automaton.accepts`: whether a state is that of a complete match.
-/

namespace PhoneticSearch

def wildcard : Char := '_'

inductive Transition where
  | literal (c : Char)
  | any
deriving Repr, DecidableEq

@[inline]
def Transition.accepts : Transition → Char → Bool
  | .literal expected, c => expected == c
  | .any, _ => true

inductive Scan where
  /-- So many characters agree with the template. -/
  | active (consumed : Nat)
  | failed
deriving Repr, DecidableEq

def Scan.isFailed : Scan → Bool
  | .active _ => false
  | .failed => true

/-- The transitions of a template, and the place of its wildcard. -/
structure Automaton where
  transitions : Array Transition
  wildcard : Option Nat
deriving Repr, DecidableEq

namespace Automaton

def literal (template : List Char) : Automaton := ⟨(template.map .literal).toArray, none⟩

/-- The character at `offset` stands for any character; there must be one. -/
def template? (template : List Char) (offset : Nat) : Option Automaton :=
  if offset < template.length then
    some ⟨((template.map Transition.literal).set offset .any).toArray, some offset⟩
  else none

def inert : Automaton := ⟨#[], none⟩

def isInert (automaton : Automaton) : Bool := automaton.transitions.isEmpty

def length (automaton : Automaton) : Nat := automaton.transitions.size

def literals (automaton : Automaton) : List Char :=
  automaton.transitions.toList.filterMap fun
    | .literal c => some c
    | .any => none

def start (automaton : Automaton) : Scan := if automaton.isInert then .failed else .active 0

@[inline]
def step (automaton : Automaton) (scan : Scan) (c : Char) : Scan :=
  match scan with
  | .failed => .failed
  | .active consumed =>
    match automaton.transitions[consumed]? with
    | some transition => if transition.accepts c then .active (consumed + 1) else .failed
    | none => .failed

def run (automaton : Automaton) (text : List Char) : Scan :=
  text.foldl automaton.step automaton.start

/-- The states from `scan` on, before the first character of a text and after each of them. -/
def traceFrom (automaton : Automaton) (scan : Scan) : List Char → List Scan
  | [] => [scan]
  | c :: rest => scan :: traceFrom automaton (automaton.step scan c) rest

def trace (automaton : Automaton) (text : List Char) : List Scan :=
  automaton.traceFrom automaton.start text

@[inline]
def accepts (automaton : Automaton) (scan : Scan) : Bool :=
  !automaton.isInert && scan == .active automaton.length

def matchesText (automaton : Automaton) (text : List Char) : Bool :=
  automaton.accepts (automaton.run text)

@[simp]
theorem step_failed (automaton : Automaton) (c : Char) : automaton.step .failed c = .failed := rfl

/-- A scan that has failed stays failed. -/
theorem foldl_step_failed (automaton : Automaton) (text : List Char) :
    text.foldl automaton.step .failed = .failed := by
  induction text with
  | nil => rfl
  | cons c rest ih => simpa using ih

theorem run_append (automaton : Automaton) (text more : List Char) :
    automaton.run (text ++ more) = more.foldl automaton.step (automaton.run text) := by
  simp [run, List.foldl_append]

end Automaton

end PhoneticSearch

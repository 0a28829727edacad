import PhoneticSearch.Lexicon.Basic
import PhoneticSearch.Matching.Best
import PhoneticSearch.Matching.Expansion
import PhoneticSearch.PhoneDistance
import PhoneticSearch.Readings

/-!
# Matching

A matcher ranks the entries of its lexicons by their distance from a query.

* `Matcher.rank`: the curated readings of a token, then the nearest entries of the lexicons.
* `Matcher.matchToken`: the same through a memory of the tokens answered before.
-/

namespace PhoneticSearch

inductive Origin where
  | lexicon (name : String)
  | readings (name : String)
deriving Repr, DecidableEq

def Origin.name : Origin → String
  | .lexicon name => name
  | .readings name => name

def Origin.isCurated : Origin → Bool
  | .lexicon _ => false
  | .readings _ => true

structure Candidate where
  origin : Origin
  entry : Entry
  distance : Option Float

structure Matcher where
  lexicons : List Lexicon
  readings : Option ReadingTable
  optionCount : Nat
  tolerance : Float
  expansion : Option Expansion

/-- The tokens answered so far, each with its answer. -/
abbrev Memo := List (String × List Candidate)

namespace Matcher

/-- The matcher over lexicons in search order, with bounds applied to its numbers. -/
def ofLexicons (lexicons : List Lexicon) (options : Nat) (tolerance : Float)
    (readings : Option ReadingTable) (expansion : Option Expansion) : Matcher :=
  ⟨lexicons, readings, clampOptions options, clampTolerance tolerance, expansion⟩

def query (matcher : Matcher) (phones : List Phone) : List Phone :=
  match matcher.expansion with
  | some expansion => expansion.expand phones
  | none => phones

def distance (matcher : Matcher) (query phones : List Phone) : Float :=
  sequenceDistance query phones phoneDistance matcher.tolerance

/-- The curated readings of a token. A distance needs phones on both sides. -/
def curated (matcher : Matcher) (token : String) (query : List Phone) : List Candidate :=
  match matcher.readings with
  | none => []
  | some table =>
    (table.lookup token).map fun reading =>
      { origin := .readings table.name
        entry := reading.entry
        distance :=
          if query.isEmpty || reading.entry.phones.isEmpty then none
          else some (matcher.distance query reading.entry.phones) }

/-- The best few with the entries of one more lexicon to choose from. Entries without phones are
passed over. -/
def offerEntries (matcher : Matcher) (query : List Phone) (selection : Selection (String × Entry))
    (lexicon : Lexicon) : Selection (String × Entry) :=
  lexicon.entries.foldl
    (fun selection entry =>
      if entry.phones.isEmpty then selection
      else
        selection.offer matcher.optionCount
          ⟨matcher.distance query entry.phones, (lexicon.name, entry)⟩)
    selection

def nearest (matcher : Matcher) (query : List Phone) : List Candidate :=
  if query.isEmpty then []
  else
    let selection := matcher.lexicons.foldl (matcher.offerEntries query) .empty
    selection.kept.map fun found => ⟨.lexicon found.item.1, found.item.2, some found.distance⟩

def rank (matcher : Matcher) (token : String) (phones : List Phone) : List Candidate :=
  let query := matcher.query phones
  matcher.curated token query ++ matcher.nearest query

/-- Whether the lexicons are looked into for a token. -/
def searches (matcher : Matcher) (memo : Memo) (token : String) (phones : List Phone) : Bool :=
  (memo.lookup token).isNone && !(matcher.query phones).isEmpty

/-- The answers for a token: those remembered, or else those of its phones, which are remembered
from then on. -/
def matchToken (matcher : Matcher) (memo : Memo) (token : String) (phones : List Phone) :
    List Candidate × Memo :=
  match memo.lookup token with
  | some answers => (answers, memo)
  | none =>
    let answers := matcher.rank token phones
    (answers, (token, answers) :: memo)

theorem fst_matchToken (matcher : Matcher) (memo : Memo) (token : String) (phones : List Phone) :
    (matcher.matchToken memo token phones).1 =
      (memo.lookup token).getD (matcher.rank token phones) := by
  rw [matchToken]
  cases memo.lookup token with
  | some known => rfl
  | none => rfl

/-- After a call the memory has its answer, and is as it was for the other tokens. -/
theorem lookup_matchToken (matcher : Matcher) (memo : Memo) (token asked : String)
    (phones : List Phone) :
    (matcher.matchToken memo token phones).2.lookup asked =
      if asked = token then some (matcher.matchToken memo token phones).1
      else memo.lookup asked := by
  cases hlookup : memo.lookup token with
  | some known =>
    have hcall : matcher.matchToken memo token phones = (known, memo) := by
      rw [matchToken, hlookup]
    rw [hcall]
    by_cases hsame : asked = token
    · rw [if_pos hsame, hsame, hlookup]
    · rw [if_neg hsame]
  | none =>
    have hcall : matcher.matchToken memo token phones =
        (matcher.rank token phones, (token, matcher.rank token phones) :: memo) := by
      rw [matchToken, hlookup]
    rw [hcall, List.lookup_cons]
    by_cases hsame : asked = token
    · rw [if_pos hsame, hsame, beq_self_eq_true]
    · rw [if_neg hsame, beq_eq_false_iff_ne.mpr hsame]

end Matcher

end PhoneticSearch

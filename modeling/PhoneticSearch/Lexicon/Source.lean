import PhoneticSearch.Lexicon.Export
import PhoneticSearch.Lexicon.Pronunciations
import PhoneticSearch.Lexicon.WordList

/-!
# Sources of lexicons

* `Format`: the formats of lexicon files, each under the name that a configuration gives it.
* `Source`: entries in memory, or a file in one of the formats.
* `Source.load`: the entries of a source, or why there are none.
-/

namespace PhoneticSearch

inductive Format where
  | pronunciations
  | wordList
  | exported
deriving Repr, DecidableEq

namespace Format

def all : List Format := [pronunciations, wordList, exported]

def name : Format → String
  | pronunciations => "cmudict"
  | wordList => "wordlist"
  | exported => "json"

/-- The format with a name, in any case and with blanks around it. -/
def ofName? (name : String) : Option Format :=
  all.find? fun format => sameIgnoringCase format.name (Text.trim name)

def parse (format : Format) (encoder : Encoder) (limit : Option Nat) (text : String) :
    Except Json.Fault Parsed :=
  match format with
  | pronunciations => .ok (Pronunciations.parse encoder limit text)
  | wordList => .ok ⟨WordList.parse encoder limit text, []⟩
  | exported => (Export.parse encoder limit text).map fun entries => ⟨entries, []⟩

end Format

inductive Source where
  | memory (entries : List Entry)
  | file (format : Format) (path : String) (limit : Option Nat)

namespace Source

def describe : Source → String
  | memory entries =>
    let count := entries.length
    s!"{count} in-memory entries"
  | file .pronunciations path _ => s!"CMU dictionary {path}"
  | file .wordList path _ => s!"word list {path}"
  | file .exported path _ => s!"JSON export {path}"

/-- The entries of a source. Broken UTF-8 in a file is repaired. -/
def load (source : Source) (files : Files) (encoder : Encoder) : Except LoadFault Parsed :=
  match source with
  | memory entries => .ok ⟨entries, []⟩
  | file format path limit =>
    match files.readLossy path with
    | .error cause => .error (.unreadable path cause)
    | .ok text => (format.parse encoder limit text).mapError (.invalid path)

end Source

end PhoneticSearch

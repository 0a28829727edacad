import PhoneticSearch.Lexicon.Entry

/-!
# Pronouncing dictionaries

A line holds a word and the symbols of its pronunciation, separated by blanks. Blank lines and
lines that begin with `;;;` are skipped.

* `Pronunciations.readLine`: what one line contributes, at most one entry or issue.
* `Pronunciations.parse`: the entries of a text; a limit counts lines.
-/

namespace PhoneticSearch.Pronunciations

def isComment (line : List Char) : Bool := [';', ';', ';'].isPrefixOf line

/-- The entry of a word and its symbols: the word in upper case, shown as its symbols. -/
def entry (encoder : Encoder) (word : List Char) (symbols : List (List Char)) : Entry :=
  let symbols := symbols.map String.ofList
  (Entry.ofPhones (Text.upper (String.ofList word)) (symbols.flatMap encoder.encode)).withText
    (" ".intercalate symbols)

def readLine (encoder : Encoder) (number : Nat) (line : List Char) : Option (Except Issue Entry) :=
  if isComment line then none
  else
    match Text.words line with
    | [] => none
    | [word] => some (.error (.noPronunciation number (String.ofList word)))
    | word :: symbols => some (.ok (entry encoder word symbols))

def contributions (encoder : Encoder) (limit : Option Nat) (text : List Char) :
    List (Except Issue Entry) :=
  ((takeLimit limit (Text.lines text)).zipIdx 1).filterMap fun (line, number) =>
    readLine encoder number line

def parse (encoder : Encoder) (limit : Option Nat) (text : String) : Parsed :=
  let found := contributions encoder limit text.toList
  { entries := found.filterMap fun
      | .ok entry => some entry
      | .error _ => none
    issues := found.filterMap fun
      | .ok _ => none
      | .error issue => some issue }

end PhoneticSearch.Pronunciations

import PhoneticSearch.Lexicon.Entry

/-!
# Word lists

A line holds a headword and, after a tab, its definition.

* `WordList.readLine`: the entry of a line, if it has a headword.
* `WordList.parse`: the entries of a text; a limit counts lines.
-/

namespace PhoneticSearch.WordList

/-- A line at its first tab. -/
def columns (line : List Char) : List Char × List Char :=
  (line.takeWhile (· ≠ '\t'), (line.dropWhile (· ≠ '\t')).drop 1)

def readLine (encoder : Encoder) (line : List Char) : Option Entry :=
  let (headword, definition) := columns line
  let headword := String.ofList (Text.trimChars headword)
  if headword == "" then none
  else
    some ((Entry.encoded encoder headword headword).withDefinition
      (String.ofList (Text.trimChars definition)))

def parse (encoder : Encoder) (limit : Option Nat) (text : String) : List Entry :=
  (takeLimit limit (Text.lines text.toList)).filterMap (readLine encoder)

end PhoneticSearch.WordList

import PhoneticSearch.Text.Pieces

/-!
# Tokens

A line of query text is read token by token; blanks and the delimiters separate the tokens.
-/

namespace PhoneticSearch

def defaultDelimiters : String := ".'-=?%,"

def separates (delimiters : List Char) (c : Char) : Bool :=
  Text.isBlank c || delimiters.contains c

/-- The maximal non-empty runs of a line that hold neither a blank nor a delimiter. -/
def tokenize (line delimiters : String) : List String :=
  (Text.runs (separates delimiters.toList) line.toList).map String.ofList

end PhoneticSearch

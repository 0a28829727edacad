import PhoneticSearch.Pattern.Basic

/-!
# Encodings

An encoding is a table of patterns over a feature set, the longest inputs first.
-/

namespace PhoneticSearch

/-- The name of the encoding that resolves IPA texts, in any case. -/
def ipaName : String := "ipa"

def sameIgnoringCase (a b : String) : Bool :=
  a.toList.map Char.toLower == b.toList.map Char.toLower

structure Encoding where
  name : String
  description : Option String
  features : FeatureSet
  patterns : List Pattern
  problems : List Problem

namespace Encoding

/-- Patterns by the length of their inputs, longest first; those of one length stay in order. -/
def byLength (patterns : List Pattern) : List Pattern :=
  patterns.mergeSort fun a b => decide (b.length ≤ a.length)

def ofPatterns (name : String) (features : FeatureSet) (patterns : List Pattern) : Encoding :=
  ⟨name, none, features, byLength patterns, []⟩

def isIpa (encoding : Encoding) : Bool := sameIgnoringCase encoding.name ipaName

end Encoding

end PhoneticSearch

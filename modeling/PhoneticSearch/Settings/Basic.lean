import PhoneticSearch.Bounds

/-!
# Settings

The records of a configuration document.

* `Configuration`: the whole document.
* `Included`: a record given in place or in a file of its own.
* `PhoneSpecs`, `Inputs`: values with a short form for the common case.
* `MatcherSettings`: its bounds are applied by `optionCount`, `bandTolerance`, `copies`.
-/

namespace PhoneticSearch

namespace Settings

/-- A record given in place or in a file of its own. -/
inductive Included (α : Type) where
  | file (path : String)
  | inPlace (record : α)

/-- A feature set: one group of comma-separated names for each dimension. -/
structure FeatureSetSettings where
  id : String
  description : Option String
  plus : Option Float
  minus : Option Float
  unset : Option Float
  features : List String

/-- The feature specifications of one phone, or of several. -/
inductive PhoneSpecs where
  | single (specs : List String)
  | multiple (phones : List (List String))
deriving DecidableEq

def PhoneSpecs.phones : PhoneSpecs → List (List String)
  | .single specs => [specs]
  | .multiple phones => phones

/-- A rule of an encoding. Its phones are given by features or by an IPA text. -/
structure PatternSettings where
  input : String
  output : Option String
  repr : Option String
  features : Option PhoneSpecs
  ipa : Option String
deriving DecidableEq

structure EncodingSettings where
  id : String
  features : String
  description : Option String
  patterns : List PatternSettings
deriving DecidableEq

structure LexiconSettings where
  id : String
  kind : String
  path : String
  /-- The encoding that gives the entries their phones. -/
  encoding : String
  /-- The number of records to read at most. -/
  limit : Option Nat
  description : Option String
deriving DecidableEq

inductive Inputs where
  | one (token : String)
  | many (tokens : List String)
deriving DecidableEq

def Inputs.tokens : Inputs → List String
  | .one token => [token]
  | .many tokens => tokens

structure ReadingSettings where
  input : Inputs
  headword : String
  definition : Option String
deriving DecidableEq

structure ReadingGroupSettings where
  name : Option String
  entries : List ReadingSettings
deriving DecidableEq

structure ReadingTableSettings where
  id : String
  /-- The encoding that gives the readings their phones. -/
  encoding : Option String
  groups : List ReadingGroupSettings
deriving DecidableEq

structure MatcherSettings where
  /-- The lexicons in the order in which they are searched. -/
  lexicons : List String
  options : Option Nat
  tolerance : Option Float
  hypotheses : Option String
  /-- The feature that marks the phones to be copied. -/
  consonantal : Option String
  consonantCopies : Option Nat

structure InputSettings where
  encoding : String
  delimiters : Option String
deriving DecidableEq

structure Configuration where
  featureSets : List (Included FeatureSetSettings)
  encodings : List (Included EncodingSettings)
  lexicons : List LexiconSettings
  hypotheses : List ReadingTableSettings
  matcher : Option MatcherSettings
  input : Option InputSettings

namespace MatcherSettings

def optionCount (settings : MatcherSettings) : Nat :=
  clampOptions (settings.options.getD defaultOptionCount)

def bandTolerance (settings : MatcherSettings) : Float :=
  match settings.tolerance with
  | some tolerance => clampTolerance tolerance
  | none => 0

def copies (settings : MatcherSettings) : Nat := min (settings.consonantCopies.getD 1) maxCopies

end MatcherSettings

end Settings

end PhoneticSearch

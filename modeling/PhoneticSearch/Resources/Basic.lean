import PhoneticSearch.Encoding.Resolution
import PhoneticSearch.Matching.Matcher
import PhoneticSearch.Text.Tokens

/-!
# Resources

All that a configuration builds, found by identifier.

* `Resources.featureSet?`, `encoder?`, `lexicon?`, `table?`: the object with an identifier; the
  IPA encoding answers to its name in any case.
* `Resources.matcher?`, `inputEncoder?`: the matcher and the query encoding of the settings.
* `Resources.allProblems`: the problems of assembly and those of each object.
-/

namespace PhoneticSearch

open Settings

@[ext]
structure Resources where
  base : String
  featureSets : List FeatureSet
  encoders : List Encoder
  lexicons : List Lexicon
  tables : List ReadingTable
  matcher : Option MatcherSettings
  input : Option InputSettings
  problems : List Problem

def Encoder.answersTo (encoder : Encoder) (id : String) : Bool :=
  encoder.encoding.name == id || (encoder.encoding.isIpa && sameIgnoringCase id ipaName)

def findFeatureSet? (sets : List FeatureSet) (id : String) : Option FeatureSet :=
  sets.find? fun set => set.name == id

def findEncoder? (encoders : List Encoder) (id : String) : Option Encoder :=
  encoders.find? fun encoder => encoder.answersTo id

def findLexicon? (lexicons : List Lexicon) (id : String) : Option Lexicon :=
  lexicons.find? fun lexicon => lexicon.name == id

def findTable? (tables : List ReadingTable) (id : String) : Option ReadingTable :=
  tables.find? fun table => table.name == id

namespace Resources

def featureSet? (resources : Resources) (id : String) : Option FeatureSet :=
  findFeatureSet? resources.featureSets id

def encoder? (resources : Resources) (id : String) : Option Encoder :=
  findEncoder? resources.encoders id

def lexicon? (resources : Resources) (id : String) : Option Lexicon :=
  findLexicon? resources.lexicons id

def table? (resources : Resources) (id : String) : Option ReadingTable :=
  findTable? resources.tables id

def inputEncoder? (resources : Resources) : Option Encoder :=
  resources.input.bind fun input => resources.encoder? input.encoding

/-- The characters besides blanks that separate the tokens of query text. -/
def delimiters (resources : Resources) : String :=
  (resources.input.bind (·.delimiters)).getD defaultDelimiters

/-- The expansion that matcher settings ask for; its feature is one of the query encoding. -/
def expansion? (resources : Resources) (settings : MatcherSettings) : Option Expansion := do
  let feature ← settings.consonantal
  let encoder ← resources.inputEncoder?
  Expansion.ofFeature? encoder.features feature settings.copies

/-- The matcher of the settings; what they name and nobody has built is left out. -/
def matcher? (resources : Resources) : Option Matcher :=
  resources.matcher.map fun settings =>
    Matcher.ofLexicons (settings.lexicons.filterMap resources.lexicon?) settings.optionCount
      settings.bandTolerance (settings.hypotheses.bind resources.table?)
      (resources.expansion? settings)

/-- The problems of assembly, then those of the feature sets, the encodings and the lexicons. -/
def allProblems (resources : Resources) : List Problem :=
  resources.problems ++ resources.featureSets.flatMap (·.problems) ++
    resources.encoders.flatMap (·.encoding.problems) ++ resources.lexicons.flatMap Lexicon.problems

end Resources

end PhoneticSearch

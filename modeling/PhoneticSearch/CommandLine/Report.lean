import PhoneticSearch.Decimal.Layout
import PhoneticSearch.Resources.Session

/-!
# Reports

What the commands print, as lines.

* `Report.transduction`: a text, its transduction and its phones.
* `Report.tokenBlock`: the answers for one token; the memory of earlier tokens does not show.
* `Report.inventory`, `Report.findings`: the size of a configuration and its problems.
* `Report.dimensions`: the dimensions of a feature set.
-/

namespace PhoneticSearch.Report

def arrow (source target : String) : String := s!"{source} → {target}"

/-- The components of a phone that are plus or minus, in brackets. -/
def phone (features : FeatureSet) (phone : Phone) : String :=
  "[" ++ " ".intercalate (features.describe phone) ++ "]"

/-- The lines of each item, which is told its number, from one. -/
def numbered {α : Type} (lines : Nat → α → List String) (items : List α) : List String :=
  (items.zipIdx 1).flatMap fun (item, number) => lines number item

def transduction (encoder : Encoder) (source : String) : List String :=
  let result := encoder.transduce source
  let repr := if result.repr == "" then [] else ["   repr: " ++ result.repr]
  let phoneLine (number : Nat) (vector : Phone) : List String :=
    let specs := phone encoder.features vector
    [s!"   {number}. {specs}"]
  arrow source result.text :: repr ++ numbered phoneLine result.phones

def origin : Origin → String
  | .lexicon name => name
  | .readings name => s!"{name} (hypothesis)"

def distance (value : Float) : String :=
  let text := Decimal.fixed 3 value
  s!" (d={text})"

/-- The lines of an answer: its headword, the form in which it is shown if that is another one, and
its definition. -/
def candidate (number : Nat) (candidate : Candidate) : List String :=
  let entry := candidate.entry
  let headword := entry.headword
  let distance := (candidate.distance.map distance).getD ""
  let source := origin candidate.origin
  let form := if entry.text == headword then [] else [entry.text]
  let definition := (Text.lines (entry.definition.getD "").toList).map String.ofList
  s!"   {number}. {headword}{distance} [{source}]" ::
    (form ++ definition).map fun line => s!"      {line}"

def noMatches : String := "   No matches found"

def tokenBlock (features : FeatureSet) (showPhones : Bool) (answer : TokenAnswer) : List String :=
  let phones :=
    if showPhones then
      answer.transduction.phones.map fun vector => "      " ++ phone features vector
    else []
  let candidates :=
    if answer.candidates.isEmpty then [noMatches] else numbered candidate answer.candidates
  arrow answer.token answer.transduction.text :: phones ++ candidates

def inventory (resources : Resources) : List String :=
  let sets := resources.featureSets.length
  let encodings := resources.encoders.length
  let lexicons := resources.lexicons.length
  let tables := resources.tables.length
  let sizes := resources.lexicons.map fun lexicon =>
    let name := lexicon.name
    let count := lexicon.entries.length
    s!"      {name}: {count} entries"
  ["Configuration", s!"   feature sets: {sets}", s!"   encodings:    {encodings}",
    s!"   lexicons:     {lexicons}"] ++ sizes ++ [s!"   hypotheses:   {tables}", ""]

def findings (problems : List Problem) : List String :=
  if problems.isEmpty then ["No problems found"]
  else problems.map (fun problem => "   • " ++ problem.message) ++ [""]

/-- A number in at least three columns. -/
def column (number : Nat) : String :=
  let digits := Nat.toDigits 10 number
  String.ofList (List.replicate (3 - digits.length) ' ' ++ digits)

def dimensions (set : FeatureSet) : List String :=
  let name := set.name
  let count := set.dimensions
  let plus := Decimal.plain set.plus
  let minus := Decimal.plain set.minus
  let unset := Decimal.plain set.unset
  let line (entry : (String × String) × Nat) : String :=
    let number := column entry.2
    let display := entry.1.1
    let group := entry.1.2
    s!"   {number}. {display} ({group})"
  s!"{name} ({count} dimensions; +{plus} -{minus} unset {unset})" ::
    ((set.displayNames.zip set.groups).zipIdx).map line

end PhoneticSearch.Report

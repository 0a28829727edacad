import PhoneticSearch.Encoding.Encoder
import PhoneticSearch.Settings.Basic

/-!
# Encodings from settings

The phones of a configured pattern are described by features, or are those that the IPA encoding
gives for an IPA text. A pattern that is left without phones is inert, and an issue says why.
-/

namespace PhoneticSearch

open Settings

/-- A value, and the issues met while it was built. -/
structure Reported (α : Type) where
  value : α
  issues : List Issue

namespace Pattern

def describedPhones (features : FeatureSet) (input : String) (specs : PhoneSpecs) :
    Reported (List Phone) :=
  let described := specs.phones.map features.phone
  ⟨described.map (·.phone),
    described.flatMap fun phone => phone.issues.map (Issue.patternFeature input)⟩

/-- The phones of an IPA text; the IPA encoding must have as many dimensions as the features. -/
def ipaPhones (features : FeatureSet) (ipa : Option Encoder) (input text : String) :
    Reported (List Phone) :=
  match ipa with
  | none => ⟨[], [.noIpaEncoding input]⟩
  | some encoder =>
    if encoder.features.dimensions ≠ features.dimensions then
      ⟨[], [.dimensionMismatch features.name features.dimensions encoder.features.dimensions]⟩
    else
      let phones := encoder.encode text
      ⟨phones, if phones.isEmpty then [.emptyIpa input text] else []⟩

def settingsPhones (features : FeatureSet) (ipa : Option Encoder) (settings : PatternSettings) :
    Reported (List Phone) :=
  match settings.features, settings.ipa with
  | some _, some _ => ⟨[], [.ambiguousPhones settings.input]⟩
  | some specs, none => describedPhones features settings.input specs
  | none, some text => ipaPhones features ipa settings.input text
  | none, none => ⟨[], [.missingPhones settings.input]⟩

def inputIssues (input : String) : List Issue :=
  (if input == "" then [.emptyInput] else []) ++
    (if 1 < input.toList.count wildcard then [.multipleWildcards input] else [])

def ofSettings (features : FeatureSet) (ipa : Option Encoder) (settings : PatternSettings) :
    Reported Pattern :=
  let phones := settingsPhones features ipa settings
  ⟨ofParts settings.input phones.value settings.output settings.repr,
    inputIssues settings.input ++ phones.issues⟩

end Pattern

def Encoding.ofSettings (features : FeatureSet) (ipa : Option Encoder)
    (settings : EncodingSettings) : Encoding :=
  let patterns := settings.patterns.map (Pattern.ofSettings features ipa)
  { Encoding.ofPatterns settings.id features (patterns.map (·.value)) with
    description := settings.description
    problems := (patterns.flatMap (·.issues)).map fun issue => ⟨.encoding settings.id, issue⟩ }

end PhoneticSearch

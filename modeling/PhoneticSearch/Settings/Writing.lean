import PhoneticSearch.Settings.Basic
import PhoneticSearch.Json.Building

/-!
# Writing settings

The tree of each record of a configuration: an object of all its fields, null where an option is
not set. A record in place is written as itself, a record in a file as its path, and a value with
a short form in the form it was given in.
-/

namespace PhoneticSearch.Settings

open Json
open Json.Tree (ofText ofReal ofCount ofOption ofList ofFields)

def Included.tree {α : Type} (inner : α → Tree) : Included α → Tree
  | .file path => ofFields [("path", ofText path)]
  | .inPlace record => inner record

def FeatureSetSettings.tree (settings : FeatureSetSettings) : Tree :=
  ofFields
    [("id", ofText settings.id), ("description", ofOption ofText settings.description),
      ("plusValue", ofOption ofReal settings.plus), ("minusValue", ofOption ofReal settings.minus),
      ("unsetValue", ofOption ofReal settings.unset), ("features", ofList ofText settings.features)]

def PhoneSpecs.tree : PhoneSpecs → Tree
  | .single specs => ofList ofText specs
  | .multiple phones => ofList (ofList ofText) phones

def PatternSettings.tree (settings : PatternSettings) : Tree :=
  ofFields
    [("input", ofText settings.input), ("output", ofOption ofText settings.output),
      ("repr", ofOption ofText settings.repr),
      ("features", ofOption PhoneSpecs.tree settings.features),
      ("ipa", ofOption ofText settings.ipa)]

def EncodingSettings.tree (settings : EncodingSettings) : Tree :=
  ofFields
    [("id", ofText settings.id), ("features", ofText settings.features),
      ("description", ofOption ofText settings.description),
      ("patterns", ofList PatternSettings.tree settings.patterns)]

def LexiconSettings.tree (settings : LexiconSettings) : Tree :=
  ofFields
    [("id", ofText settings.id), ("kind", ofText settings.kind), ("path", ofText settings.path),
      ("encoding", ofText settings.encoding), ("limit", ofOption ofCount settings.limit),
      ("description", ofOption ofText settings.description)]

def Inputs.tree : Inputs → Tree
  | .one token => ofText token
  | .many tokens => ofList ofText tokens

def ReadingSettings.tree (settings : ReadingSettings) : Tree :=
  ofFields
    [("input", settings.input.tree), ("lemma", ofText settings.headword),
      ("definition", ofOption ofText settings.definition)]

def ReadingGroupSettings.tree (settings : ReadingGroupSettings) : Tree :=
  ofFields
    [("name", ofOption ofText settings.name),
      ("entries", ofList ReadingSettings.tree settings.entries)]

def ReadingTableSettings.tree (settings : ReadingTableSettings) : Tree :=
  ofFields
    [("id", ofText settings.id), ("encoding", ofOption ofText settings.encoding),
      ("groups", ofList ReadingGroupSettings.tree settings.groups)]

def MatcherSettings.tree (settings : MatcherSettings) : Tree :=
  ofFields
    [("lexicons", ofList ofText settings.lexicons), ("options", ofOption ofCount settings.options),
      ("tolerance", ofOption ofReal settings.tolerance),
      ("hypotheses", ofOption ofText settings.hypotheses),
      ("consonantal", ofOption ofText settings.consonantal),
      ("consonantCopies", ofOption ofCount settings.consonantCopies)]

def InputSettings.tree (settings : InputSettings) : Tree :=
  ofFields
    [("encoding", ofText settings.encoding), ("delimiters", ofOption ofText settings.delimiters)]

def Configuration.tree (configuration : Configuration) : Tree :=
  ofFields
    [("featureSets", ofList (Included.tree FeatureSetSettings.tree) configuration.featureSets),
      ("encodings", ofList (Included.tree EncodingSettings.tree) configuration.encodings),
      ("lexicons", ofList LexiconSettings.tree configuration.lexicons),
      ("hypotheses", ofList ReadingTableSettings.tree configuration.hypotheses),
      ("matcher", ofOption MatcherSettings.tree configuration.matcher),
      ("input", ofOption InputSettings.tree configuration.input)]

end PhoneticSearch.Settings

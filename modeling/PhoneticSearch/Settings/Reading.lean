import PhoneticSearch.Settings.Basic
import PhoneticSearch.Json.Record

/-!
# Reading settings

The decoder of each record of a configuration. A record has no fields but its own, each at most
once; a field with a default may be left out, and an optional one may also be null.
-/

namespace PhoneticSearch.Settings

open Json Json.Fields Json.Decoder

def fileDecoder : Decoder String := record "FileRef" ["path"] (required "path" Decoder.path)

def Included.decoder {α : Type} (inner : Decoder α) : Decoder (Included α) :=
  choice "Included"
    [fun tree => (fileDecoder tree).map .file, fun tree => (inner tree).map .inPlace]

def FeatureSetSettings.names : List String :=
  ["id", "description", "plusValue", "minusValue", "unsetValue", "features"]

def FeatureSetSettings.decoder : Decoder FeatureSetSettings :=
  record "FeatureSetConfig" names <|
    FeatureSetSettings.mk <$> required "id" text <*> optional "description" text <*>
      optional "plusValue" real <*> optional "minusValue" real <*> optional "unsetValue" real <*>
      required "features" (listOf text)

def PhoneSpecs.decoder : Decoder PhoneSpecs :=
  choice "PhoneSpec"
    [fun tree => (listOf text tree).map .single,
      fun tree => (listOf (listOf text) tree).map .multiple]

def PatternSettings.names : List String := ["input", "output", "repr", "features", "ipa"]

def PatternSettings.decoder : Decoder PatternSettings :=
  record "PatternConfig" names <|
    PatternSettings.mk <$> withDefault "input" "" text <*> optional "output" text <*>
      optional "repr" text <*> optional "features" PhoneSpecs.decoder <*> optional "ipa" text

def EncodingSettings.names : List String := ["id", "features", "description", "patterns"]

def EncodingSettings.decoder : Decoder EncodingSettings :=
  record "EncodingConfig" names <|
    EncodingSettings.mk <$> required "id" text <*> required "features" text <*>
      optional "description" text <*> withDefault "patterns" [] (listOf PatternSettings.decoder)

def LexiconSettings.names : List String :=
  ["id", "kind", "path", "encoding", "limit", "description"]

def LexiconSettings.decoder : Decoder LexiconSettings :=
  record "LexiconConfig" names <|
    LexiconSettings.mk <$> required "id" text <*> required "kind" text <*>
      required "path" Decoder.path <*>
      required "encoding" text <*> optional "limit" count <*> optional "description" text

def Inputs.decoder : Decoder Inputs :=
  choice "OneOrMany"
    [fun tree => (text tree).map .one, fun tree => (listOf text tree).map .many]

def ReadingSettings.names : List String := ["input", "lemma", "definition"]

def ReadingSettings.decoder : Decoder ReadingSettings :=
  record "HypothesisEntryConfig" names <|
    ReadingSettings.mk <$> required "input" Inputs.decoder <*> required "lemma" text <*>
      optional "definition" text

def ReadingGroupSettings.names : List String := ["name", "entries"]

def ReadingGroupSettings.decoder : Decoder ReadingGroupSettings :=
  record "HypothesisGroupConfig" names <|
    ReadingGroupSettings.mk <$> optional "name" text <*>
      withDefault "entries" [] (listOf ReadingSettings.decoder)

def ReadingTableSettings.names : List String := ["id", "encoding", "groups"]

def ReadingTableSettings.decoder : Decoder ReadingTableSettings :=
  record "HypothesisConfig" names <|
    ReadingTableSettings.mk <$> required "id" text <*> optional "encoding" text <*>
      withDefault "groups" [] (listOf ReadingGroupSettings.decoder)

def MatcherSettings.names : List String :=
  ["lexicons", "options", "tolerance", "hypotheses", "consonantal", "consonantCopies"]

def MatcherSettings.decoder : Decoder MatcherSettings :=
  record "MatcherConfig" names <|
    MatcherSettings.mk <$> withDefault "lexicons" [] (listOf text) <*> optional "options" count <*>
      optional "tolerance" real <*> optional "hypotheses" text <*> optional "consonantal" text <*>
      optional "consonantCopies" count

def InputSettings.names : List String := ["encoding", "delimiters"]

def InputSettings.decoder : Decoder InputSettings :=
  record "InputConfig" names <|
    InputSettings.mk <$> required "encoding" text <*> optional "delimiters" text

def Configuration.names : List String :=
  ["featureSets", "encodings", "lexicons", "hypotheses", "matcher", "input"]

def Configuration.decoder : Decoder Configuration :=
  record "Config" names <|
    Configuration.mk <$>
      withDefault "featureSets" [] (listOf (Included.decoder FeatureSetSettings.decoder)) <*>
      withDefault "encodings" [] (listOf (Included.decoder EncodingSettings.decoder)) <*>
      withDefault "lexicons" [] (listOf LexiconSettings.decoder) <*>
      withDefault "hypotheses" [] (listOf ReadingTableSettings.decoder) <*>
      optional "matcher" MatcherSettings.decoder <*> optional "input" InputSettings.decoder

end PhoneticSearch.Settings

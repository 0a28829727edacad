import PhoneticSearch.Resources.Basic
import PhoneticSearch.Settings.Reading

/-!
# Assembly

Resources are put together from a configuration, each kind of object from those before it. An
object that cannot be built is left out and recorded.

* `Assembly.featureSets`, `encoders`, `lexicons`, `tables`: one stage for each kind of object.
* `Assembly.matcherProblems`, `inputProblems`: references that nobody answers to.
* `Resources.assemble`: all stages; `Resources.ofPath` reads the configuration from a file.
-/

namespace PhoneticSearch

open Settings

def Settings.Included.resolve {α : Type} (decoder : Json.Decoder α) (files : Files)
    (base : String) : Included α → Except LoadFault α
  | .inPlace record => .ok record
  | .file path => files.load decoder (Path.join base path)

namespace Assembly

structure Stage (α : Type) where
  built : List α
  problems : List Problem

variable {α : Type}

def Stage.empty : Stage α := ⟨[], []⟩

def Stage.push (stage : Stage α) (object : α) : Stage α :=
  { stage with built := stage.built ++ [object] }

def Stage.report (stage : Stage α) (problem : Problem) : Stage α :=
  { stage with problems := stage.problems ++ [problem] }

def Stage.add (stage : Stage α) : Except Problem α → Stage α
  | .ok object => stage.push object
  | .error problem => stage.report problem

def ofConfiguration (issue : Issue) : Problem := ⟨.configuration, issue⟩

def featureSetOf (settings : FeatureSetSettings) : FeatureSet :=
  .ofGroups settings.id settings.features (settings.plus.getD FeatureSet.defaultPlus)
    (settings.minus.getD FeatureSet.defaultMinus) settings.unset

def buildFeatureSet (built : List FeatureSet) (settings : FeatureSetSettings) :
    Except Problem FeatureSet :=
  if (findFeatureSet? built settings.id).isSome then
    .error (ofConfiguration (.duplicateId .featureSet settings.id))
  else .ok (featureSetOf settings)

def addFeatureSet (stage : Stage FeatureSet) (record : Except LoadFault FeatureSetSettings) :
    Stage FeatureSet :=
  match record with
  | .error fault => stage.report (ofConfiguration (.unloaded fault))
  | .ok settings => stage.add (buildFeatureSet stage.built settings)

def featureSets (files : Files) (base : String) (configuration : Configuration) :
    Stage FeatureSet :=
  (configuration.featureSets.map (Included.resolve FeatureSetSettings.decoder files base)).foldl
    addFeatureSet .empty

def encoderOf (sets : List FeatureSet) (ipa : Option Encoder) (settings : EncodingSettings) :
    Except Problem Encoder :=
  match findFeatureSet? sets settings.features with
  | none => .error ⟨.encoding settings.id, .unknownReference .featureSet settings.features⟩
  | some features => .ok (.ofEncoding (.ofSettings features ipa settings))

def buildEncoder (sets : List FeatureSet) (ipa : Option Encoder) (built : List Encoder)
    (settings : EncodingSettings) : Except Problem Encoder :=
  if (findEncoder? built settings.id).isSome then
    .error (ofConfiguration (.duplicateId .encoding settings.id))
  else encoderOf sets ipa settings

def isIpaSettings (settings : EncodingSettings) : Bool := sameIgnoringCase settings.id ipaName

/-- The encoders of records that have been read. The IPA encoding is built first, since the others
take phones from it; it takes none itself. -/
def encodersOf (sets : List FeatureSet) (records : List EncodingSettings) : Stage Encoder :=
  let ipa := (records.filter isIpaSettings).foldl
    (fun stage settings => stage.add (buildEncoder sets none stage.built settings)) .empty
  (records.filter fun settings => !isIpaSettings settings).foldl
    (fun stage settings => stage.add (buildEncoder sets ipa.built.head? stage.built settings)) ipa

/-- The encoders of a configuration. Records that cannot be read are reported before all else. -/
def encoders (files : Files) (base : String) (sets : List FeatureSet)
    (configuration : Configuration) : Stage Encoder :=
  let records := configuration.encodings.map (Included.resolve EncodingSettings.decoder files base)
  let unread := records.filterMap fun
    | .ok _ => none
    | .error fault => some (ofConfiguration (.unloaded fault))
  let stage := encodersOf sets (records.filterMap Except.toOption)
  { stage with problems := unread ++ stage.problems }

def lexiconOf (files : Files) (base : String) (encoders : List Encoder)
    (settings : LexiconSettings) : Except Problem Lexicon :=
  match Format.ofName? settings.kind with
  | none => .error ⟨.lexicon settings.id, .unknownReference .lexiconKind settings.kind⟩
  | some format =>
    match findEncoder? encoders settings.encoding with
    | none => .error ⟨.lexicon settings.id, .unknownReference .encoding settings.encoding⟩
    | some encoder =>
      .ok (.ofSource settings.id encoder files
        (.file format (Path.join base settings.path) settings.limit))

def lexicons (files : Files) (base : String) (encoders : List Encoder)
    (configuration : Configuration) : Stage Lexicon :=
  (configuration.lexicons.map (lexiconOf files base encoders)).foldl Stage.add .empty

/-- The table of a record. An encoding that is not there costs the readings their phones only. -/
def addTable (encoders : List Encoder) (stage : Stage ReadingTable)
    (settings : ReadingTableSettings) : Stage ReadingTable :=
  match settings.encoding with
  | none => stage.push (.ofSettings none settings)
  | some id =>
    match findEncoder? encoders id with
    | some encoder => stage.push (.ofSettings (some encoder) settings)
    | none =>
      (stage.report ⟨.hypotheses settings.id, .unknownReference .encoding id⟩).push
        (.ofSettings none settings)

def tables (encoders : List Encoder) (configuration : Configuration) : Stage ReadingTable :=
  configuration.hypotheses.foldl (addTable encoders) .empty

/-- Whether a feature is one of the query encoding's. -/
def isInputFeature (resources : Resources) (feature : String) : Bool :=
  resources.inputEncoder?.any fun encoder => (encoder.features.dimension? feature).isSome

def unknownToMatcher (kind : ReferenceKind) (id : String) : Problem :=
  ⟨.matcher, .unknownReference kind id⟩

/-- The references of the matcher settings that nobody answers to. -/
def matcherProblems (resources : Resources) : List Problem :=
  match resources.matcher with
  | none => []
  | some settings =>
    let lexicons := settings.lexicons.filter fun id => (resources.lexicon? id).isNone
    let tables := settings.hypotheses.toList.filter fun id => (resources.table? id).isNone
    let features := settings.consonantal.toList.filter fun feature =>
      !isInputFeature resources feature
    lexicons.map (unknownToMatcher .lexicon) ++ tables.map (unknownToMatcher .hypotheses) ++
      features.map (unknownToMatcher .feature)

def inputProblems (resources : Resources) : List Problem :=
  match resources.input with
  | none => []
  | some settings =>
    if (resources.encoder? settings.encoding).isSome then []
    else [⟨.input, .unknownReference .encoding settings.encoding⟩]

end Assembly

namespace Resources

/-- The resources of a configuration whose relative paths are read from `base`. -/
def assemble (files : Files) (base : String) (configuration : Configuration) : Resources :=
  let featureSets := Assembly.featureSets files base configuration
  let encoders := Assembly.encoders files base featureSets.built configuration
  let lexicons := Assembly.lexicons files base encoders.built configuration
  let tables := Assembly.tables encoders.built configuration
  let resources : Resources :=
    { base
      featureSets := featureSets.built
      encoders := encoders.built
      lexicons := lexicons.built
      tables := tables.built
      matcher := configuration.matcher
      input := configuration.input
      problems :=
        featureSets.problems ++ encoders.problems ++ lexicons.problems ++ tables.problems }
  { resources with
    problems := resources.problems ++ Assembly.matcherProblems resources ++
      Assembly.inputProblems resources }

def ofPath (files : Files) (path : String) : Except LoadFault Resources :=
  (files.load Configuration.decoder path).map (assemble files (Path.parent path))

end Resources

end PhoneticSearch

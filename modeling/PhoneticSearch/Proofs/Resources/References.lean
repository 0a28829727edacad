import Mathlib.Data.List.Forall2
import PhoneticSearch.Proofs.Resources.Phones

/-!
# References that resolve

* `Assembly.addAll_unreported`: a stage without problems has an object for each record, in order.
* `Resources.Supplies`: a matcher has all that its settings name.
* `Resources.IsComplete`: resources have all that their configuration names.
* `Resources.assemble_isComplete`: what is missing has been reported.
-/

namespace PhoneticSearch

open Settings

namespace Assembly

/-- Every record of a stage without problems has given an object. -/
theorem addAll_unreported {α β : Type} {build : List α → β → Except Problem α} {stage : Stage α}
    {records : List β} (h : (addAll build stage records).problems = []) :
    ∃ objects, (addAll build stage records).built = stage.built ++ objects ∧
      List.Forall₂ (fun record object => ∃ built, build built record = .ok object)
        records objects := by
  induction records generalizing stage with
  | nil => exact ⟨[], (List.append_nil _).symm, .nil⟩
  | cons record records ih =>
    rw [addAll_cons] at h
    obtain ⟨objects, hbuilt, hobjects⟩ := ih h
    cases hbuild : build stage.built record with
    | ok object =>
      refine ⟨object :: objects, ?_, .cons ⟨stage.built, hbuild⟩ hobjects⟩
      rw [addAll_cons, hbuilt, hbuild, Stage.add_ok, Stage.built_push, List.append_assoc]
      rfl
    | error problem =>
      have hreported := problems_prefix_addAll build (stage.add (build stage.built record)) records
      rw [h, List.prefix_nil, hbuild, Stage.add_error, Stage.problems_report] at hreported
      simp at hreported

theorem problems_eq_nil_of_addAll {α β : Type} {build : List α → β → Except Problem α}
    {stage : Stage α} {records : List β} (h : (addAll build stage records).problems = []) :
    stage.problems = [] :=
  List.prefix_nil.mp (h ▸ problems_prefix_addAll build stage records)

theorem forall₂_filter {α β : Type} {R : α → β → Prop} {p : α → Bool} {records : List α}
    {objects : List β} (h : List.Forall₂ R (records.filter p) objects) :
    List.Forall₂ (fun record object => p record = true ∧ R record object) (records.filter p)
      objects :=
  (List.forall₂_and_left _ _).mpr ⟨fun _ hrecord => (List.mem_filter.mp hrecord).2, h⟩

/-- What can be found is found in order. -/
theorem forall₂_filterMap {α β : Type} {R : α → β → Prop} {find : α → Option β} {ids : List α}
    (h : ∀ id ∈ ids, ∃ object, find id = some object ∧ R id object) :
    List.Forall₂ R ids (ids.filterMap find) := by
  induction ids with
  | nil => exact .nil
  | cons id rest ih =>
    obtain ⟨object, hobject, hid⟩ := h id List.mem_cons_self
    rw [List.filterMap_cons_some hobject]
    exact .cons hid (ih fun other hother => h other (.tail _ hother))

theorem rel_bind {α β : Type} {R : α → β → Prop} {find : α → Option β} {id : Option α}
    (h : ∀ key, id = some key → ∃ object, find key = some object ∧ R key object) :
    Option.Rel R id (id.bind find) := by
  cases id with
  | none => exact .none
  | some key =>
    obtain ⟨object, hobject, hkey⟩ := h key rfl
    rw [Option.bind_some, hobject]
    exact .some hkey

/-- The records in the order in which their encoders are built. -/
def ipaFirst (records : List EncodingSettings) : List EncodingSettings :=
  records.filter isIpaSettings ++ records.filter fun settings => !isIpaSettings settings

end Assembly

namespace Resources

open Assembly

/-- A set is the one of a record that can be read. -/
def IsFeatureSetOf (files : Files) (base : String) (record : Included FeatureSetSettings)
    (set : FeatureSet) : Prop :=
  ∃ settings, record.resolve FeatureSetSettings.decoder files base = .ok settings ∧
    set = featureSetOf settings

/-- A lexicon is the one of a record, spelled by the encoder that the record names. -/
def IsLexiconOf (files : Files) (base : String) (resources : Resources)
    (settings : LexiconSettings) (lexicon : Lexicon) : Prop :=
  ∃ format encoder, Format.ofName? settings.kind = some format ∧
    resources.encoder? settings.encoding = some encoder ∧
      lexicon = .ofSource settings.id encoder files
        (.file format (Path.join base settings.path) settings.limit)

/-- A table is the one of a record, spelled by the encoder that the record names if it names one. -/
def IsTableOf (resources : Resources) (settings : ReadingTableSettings) (table : ReadingTable) :
    Prop :=
  ∃ encoder,
    Option.Rel (fun id encoder => resources.encoder? id = some encoder) settings.encoding encoder ∧
      table = .ofSettings encoder settings

/-- A matcher has all that its settings name: the lexicons in search order, the table of readings
and an expansion by the dimension that the query encoding gives the feature. -/
structure Supplies (resources : Resources) (settings : MatcherSettings) (matcher : Matcher) :
    Prop where
  lexicons : List.Forall₂
    (fun id lexicon => resources.lexicon? id = some lexicon ∧ lexicon.name = id)
    settings.lexicons matcher.lexicons
  readings : Option.Rel (fun id table => resources.table? id = some table ∧ table.name = id)
    settings.hypotheses matcher.readings
  expansion : Option.Rel
    (fun feature expansion => ∃ encoder dimension, resources.inputEncoder? = some encoder ∧
      encoder.features.dimension? feature = some dimension ∧
        expansion = ⟨dimension, encoder.features.plus, min settings.copies maxCopies⟩)
    settings.consonantal matcher.expansion

/-- Resources have all that a configuration names, each kind of object in the order of its
records. -/
structure IsComplete (files : Files) (base : String) (configuration : Configuration)
    (resources : Resources) : Prop where
  featureSets : List.Forall₂ (IsFeatureSetOf files base) configuration.featureSets
    resources.featureSets
  encodings :
    configuration.encodings.map (Included.resolve EncodingSettings.decoder files base) =
      (encodingRecords files base configuration.encodings).map .ok
  encoders : List.Forall₂ resources.Builds
    (ipaFirst (encodingRecords files base configuration.encodings)) resources.encoders
  lexicons : List.Forall₂ (IsLexiconOf files base resources) configuration.lexicons
    resources.lexicons
  tables : List.Forall₂ resources.IsTableOf configuration.hypotheses resources.tables
  matcher : Option.Rel resources.Supplies configuration.matcher resources.matcher?
  input : Option.Rel
    (fun settings encoder => resources.encoder? settings.encoding = some encoder)
    configuration.input resources.inputEncoder?

section Assemble

variable {files : Files} {base : String} {configuration : Configuration}

theorem featureSets_of_unreported
    (h : (Assembly.featureSets files base configuration).problems = []) :
    List.Forall₂ (IsFeatureSetOf files base) configuration.featureSets
      (assemble files base configuration).featureSets := by
  show List.Forall₂ _ _ (Assembly.featureSets files base configuration).built
  rw [featureSets_eq_addAll] at h ⊢
  obtain ⟨sets, hbuilt, hsets⟩ := addAll_unreported h
  rw [hbuilt]
  refine (List.forall₂_map_left_iff.mp hsets).imp ?_
  rintro record set ⟨built, hbuild⟩
  unfold IsFeatureSetOf
  cases hresolve : record.resolve FeatureSetSettings.decoder files base with
  | error fault =>
    rw [hresolve] at hbuild
    cases hbuild
  | ok settings =>
    rw [hresolve] at hbuild
    exact ⟨settings, rfl, (buildFeatureSet_eq_ok_iff.mp hbuild).2.symm⟩

/-- Only records that can be read are passed on, so all can if none has been reported. -/
theorem encodings_of_unreported {sets : List FeatureSet}
    (h : (Assembly.encoders files base sets configuration).problems = []) :
    configuration.encodings.map (Included.resolve EncodingSettings.decoder files base) =
        (encodingRecords files base configuration.encodings).map .ok ∧
      (encodersOf sets (encodingRecords files base configuration.encodings)).problems = [] := by
  obtain ⟨hunread, hstage⟩ := List.append_eq_nil_iff.mp h
  refine ⟨?_, hstage⟩
  rw [encodingRecords]
  generalize configuration.encodings.map (Included.resolve EncodingSettings.decoder files base) =
    records at hunread ⊢
  induction records with
  | nil => rfl
  | cons record rest ih =>
    cases record with
    | error fault => cases hunread
    | ok settings => exact congrArg (.ok settings :: ·) (ih hunread)

theorem encoders_of_unreported
    (h : (encodersOf (assemble files base configuration).featureSets
      (encodingRecords files base configuration.encodings)).problems = []) :
    List.Forall₂ (assemble files base configuration).Builds
      (ipaFirst (encodingRecords files base configuration.encodings))
      (assemble files base configuration).encoders := by
  rw [encoders_assemble]
  rw [encodersOf_eq_addAll] at h ⊢
  obtain ⟨rest, hbuilt, hrest⟩ := addAll_unreported h
  obtain ⟨ipas, hstage, hipas⟩ := addAll_unreported (problems_eq_nil_of_addAll h)
  rw [hbuilt, ipaStage, hstage, Stage.empty, List.nil_append]
  apply List.rel_append
  · refine (forall₂_filter hipas).imp ?_
    rintro settings encoder ⟨hipa, built, hbuild⟩
    exact builds_of_ipa hipa (buildEncoder_eq_ok_iff.mp hbuild).2
  · rw [ipaStage_head?] at hrest
    refine (forall₂_filter hrest).imp ?_
    rintro settings encoder ⟨hother, built, hbuild⟩
    exact builds_of_rest (by simpa using hother) (buildEncoder_eq_ok_iff.mp hbuild).2

theorem lexicons_of_unreported
    (h : (Assembly.lexicons files base (assemble files base configuration).encoders
      configuration).problems = []) :
    List.Forall₂ (IsLexiconOf files base (assemble files base configuration))
      configuration.lexicons (assemble files base configuration).lexicons := by
  show List.Forall₂ _ _ (Assembly.lexicons files base
    (assemble files base configuration).encoders configuration).built
  rw [lexicons_eq_addAll] at h ⊢
  obtain ⟨lexicons, hbuilt, hlexicons⟩ := addAll_unreported h
  rw [hbuilt]
  refine hlexicons.imp ?_
  rintro settings lexicon ⟨-, hbuild⟩
  obtain ⟨format, encoder, hformat, hencoder, rfl⟩ := lexiconOf_eq_ok_iff.mp hbuild
  exact ⟨format, encoder, hformat, hencoder, rfl⟩

theorem tables_of_unreported
    (h : (Assembly.tables (assemble files base configuration).encoders configuration).problems =
      []) :
    List.Forall₂ (assemble files base configuration).IsTableOf configuration.hypotheses
      (assemble files base configuration).tables := by
  rw [tables_eq, List.flatMap_eq_nil_iff] at h
  rw [tables_assemble, List.forall₂_map_right_iff, List.forall₂_same]
  intro settings hsettings
  refine ⟨_, rel_bind ?_, rfl⟩
  intro id hid
  have hfound : findEncoder? (assemble files base configuration).encoders id ≠ none := by
    simpa [tableProblems, hid] using h settings hsettings
  obtain ⟨encoder, hencoder⟩ := Option.ne_none_iff_exists'.mp hfound
  exact ⟨encoder, hencoder, hencoder⟩

/-- The matcher of some settings has all that they name if no name of theirs has been reported. The
feature is checked where the expansion looks it up, among those of the query encoding. -/
theorem supplies_of_unreported {resources : Resources} {settings : MatcherSettings}
    (hlexicons : ∀ id ∈ settings.lexicons, (resources.lexicon? id).isSome = true)
    (htables : ∀ id, settings.hypotheses = some id → (resources.table? id).isSome = true)
    (hfeatures : ∀ feature, settings.consonantal = some feature →
      isInputFeature resources feature = true) :
    resources.Supplies settings
      (.ofLexicons (settings.lexicons.filterMap resources.lexicon?) settings.optionCount
        settings.bandTolerance (settings.hypotheses.bind resources.table?)
        (resources.expansion? settings)) where
  lexicons := by
    apply forall₂_filterMap
    intro id hid
    obtain ⟨lexicon, hfind⟩ := Option.isSome_iff_exists.mp (hlexicons id hid)
    exact ⟨lexicon, hfind, hfind, by simpa using List.find?_some hfind⟩
  readings := by
    apply rel_bind
    intro id hid
    obtain ⟨table, hfind⟩ := Option.isSome_iff_exists.mp (htables id hid)
    exact ⟨table, hfind, hfind, by simpa using List.find?_some hfind⟩
  expansion := by
    apply rel_bind
    intro feature hfeature
    have hknown := hfeatures feature hfeature
    cases hencoder : resources.inputEncoder? with
    | none => simp [isInputFeature, hencoder] at hknown
    | some encoder =>
      rw [isInputFeature, hencoder, Option.any_some] at hknown
      obtain ⟨dimension, hdimension⟩ := Option.isSome_iff_exists.mp hknown
      refine ⟨⟨dimension, encoder.features.plus, min settings.copies maxCopies⟩, ?_, encoder,
        dimension, rfl, hdimension, rfl⟩
      simp [Expansion.ofFeature?, hdimension]

theorem matcher_of_unreported {resources : Resources} (h : matcherProblems resources = []) :
    Option.Rel resources.Supplies resources.matcher resources.matcher? := by
  cases hmatcher : resources.matcher with
  | none =>
    rw [matcher?, hmatcher]
    exact .none
  | some settings =>
    rw [matcher?, hmatcher]
    simp only [matcherProblems, hmatcher, List.append_eq_nil_iff, List.map_eq_nil_iff,
      List.filter_eq_nil_iff, Option.mem_toList, Bool.not_eq_true, Option.isNone_eq_false_iff,
      Bool.not_eq_false'] at h
    obtain ⟨⟨hlexicons, htables⟩, hfeatures⟩ := h
    exact .some (supplies_of_unreported hlexicons htables hfeatures)

theorem input_of_unreported {resources : Resources} (h : inputProblems resources = []) :
    Option.Rel (fun settings encoder => resources.encoder? settings.encoding = some encoder)
      resources.input resources.inputEncoder? := by
  apply rel_bind
  intro settings hsettings
  cases hfind : resources.encoder? settings.encoding with
  | some encoder => exact ⟨encoder, rfl, rfl⟩
  | none => simp [inputProblems, hsettings, hfind] at h

/-- If assembly reports nothing, every reference of the configuration has resolved and every record
has its object. -/
theorem assemble_isComplete (h : (assemble files base configuration).problems = []) :
    (assemble files base configuration).IsComplete files base configuration := by
  simp only [problems_assemble, List.append_eq_nil_iff] at h
  obtain ⟨⟨⟨⟨⟨hsets, hencoders⟩, hlexicons⟩, htables⟩, hmatcher⟩, hinput⟩ := h
  obtain ⟨hread, hstage⟩ := encodings_of_unreported hencoders
  exact
    { featureSets := featureSets_of_unreported hsets
      encodings := hread
      encoders := encoders_of_unreported hstage
      lexicons := lexicons_of_unreported hlexicons
      tables := tables_of_unreported htables
      matcher := matcher_of_unreported hmatcher
      input := input_of_unreported hinput }

/-- A lexicon that is named twice is searched twice. -/
theorem assemble_isComplete_whispered :
    Whispered.resources.problems = [] ∧
      Whispered.resources.IsComplete Whispered.files "" Whispered.configuration ∧
        Whispered.resources.matcher?.map Matcher.lexicons =
          some [Whispered.words, Whispered.words] := by
  have hproblems : Whispered.resources.problems = [] := by decide +kernel
  exact ⟨hproblems, assemble_isComplete hproblems, rfl⟩

end Assemble

end Resources

end PhoneticSearch

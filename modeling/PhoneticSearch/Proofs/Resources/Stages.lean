import PhoneticSearch.Resources.Assembly

/-!
# The stages of assembly

* `Assembly.addAll`: one stage; what a record gives may depend on the objects built before it.
* `Assembly.Stage.Omits`: the same objects and one problem less.
* `Assembly.addAll_refused`, `Assembly.mem_of_accepted`: a record that is refused at its turn leaves
  its problem and nothing else; one that is accepted has its object in the end.
* `Resources.lexicons_assemble`, `Resources.tables_assemble`: the lexicons and the tables of a
  configuration, record by record.
-/

namespace PhoneticSearch

open Settings

namespace Assembly

variable {α β : Type}

@[simp]
theorem Stage.built_push (stage : Stage α) (object : α) :
    (stage.push object).built = stage.built ++ [object] := rfl

@[simp]
theorem Stage.problems_push (stage : Stage α) (object : α) :
    (stage.push object).problems = stage.problems := rfl

@[simp]
theorem Stage.built_report (stage : Stage α) (problem : Problem) :
    (stage.report problem).built = stage.built := rfl

@[simp]
theorem Stage.problems_report (stage : Stage α) (problem : Problem) :
    (stage.report problem).problems = stage.problems ++ [problem] := rfl

@[simp]
theorem Stage.add_ok (stage : Stage α) (object : α) : stage.add (.ok object) = stage.push object :=
  rfl

@[simp]
theorem Stage.add_error (stage : Stage α) (problem : Problem) :
    stage.add (.error problem) = stage.report problem := rfl

theorem Stage.built_prefix_add (stage : Stage α) (result : Except Problem α) :
    stage.built <+: (stage.add result).built := by
  cases result with
  | ok object => exact List.prefix_append _ _
  | error problem => exact List.prefix_refl _

theorem Stage.problems_prefix_add (stage : Stage α) (result : Except Problem α) :
    stage.problems <+: (stage.add result).problems := by
  cases result with
  | ok object => exact List.prefix_refl _
  | error problem => exact List.prefix_append _ _

/-- The same problems in the same order, except for one that is not there. -/
def Drops (problem : Problem) (problems fewer : List Problem) : Prop :=
  ∃ before after, problems = before ++ problem :: after ∧ fewer = before ++ after

theorem Drops.mem {problem : Problem} {problems fewer : List Problem}
    (h : Drops problem problems fewer) : problem ∈ problems := by
  obtain ⟨before, after, rfl, -⟩ := h
  simp

theorem Drops.append_left {problem : Problem} {problems fewer : List Problem}
    (h : Drops problem problems fewer) (others : List Problem) :
    Drops problem (others ++ problems) (others ++ fewer) := by
  obtain ⟨before, after, rfl, rfl⟩ := h
  exact ⟨others ++ before, after, by simp, by simp⟩

theorem Drops.append_right {problem : Problem} {problems fewer : List Problem}
    (h : Drops problem problems fewer) (others : List Problem) :
    Drops problem (problems ++ others) (fewer ++ others) := by
  obtain ⟨before, after, rfl, rfl⟩ := h
  exact ⟨before, after ++ others, by simp, by simp⟩

/-- A stage with the same objects and one problem less. -/
structure Stage.Omits (stage : Stage α) (problem : Problem) (other : Stage α) : Prop where
  built : other.built = stage.built
  problems : Drops problem stage.problems other.problems

theorem Stage.omits_report (stage : Stage α) (problem : Problem) :
    (stage.report problem).Omits problem stage where
  built := rfl
  problems := ⟨stage.problems, [], rfl, (List.append_nil _).symm⟩

theorem Stage.Omits.add {stage other : Stage α} {problem : Problem} (h : stage.Omits problem other)
    (result : Except Problem α) : (stage.add result).Omits problem (other.add result) := by
  cases result with
  | ok object => exact ⟨congrArg (· ++ [object]) h.built, h.problems⟩
  | error later => exact ⟨h.built, h.problems.append_right [later]⟩

/-- A stage with some more records. What one gives may depend on the objects there are already. -/
def addAll (build : List α → β → Except Problem α) (stage : Stage α) (records : List β) : Stage α :=
  records.foldl (fun stage record => stage.add (build stage.built record)) stage

section Stages

variable (build : List α → β → Except Problem α)

@[simp]
theorem addAll_nil (stage : Stage α) : addAll build stage [] = stage := rfl

@[simp]
theorem addAll_cons (stage : Stage α) (record : β) (records : List β) :
    addAll build stage (record :: records) =
      addAll build (stage.add (build stage.built record)) records := rfl

theorem addAll_append (stage : Stage α) (front back : List β) :
    addAll build stage (front ++ back) = addAll build (addAll build stage front) back :=
  List.foldl_append

theorem built_prefix_addAll (stage : Stage α) (records : List β) :
    stage.built <+: (addAll build stage records).built := by
  induction records generalizing stage with
  | nil => exact List.prefix_refl _
  | cons record records ih => exact (stage.built_prefix_add _).trans (ih _)

theorem problems_prefix_addAll (stage : Stage α) (records : List β) :
    stage.problems <+: (addAll build stage records).problems := by
  induction records generalizing stage with
  | nil => exact List.prefix_refl _
  | cons record records ih => exact (stage.problems_prefix_add _).trans (ih _)

theorem mem_of_accepted {stage : Stage α} {front : List β} {record : β} {object : α}
    (h : build (addAll build stage front).built record = .ok object) (back : List β) :
    object ∈ (addAll build stage (front ++ record :: back)).built := by
  rw [addAll_append, addAll_cons, h]
  exact (built_prefix_addAll build _ back).subset (by simp)

/-- If a record comes too late or is built, at whatever turn, then there is such an object in the
end. -/
theorem addAll_has {Q : α → Prop} {records : List β} {record : β} (hmem : record ∈ records)
    (h : ∀ built, (∃ object ∈ built, Q object) ∨
      ∃ object, build built record = .ok object ∧ Q object) (stage : Stage α) :
    ∃ object ∈ (addAll build stage records).built, Q object := by
  obtain ⟨front, back, rfl⟩ := List.append_of_mem hmem
  obtain ⟨object, hobject, hq⟩ | ⟨object, hbuild, hq⟩ := h (addAll build stage front).built
  · refine ⟨object, ?_, hq⟩
    rw [addAll_append]
    exact (built_prefix_addAll build _ _).subset hobject
  · exact ⟨object, mem_of_accepted build hbuild back, hq⟩

/-- The problems reported so far have no part in what comes after. -/
theorem addAll_omits {stage other : Stage α} {problem : Problem} (h : stage.Omits problem other)
    (records : List β) :
    (addAll build stage records).Omits problem (addAll build other records) := by
  induction records generalizing stage other with
  | nil => exact h
  | cons record records ih =>
    rw [addAll_cons, addAll_cons, h.built]
    exact ih (h.add _)

/-- A record that is refused at its turn leaves its problem and nothing else. -/
theorem addAll_refused {stage : Stage α} {front : List β} {record : β} {problem : Problem}
    (h : build (addAll build stage front).built record = .error problem) (back : List β) :
    (addAll build stage (front ++ record :: back)).Omits problem
      (addAll build stage (front ++ back)) := by
  rw [addAll_append, addAll_append, addAll_cons, h]
  exact addAll_omits build (Stage.omits_report _ problem) back

/-- Each object was there before or is what some record gives. -/
theorem mem_addAll {stage : Stage α} {records : List β} {object : α}
    (h : object ∈ (addAll build stage records).built) :
    object ∈ stage.built ∨ ∃ record ∈ records, ∃ built, build built record = .ok object := by
  induction records generalizing stage with
  | nil => exact .inl h
  | cons record rest ih =>
    obtain hadded | ⟨later, hlater, built, hbuild⟩ := ih h
    · cases hbuild : build stage.built record with
      | error problem => exact .inl (by simpa [hbuild] using hadded)
      | ok new =>
        obtain hold | rfl : object ∈ stage.built ∨ object = new := by simpa [hbuild] using hadded
        · exact .inl hold
        · exact .inr ⟨record, List.mem_cons_self, stage.built, hbuild⟩
    · exact .inr ⟨later, .tail _ hlater, built, hbuild⟩

/-- What holds of the objects at first and whenever one is built holds of them in the end. -/
theorem addAll_built {P : List α → Prop} {stage : Stage α} (hstart : P stage.built)
    (hstep : ∀ built record object, P built → build built record = .ok object →
      P (built ++ [object])) (records : List β) : P (addAll build stage records).built := by
  induction records generalizing stage with
  | nil => exact hstart
  | cons record records ih =>
    rw [addAll_cons]
    apply ih
    cases hbuild : build stage.built record with
    | ok object => exact hstep _ _ _ hstart hbuild
    | error problem => exact hstart

/-- If each object is built so as to suit those before it, all of them suit one another. -/
theorem addAll_pairwise {R : α → α → Prop} {stage : Stage α} (hstart : stage.built.Pairwise R)
    (hstep : ∀ built record object, build built record = .ok object →
      ∀ other ∈ built, R other object) (records : List β) :
    (addAll build stage records).built.Pairwise R := by
  refine addAll_built build hstart ?_ records
  intro built record object hbuilt hbuild
  rw [List.pairwise_append]
  refine ⟨hbuilt, List.pairwise_singleton R object, ?_⟩
  intro other hother last hlast
  obtain rfl := List.mem_singleton.mp hlast
  exact hstep built record _ hbuild other hother

theorem addAll_problems {P : Problem → Prop} {stage : Stage α}
    (hstart : ∀ problem ∈ stage.problems, P problem)
    (hstep : ∀ built record problem, build built record = .error problem → P problem)
    (records : List β) : ∀ problem ∈ (addAll build stage records).problems, P problem := by
  induction records generalizing stage with
  | nil => exact hstart
  | cons record records ih =>
    rw [addAll_cons]
    apply ih
    cases hbuild : build stage.built record with
    | ok object => exact hstart
    | error problem =>
      intro other hother
      obtain hold | rfl : other ∈ stage.problems ∨ other = problem := by simpa using hother
      · exact hstart _ hold
      · exact hstep _ _ _ hbuild

/-- Records that do not depend on the objects before them are built one by one. -/
theorem built_addAll_const (build : β → Except Problem α) (stage : Stage α) (records : List β) :
    (addAll (fun _ => build) stage records).built =
      stage.built ++ records.filterMap fun record => (build record).toOption := by
  induction records generalizing stage with
  | nil => simp
  | cons record records ih =>
    rw [addAll_cons, ih]
    cases hbuild : build record with
    | ok object => simp [hbuild, Except.toOption]
    | error problem => simp [hbuild, Except.toOption]

end Stages

/-! ## What a record gives -/

theorem buildFeatureSet_eq_ok_iff {built : List FeatureSet} {settings : FeatureSetSettings}
    {set : FeatureSet} :
    buildFeatureSet built settings = .ok set ↔
      findFeatureSet? built settings.id = none ∧ featureSetOf settings = set := by
  cases hfind : findFeatureSet? built settings.id <;> simp [buildFeatureSet, hfind]

theorem buildFeatureSet_eq_error_iff {built : List FeatureSet} {settings : FeatureSetSettings}
    {problem : Problem} :
    buildFeatureSet built settings = .error problem ↔
      (findFeatureSet? built settings.id).isSome = true ∧
        ofConfiguration (.duplicateId .featureSet settings.id) = problem := by
  cases hfind : findFeatureSet? built settings.id <;> simp [buildFeatureSet, hfind]

theorem encoderOf_eq_ok_iff {sets : List FeatureSet} {ipa : Option Encoder}
    {settings : EncodingSettings} {encoder : Encoder} :
    encoderOf sets ipa settings = .ok encoder ↔
      ∃ features, findFeatureSet? sets settings.features = some features ∧
        Encoder.ofEncoding (.ofSettings features ipa settings) = encoder := by
  cases hfind : findFeatureSet? sets settings.features <;> simp [encoderOf, hfind]

theorem buildEncoder_eq_ok_iff {sets : List FeatureSet} {ipa : Option Encoder}
    {built : List Encoder} {settings : EncodingSettings} {encoder : Encoder} :
    buildEncoder sets ipa built settings = .ok encoder ↔
      findEncoder? built settings.id = none ∧ encoderOf sets ipa settings = .ok encoder := by
  cases hfind : findEncoder? built settings.id <;> simp [buildEncoder, hfind]

theorem buildEncoder_eq_error {sets : List FeatureSet} {ipa : Option Encoder}
    {built : List Encoder} {settings : EncodingSettings} {problem : Problem}
    (h : buildEncoder sets ipa built settings = .error problem) :
    problem = ofConfiguration (.duplicateId .encoding settings.id) ∨
      problem = ⟨.encoding settings.id, .unknownReference .featureSet settings.features⟩ := by
  cases htaken : findEncoder? built settings.id with
  | some encoder => exact .inl (by simpa [buildEncoder, htaken] using h.symm)
  | none =>
    cases hfind : findFeatureSet? sets settings.features with
    | none => exact .inr (by simpa [buildEncoder, htaken, encoderOf, hfind] using h.symm)
    | some features => simp [buildEncoder, htaken, encoderOf, hfind] at h

theorem lexiconOf_eq_ok_iff {files : Files} {base : String} {encoders : List Encoder}
    {settings : LexiconSettings} {lexicon : Lexicon} :
    lexiconOf files base encoders settings = .ok lexicon ↔
      ∃ format encoder, Format.ofName? settings.kind = some format ∧
        findEncoder? encoders settings.encoding = some encoder ∧
          Lexicon.ofSource settings.id encoder files
            (.file format (Path.join base settings.path) settings.limit) = lexicon := by
  cases hkind : Format.ofName? settings.kind <;>
    cases hfind : findEncoder? encoders settings.encoding <;> simp [lexiconOf, hkind, hfind]

theorem lexiconOf_eq_error {files : Files} {base : String} {encoders : List Encoder}
    {settings : LexiconSettings} {problem : Problem}
    (h : lexiconOf files base encoders settings = .error problem) :
    ∃ kind id, problem = ⟨.lexicon settings.id, .unknownReference kind id⟩ := by
  cases hkind : Format.ofName? settings.kind with
  | none => exact ⟨.lexiconKind, settings.kind, by simpa [lexiconOf, hkind] using h.symm⟩
  | some format =>
    cases hfind : findEncoder? encoders settings.encoding with
    | none => exact ⟨.encoding, settings.encoding, by simpa [lexiconOf, hkind, hfind] using h.symm⟩
    | some encoder => simp [lexiconOf, hkind, hfind] at h

/-! ## Each kind of object by its stage -/

/-- The feature set of a record in place or in a file, given those built before. -/
def buildRecord (built : List FeatureSet) :
    Except LoadFault FeatureSetSettings → Except Problem FeatureSet
  | .error fault => .error (ofConfiguration (.unloaded fault))
  | .ok settings => buildFeatureSet built settings

theorem featureSets_eq_addAll (files : Files) (base : String) (configuration : Configuration) :
    featureSets files base configuration =
      addAll buildRecord .empty
        (configuration.featureSets.map
          (Included.resolve FeatureSetSettings.decoder files base)) := by
  have hstep : addFeatureSet = fun stage record => stage.add (buildRecord stage.built record) := by
    funext stage record
    cases record <;> rfl
  rw [featureSets, addAll, hstep]

/-- The stage of the IPA encodings. -/
def ipaStage (sets : List FeatureSet) (records : List EncodingSettings) : Stage Encoder :=
  addAll (buildEncoder sets none) .empty (records.filter isIpaSettings)

theorem encodersOf_eq_addAll (sets : List FeatureSet) (records : List EncodingSettings) :
    encodersOf sets records =
      addAll (buildEncoder sets (ipaStage sets records).built.head?) (ipaStage sets records)
        (records.filter fun settings => !isIpaSettings settings) := rfl

/-- The records of encodings that can be read, in order. -/
def encodingRecords (files : Files) (base : String) (records : List (Included EncodingSettings)) :
    List EncodingSettings :=
  (records.map (Included.resolve EncodingSettings.decoder files base)).filterMap Except.toOption

theorem mem_encodingRecords {files : Files} {base : String}
    {records : List (Included EncodingSettings)} {settings : EncodingSettings} :
    settings ∈ encodingRecords files base records ↔
      ∃ record ∈ records, record.resolve EncodingSettings.decoder files base = .ok settings := by
  simp only [encodingRecords, List.filterMap_map, List.mem_filterMap]
  constructor
  · rintro ⟨record, hmem, hread⟩
    refine ⟨record, hmem, ?_⟩
    cases hresolve : record.resolve EncodingSettings.decoder files base with
    | error fault => simp [hresolve, Except.toOption] at hread
    | ok read => simpa [hresolve, Except.toOption] using hread
  · rintro ⟨record, hmem, hresolve⟩
    exact ⟨record, hmem, by simp [hresolve, Except.toOption]⟩

theorem encodingRecords_append (files : Files) (base : String)
    (front back : List (Included EncodingSettings)) :
    encodingRecords files base (front ++ back) =
      encodingRecords files base front ++ encodingRecords files base back := by
  simp [encodingRecords]

theorem encodingRecords_cons {files : Files} {base : String} {record : Included EncodingSettings}
    {settings : EncodingSettings}
    (h : record.resolve EncodingSettings.decoder files base = .ok settings)
    (records : List (Included EncodingSettings)) :
    encodingRecords files base (record :: records) =
      settings :: encodingRecords files base records := by
  simp [encodingRecords, h, Except.toOption]

/-- What is reported of those that cannot. -/
def unreadEncodings (files : Files) (base : String) (records : List (Included EncodingSettings)) :
    List Problem :=
  records.filterMap fun record =>
    match record.resolve EncodingSettings.decoder files base with
    | .ok _ => none
    | .error fault => some (ofConfiguration (.unloaded fault))

theorem encoders_eq (files : Files) (base : String) (sets : List FeatureSet)
    (configuration : Configuration) :
    let stage := encodersOf sets (encodingRecords files base configuration.encodings)
    encoders files base sets configuration =
      ⟨stage.built, unreadEncodings files base configuration.encodings ++ stage.problems⟩ := by
  simp only [encoders, unreadEncodings, encodingRecords, List.filterMap_map]
  rfl

theorem lexicons_eq_addAll (files : Files) (base : String) (encoders : List Encoder)
    (configuration : Configuration) :
    lexicons files base encoders configuration =
      addAll (fun _ => lexiconOf files base encoders) .empty configuration.lexicons :=
  List.foldl_map

/-- The encoding of a table that nobody answers to. -/
def tableProblems (encoders : List Encoder) (settings : ReadingTableSettings) : List Problem :=
  (settings.encoding.toList.filter fun id => (findEncoder? encoders id).isNone).map fun id =>
    ⟨.hypotheses settings.id, .unknownReference .encoding id⟩

/-- Every record has a table, whether or not its encoding is there. -/
theorem addTable_eq (encoders : List Encoder) (stage : Stage ReadingTable)
    (settings : ReadingTableSettings) :
    addTable encoders stage settings =
      ⟨stage.built ++ [.ofSettings (settings.encoding.bind (findEncoder? encoders)) settings],
        stage.problems ++ tableProblems encoders settings⟩ := by
  cases hencoding : settings.encoding with
  | none => simp [addTable, tableProblems, hencoding, Stage.push]
  | some id =>
    cases hfind : findEncoder? encoders id with
    | none => simp [addTable, tableProblems, hencoding, hfind, Stage.push, Stage.report]
    | some encoder => simp [addTable, tableProblems, hencoding, hfind, Stage.push]

theorem tables_eq (encoders : List Encoder) (configuration : Configuration) :
    tables encoders configuration =
      ⟨configuration.hypotheses.map fun settings =>
          .ofSettings (settings.encoding.bind (findEncoder? encoders)) settings,
        configuration.hypotheses.flatMap (tableProblems encoders)⟩ := by
  suffices h : ∀ (records : List ReadingTableSettings) (stage : Stage ReadingTable),
      records.foldl (addTable encoders) stage =
        ⟨stage.built ++ records.map fun settings =>
            .ofSettings (settings.encoding.bind (findEncoder? encoders)) settings,
          stage.problems ++ records.flatMap (tableProblems encoders)⟩ from
    h configuration.hypotheses .empty
  intro records
  induction records with
  | nil => simp
  | cons settings records ih => intro stage; simp [ih, addTable_eq]

end Assembly

namespace Resources

section Assemble

variable (files : Files) (base : String) (configuration : Configuration)

/-- The lexicons are those of the records that can be built, in order. -/
theorem lexicons_assemble :
    (assemble files base configuration).lexicons =
      configuration.lexicons.filterMap fun settings =>
        (Assembly.lexiconOf files base (assemble files base configuration).encoders
          settings).toOption := by
  show (Assembly.lexicons files base _ configuration).built = _
  rw [Assembly.lexicons_eq_addAll, Assembly.built_addAll_const]
  rfl

variable {files base configuration} in
theorem mem_lexicons_assemble {lexicon : Lexicon} :
    lexicon ∈ (assemble files base configuration).lexicons ↔
      ∃ settings ∈ configuration.lexicons,
        Assembly.lexiconOf files base (assemble files base configuration).encoders settings =
          .ok lexicon := by
  rw [lexicons_assemble, List.mem_filterMap]
  constructor
  · rintro ⟨settings, hmem, hbuild⟩
    refine ⟨settings, hmem, ?_⟩
    cases hlexicon : Assembly.lexiconOf files base _ settings with
    | ok built => simpa [hlexicon, Except.toOption] using hbuild
    | error problem => simp [hlexicon, Except.toOption] at hbuild
  · rintro ⟨settings, hmem, hbuild⟩
    exact ⟨settings, hmem, by rw [hbuild]; rfl⟩

/-- The tables are those of all records, in order. -/
theorem tables_assemble :
    (assemble files base configuration).tables =
      configuration.hypotheses.map fun settings =>
        .ofSettings (settings.encoding.bind (assemble files base configuration).encoder?)
          settings :=
  congrArg Assembly.Stage.built
    (Assembly.tables_eq (assemble files base configuration).encoders configuration)

theorem problems_assemble :
    (assemble files base configuration).problems =
      (Assembly.featureSets files base configuration).problems ++
        (Assembly.encoders files base (assemble files base configuration).featureSets
          configuration).problems ++
        (Assembly.lexicons files base (assemble files base configuration).encoders
          configuration).problems ++
        (Assembly.tables (assemble files base configuration).encoders configuration).problems ++
        Assembly.matcherProblems (assemble files base configuration) ++
        Assembly.inputProblems (assemble files base configuration) := rfl

end Assemble

end Resources

end PhoneticSearch

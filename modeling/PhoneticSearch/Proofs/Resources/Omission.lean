import PhoneticSearch.Proofs.Resources.References

/-!
# Records that are left out

* `Resources.RefusesFeatureSet`, `RefusesEncoding`, `RefusesLexicon`: why a record is left out, and
  what is reported of it.
* `Resources.LeavesOut`: a configuration without a record that is left out.
* `Resources.assemble_omits`: such a record has its problem and no other part in what is assembled;
  every other record has its object.
* `Faulty`: a configuration with a record of each sort that is left out.
-/

namespace PhoneticSearch

open Settings

namespace Resources

open Assembly

section Refused

variable (files : Files) (base : String)

/-- A record of a feature set is left out if it cannot be read or if a record in front of it has its
identifier. -/
inductive RefusesFeatureSet (front : List (Included FeatureSetSettings))
    (record : Included FeatureSetSettings) : Problem → Prop where
  | unread {fault : LoadFault}
      (h : record.resolve FeatureSetSettings.decoder files base = .error fault) :
      RefusesFeatureSet front record (ofConfiguration (.unloaded fault))
  | repeated {settings first : FeatureSetSettings} {earlier : Included FeatureSetSettings}
      (hrecord : record.resolve FeatureSetSettings.decoder files base = .ok settings)
      (hmem : earlier ∈ front)
      (hearlier : earlier.resolve FeatureSetSettings.decoder files base = .ok first)
      (hid : first.id = settings.id) :
      RefusesFeatureSet front record (ofConfiguration (.duplicateId .featureSet settings.id))

/-- Some record in front is one of the same encoding, and the feature set that it names is there. -/
def IsRepeated (resources : Resources) (front : List (Included EncodingSettings))
    (settings : EncodingSettings) : Prop :=
  ∃ earlier ∈ front, ∃ first, earlier.resolve EncodingSettings.decoder files base = .ok first ∧
    (resources.featureSet? first.features).isSome = true ∧ SameEncoding first.id settings.id

/-- A record of an encoding is left out if it cannot be read, if its identifier is taken by a record
in front of it, or else if its own feature set is not there. -/
inductive RefusesEncoding (resources : Resources) (front : List (Included EncodingSettings))
    (record : Included EncodingSettings) : Problem → Prop where
  | unread {fault : LoadFault}
      (h : record.resolve EncodingSettings.decoder files base = .error fault) :
      RefusesEncoding resources front record (ofConfiguration (.unloaded fault))
  | repeated {settings : EncodingSettings}
      (hrecord : record.resolve EncodingSettings.decoder files base = .ok settings)
      (h : IsRepeated files base resources front settings) :
      RefusesEncoding resources front record (ofConfiguration (.duplicateId .encoding settings.id))
  | unknownFeatures {settings : EncodingSettings}
      (hrecord : record.resolve EncodingSettings.decoder files base = .ok settings)
      (hfirst : ¬IsRepeated files base resources front settings)
      (h : resources.featureSet? settings.features = none) :
      RefusesEncoding resources front record
        ⟨.encoding settings.id, .unknownReference .featureSet settings.features⟩

/-- A record of a lexicon is left out if its kind or its encoding is not known. -/
inductive RefusesLexicon (resources : Resources) (settings : LexiconSettings) : Problem → Prop where
  | unknownKind (h : Format.ofName? settings.kind = none) :
      RefusesLexicon resources settings
        ⟨.lexicon settings.id, .unknownReference .lexiconKind settings.kind⟩
  | unknownEncoding {format : Format} (hkind : Format.ofName? settings.kind = some format)
      (h : resources.encoder? settings.encoding = none) :
      RefusesLexicon resources settings
        ⟨.lexicon settings.id, .unknownReference .encoding settings.encoding⟩

/-- A configuration without one of the records that are left out, and the problem of that record. -/
inductive LeavesOut (configuration : Configuration) : Configuration → Problem → Prop where
  | featureSet {front back : List (Included FeatureSetSettings)}
      {record : Included FeatureSetSettings} {problem : Problem}
      (hsplit : configuration.featureSets = front ++ record :: back)
      (h : RefusesFeatureSet files base front record problem) :
      LeavesOut configuration { configuration with featureSets := front ++ back } problem
  | encoding {front back : List (Included EncodingSettings)} {record : Included EncodingSettings}
      {problem : Problem} (hsplit : configuration.encodings = front ++ record :: back)
      (h : RefusesEncoding files base (assemble files base configuration) front record problem) :
      LeavesOut configuration { configuration with encodings := front ++ back } problem
  | lexicon {front back : List LexiconSettings} {settings : LexiconSettings} {problem : Problem}
      (hsplit : configuration.lexicons = front ++ settings :: back)
      (h : RefusesLexicon (assemble files base configuration) settings problem) :
      LeavesOut configuration { configuration with lexicons := front ++ back } problem

end Refused

section Stages

variable {files : Files} {base : String} {configuration : Configuration} {problem : Problem}

theorem featureSets_omits {front back : List (Included FeatureSetSettings)}
    {record : Included FeatureSetSettings}
    (hsplit : configuration.featureSets = front ++ record :: back)
    (h : RefusesFeatureSet files base front record problem) :
    (Assembly.featureSets files base configuration).Omits problem
      (Assembly.featureSets files base { configuration with featureSets := front ++ back }) := by
  cases h with
  | unread h =>
    apply featureSets_refused hsplit
    rw [h]
    rfl
  | repeated hrecord hmem hearlier hid =>
    exact featureSets_repeated hsplit hrecord hmem hearlier hid

theorem isTaken_iff_isRepeated {resources : Resources} {front : List (Included EncodingSettings)}
    {settings : EncodingSettings} :
    IsTaken resources.featureSets (encodingRecords files base front) settings ↔
      IsRepeated files base resources front settings := by
  constructor
  · rintro ⟨first, hfirst, htaken⟩
    obtain ⟨earlier, hmem, hearlier⟩ := mem_encodingRecords.mp hfirst
    exact ⟨earlier, hmem, first, hearlier, htaken⟩
  · rintro ⟨earlier, hmem, first, hearlier, htaken⟩
    exact ⟨first, mem_encodingRecords.mpr ⟨earlier, hmem, hearlier⟩, htaken⟩

theorem encoders_omits {resources : Resources} {front back : List (Included EncodingSettings)}
    {record : Included EncodingSettings}
    (hsplit : configuration.encodings = front ++ record :: back)
    (h : RefusesEncoding files base resources front record problem) :
    (Assembly.encoders files base resources.featureSets configuration).Omits problem
      (Assembly.encoders files base resources.featureSets
        { configuration with encodings := front ++ back }) := by
  cases h with
  | unread h =>
    have hrecords : encodingRecords files base (front ++ record :: back) =
        encodingRecords files base (front ++ back) := by
      simp only [encodingRecords, List.map_append, List.map_cons, h, List.filterMap_append]
      rfl
    rw [encoders_eq, encoders_eq, hsplit, hrecords]
    refine ⟨rfl, Drops.append_right ⟨unreadEncodings files base front,
      unreadEncodings files base back, ?_, ?_⟩ _⟩
    · simp [unreadEncodings, h]
    · simp [unreadEncodings]
  | repeated hrecord h =>
    obtain ⟨earlier, hmem, first, hearlier, hfeatures, hsame⟩ := h
    exact encoders_repeated hsplit hrecord hmem hearlier hfeatures hsame
  | @unknownFeatures settings hrecord hfirst h =>
    apply encoders_refused hsplit hrecord
    obtain ⟨built, htaken, -, hrefused⟩ := encodersOf_turn resources.featureSets
      (encodingRecords files base front) settings (encodingRecords files base back)
    apply hrefused
    rw [isTaken_iff_isRepeated] at htaken
    have hfree : (findEncoder? built settings.id).isSome = false := by simpa [hfirst] using htaken
    have hfeatures : findFeatureSet? resources.featureSets settings.features = none := h
    simp [buildEncoder, hfree, encoderOf, hfeatures]

variable (files base) in
theorem lexicons_omits {resources : Resources} {front back : List LexiconSettings}
    {settings : LexiconSettings} (hsplit : configuration.lexicons = front ++ settings :: back)
    (h : RefusesLexicon resources settings problem) :
    (Assembly.lexicons files base resources.encoders configuration).Omits problem
      (Assembly.lexicons files base resources.encoders
        { configuration with lexicons := front ++ back }) := by
  rw [lexicons_eq_addAll, lexicons_eq_addAll, hsplit]
  apply addAll_refused
  cases h with
  | unknownKind h => simp [lexiconOf, h]
  | unknownEncoding hkind h =>
    have hfind : findEncoder? resources.encoders settings.encoding = none := h
    simp [lexiconOf, hkind, hfind]

end Stages

/-- The same resources with one problem less. -/
structure Omits (resources : Resources) (problem : Problem) (other : Resources) : Prop where
  objects : other = { resources with problems := other.problems }
  problems : Drops problem resources.problems other.problems

theorem matcherProblems_withProblems (resources : Resources) (problems : List Problem) :
    matcherProblems { resources with problems } = matcherProblems resources := rfl

theorem inputProblems_withProblems (resources : Resources) (problems : List Problem) :
    inputProblems { resources with problems } = inputProblems resources := rfl

section Assemble

variable {files : Files} {base : String} {configuration less : Configuration} {problem : Problem}

/-- What is built of each kind fixes the resources up to their problems, and these too except for
those of the records. -/
theorem assemble_omits_of_built
    (hsets : (Assembly.featureSets files base less).built =
      (assemble files base configuration).featureSets)
    (hencoders : (Assembly.encoders files base (assemble files base configuration).featureSets
      less).built = (assemble files base configuration).encoders)
    (hlexicons : (Assembly.lexicons files base (assemble files base configuration).encoders
      less).built = (assemble files base configuration).lexicons)
    (hhypotheses : less.hypotheses = configuration.hypotheses)
    (hmatcher : less.matcher = configuration.matcher) (hinput : less.input = configuration.input)
    (hproblems : Drops problem
      ((Assembly.featureSets files base configuration).problems ++
        (Assembly.encoders files base (assemble files base configuration).featureSets
          configuration).problems ++
        (Assembly.lexicons files base (assemble files base configuration).encoders
          configuration).problems)
      ((Assembly.featureSets files base less).problems ++
        (Assembly.encoders files base (assemble files base configuration).featureSets
          less).problems ++
        (Assembly.lexicons files base (assemble files base configuration).encoders
          less).problems)) :
    (assemble files base configuration).Omits problem (assemble files base less) := by
  have hsets : (assemble files base less).featureSets =
      (assemble files base configuration).featureSets := hsets
  have hencoders : (assemble files base less).encoders =
      (assemble files base configuration).encoders := by
    rw [← hencoders, ← hsets]
    rfl
  have hlexicons : (assemble files base less).lexicons =
      (assemble files base configuration).lexicons := by
    rw [← hlexicons, ← hencoders]
    rfl
  have htables : (Assembly.tables (assemble files base less).encoders less) =
      Assembly.tables (assemble files base configuration).encoders configuration := by
    rw [hencoders, tables_eq, tables_eq, hhypotheses]
  have hobjects : assemble files base less =
      { assemble files base configuration with
        problems := (assemble files base less).problems } :=
    Resources.ext rfl hsets hencoders hlexicons (congrArg Stage.built htables) hmatcher hinput rfl
  refine ⟨hobjects, ?_⟩
  -- References are looked up among the objects, so those that nobody answers to are the same ones.
  have hmatcherProblems : matcherProblems (assemble files base less) =
      matcherProblems (assemble files base configuration) := by
    rw [hobjects, matcherProblems_withProblems]
  have hinputProblems : inputProblems (assemble files base less) =
      inputProblems (assemble files base configuration) := by
    rw [hobjects, inputProblems_withProblems]
  rw [problems_assemble, problems_assemble, hmatcherProblems, hinputProblems, htables, hsets,
    hencoders]
  exact ((hproblems.append_right _).append_right _).append_right _

theorem assemble_omits_of_leavesOut (h : LeavesOut files base configuration less problem) :
    (assemble files base configuration).Omits problem (assemble files base less) := by
  cases h with
  | featureSet hsplit h =>
    have homits := featureSets_omits hsplit h
    exact assemble_omits_of_built homits.built rfl rfl rfl rfl rfl
      ((homits.problems.append_right _).append_right _)
  | encoding hsplit h =>
    have homits := encoders_omits hsplit h
    exact assemble_omits_of_built rfl homits.built rfl rfl rfl rfl
      ((homits.problems.append_left _).append_right _)
  | lexicon hsplit h =>
    have homits := lexicons_omits files base hsplit h
    exact assemble_omits_of_built rfl rfl homits.built rfl rfl rfl (homits.problems.append_left _)

theorem refusesFeatureSet_or_mem {front back : List (Included FeatureSetSettings)}
    {record : Included FeatureSetSettings}
    (hsplit : configuration.featureSets = front ++ record :: back) :
    (∃ problem, RefusesFeatureSet files base front record problem) ∨
      ∃ set ∈ (assemble files base configuration).featureSets,
        IsFeatureSetOf files base record set := by
  let resolve := Included.resolve FeatureSetSettings.decoder files base
  let built := (addAll buildRecord .empty (front.map resolve)).built
  cases hrecord : resolve record with
  | error fault => exact .inl ⟨_, .unread hrecord⟩
  | ok settings =>
    cases hfind : findFeatureSet? built settings.id with
    | some set =>
      obtain ⟨first, hfirst, hid⟩ := featureSet_taken_iff.mp (Option.isSome_of_eq_some hfind)
      obtain ⟨earlier, hmem, hearlier⟩ := List.mem_map.mp hfirst
      exact .inl ⟨_, .repeated hrecord hmem hearlier hid⟩
    | none =>
      refine .inr ⟨featureSetOf settings, ?_, settings, hrecord, rfl⟩
      show _ ∈ (Assembly.featureSets files base configuration).built
      have haccepted : buildRecord built (resolve record) = .ok (featureSetOf settings) := by
        rw [hrecord]
        exact buildFeatureSet_eq_ok_iff.mpr ⟨hfind, rfl⟩
      rw [featureSets_eq_addAll, hsplit, List.map_append, List.map_cons]
      exact mem_of_accepted buildRecord haccepted _

theorem refusesEncoding_or_mem {front back : List (Included EncodingSettings)}
    {record : Included EncodingSettings}
    (hsplit : configuration.encodings = front ++ record :: back) :
    (∃ problem,
        RefusesEncoding files base (assemble files base configuration) front record problem) ∨
      ∃ encoder ∈ (assemble files base configuration).encoders, ∃ settings,
        record.resolve EncodingSettings.decoder files base = .ok settings ∧
          (assemble files base configuration).Builds settings encoder := by
  cases hrecord : record.resolve EncodingSettings.decoder files base with
  | error fault => exact .inl ⟨_, .unread hrecord⟩
  | ok settings =>
    by_cases hrepeated : IsRepeated files base (assemble files base configuration) front settings
    · exact .inl ⟨_, .repeated hrecord hrepeated⟩
    · cases hfeatures : (assemble files base configuration).featureSet? settings.features with
      | none => exact .inl ⟨_, .unknownFeatures hrecord hrepeated hfeatures⟩
      | some features =>
        have hrecords : encodingRecords files base configuration.encodings =
            encodingRecords files base front ++ settings :: encodingRecords files base back := by
          rw [hsplit, encodingRecords_append, encodingRecords_cons hrecord]
        obtain ⟨built, htaken, haccepted, -⟩ := encodersOf_turn
          (assemble files base configuration).featureSets (encodingRecords files base front)
          settings (encodingRecords files base back)
        rw [← hrecords, ipaStage_head?, ← ipaFor] at haccepted
        rw [isTaken_iff_isRepeated] at htaken
        have hfree : findEncoder? built settings.id = none := by simpa [hrepeated] using htaken
        refine .inr ⟨.ofEncoding (.ofSettings features
          ((assemble files base configuration).ipaFor settings) settings), ?_, settings, rfl,
          features, hfeatures, rfl⟩
        apply haccepted
        exact buildEncoder_eq_ok_iff.mpr
          ⟨hfree, encoderOf_eq_ok_iff.mpr ⟨features, hfeatures, rfl⟩⟩

theorem refusesLexicon_or_mem {settings : LexiconSettings}
    (hsettings : settings ∈ configuration.lexicons) :
    (∃ problem, RefusesLexicon (assemble files base configuration) settings problem) ∨
      ∃ lexicon ∈ (assemble files base configuration).lexicons,
        IsLexiconOf files base (assemble files base configuration) settings lexicon := by
  cases hkind : Format.ofName? settings.kind with
  | none => exact .inl ⟨_, .unknownKind hkind⟩
  | some format =>
    cases hfind : (assemble files base configuration).encoder? settings.encoding with
    | none => exact .inl ⟨_, .unknownEncoding hkind hfind⟩
    | some encoder =>
      refine .inr ⟨.ofSource settings.id encoder files
        (.file format (Path.join base settings.path) settings.limit), ?_, format, encoder, hkind,
        hfind, rfl⟩
      exact mem_lexicons_assemble.mpr
        ⟨settings, hsettings, lexiconOf_eq_ok_iff.mpr ⟨format, encoder, hkind, hfind, rfl⟩⟩

/-- A record that is left out has its problem and no other part in what is assembled: without it
there are the same feature sets, encoders, lexicons and tables, and the same problems but for that
one. Every record is left out for one of the reasons given, or it has its object. -/
theorem assemble_omits (files : Files) (base : String) (configuration : Configuration) :
    let resources := assemble files base configuration
    (∀ less problem, LeavesOut files base configuration less problem →
        resources.Omits problem (assemble files base less)) ∧
      (∀ front record back, configuration.featureSets = front ++ record :: back →
        (∃ problem, RefusesFeatureSet files base front record problem) ∨
          ∃ set ∈ resources.featureSets, IsFeatureSetOf files base record set) ∧
      (∀ front record back, configuration.encodings = front ++ record :: back →
        (∃ problem, RefusesEncoding files base resources front record problem) ∨
          ∃ encoder ∈ resources.encoders, ∃ settings,
            record.resolve EncodingSettings.decoder files base = .ok settings ∧
              resources.Builds settings encoder) ∧
      ∀ settings ∈ configuration.lexicons,
        (∃ problem, RefusesLexicon resources settings problem) ∨
          ∃ lexicon ∈ resources.lexicons, IsLexiconOf files base resources settings lexicon := by
  refine ⟨?_, ?_, ?_, ?_⟩
  · intro less problem hleaves
    exact assemble_omits_of_leavesOut hleaves
  · intro front record back hsplit
    exact refusesFeatureSet_or_mem hsplit
  · intro front record back hsplit
    exact refusesEncoding_or_mem hsplit
  · intro settings hsettings
    exact refusesLexicon_or_mem hsettings

end Assemble

end Resources

/-! ## A record of each kind that is left out -/

namespace Faulty

def voicing : FeatureSetSettings := ⟨"voicing", none, none, none, none, ["voiced"]⟩

def latin : EncodingSettings := ⟨"latin", "voicing", none, []⟩

def tonal : EncodingSettings := ⟨"tonal", "tones", none, []⟩

def words : LexiconSettings := ⟨"words", "wordlist", "words.txt", "tonal", none, none⟩

/-- A feature set is given twice. There are no tones, so there is no tonal encoding, so there is no
lexicon over it. -/
def configuration : Configuration where
  featureSets := [.inPlace voicing, .inPlace voicing]
  encodings := [.inPlace tonal, .inPlace latin]
  lexicons := [words]
  hypotheses := []
  matcher := none
  input := some ⟨"tonal", none⟩

def resources : Resources := .assemble (.ofList []) "" configuration

end Faulty

open Assembly in
theorem Resources.assemble_omits_faulty :
    Faulty.resources.Omits (ofConfiguration (.duplicateId .featureSet "voicing"))
        (assemble (.ofList []) ""
          { Faulty.configuration with featureSets := [.inPlace Faulty.voicing] }) ∧
      Faulty.resources.Omits ⟨.encoding "tonal", .unknownReference .featureSet "tones"⟩
        (assemble (.ofList []) ""
          { Faulty.configuration with encodings := [.inPlace Faulty.latin] }) ∧
      Faulty.resources.Omits ⟨.lexicon "words", .unknownReference .encoding "tonal"⟩
        (assemble (.ofList []) "" { Faulty.configuration with lexicons := [] }) := by
  obtain ⟨homits, -⟩ := assemble_omits (.ofList []) "" Faulty.configuration
  refine ⟨homits _ _ ?_, homits _ _ ?_, homits _ _ ?_⟩
  · have hsplit : Faulty.configuration.featureSets =
        [.inPlace Faulty.voicing] ++ .inPlace Faulty.voicing :: [] := rfl
    have hrecord : (Included.inPlace Faulty.voicing).resolve FeatureSetSettings.decoder
        (.ofList []) "" = .ok Faulty.voicing := rfl
    have hmem : .inPlace Faulty.voicing ∈ [Included.inPlace Faulty.voicing] := List.mem_cons_self
    have hrepeated := RefusesFeatureSet.repeated hrecord hmem hrecord rfl
    exact .featureSet hsplit hrepeated
  · have hsplit : Faulty.configuration.encodings =
        [] ++ .inPlace Faulty.tonal :: [.inPlace Faulty.latin] := rfl
    have hrecord : (Included.inPlace Faulty.tonal).resolve EncodingSettings.decoder
        (.ofList []) "" = .ok Faulty.tonal := rfl
    have hfirst : ¬IsRepeated (.ofList []) "" Faulty.resources [] Faulty.tonal := by
      rintro ⟨earlier, hmem, -⟩
      cases hmem
    have hunknown := RefusesEncoding.unknownFeatures hrecord hfirst rfl
    exact .encoding hsplit hunknown
  · have hsplit : Faulty.configuration.lexicons = [] ++ Faulty.words :: [] := rfl
    exact .lexicon hsplit (.unknownEncoding rfl rfl)

end PhoneticSearch

import PhoneticSearch.Proofs.Readings
import PhoneticSearch.Proofs.Resources.Stages

/-!
# Identifiers of what has been built

* `SameEncoding`: when two identifiers mean the same encoding.
* `featureSets_distinct`, `encoders_distinct`: no two feature sets and no two encodings of a
  configuration go by the same identifier.
* `featureSet_taken_iff`, `encoder_taken_iff`: when an identifier is taken at the turn of a record.
* `encodersOf_turn`: the turn of a record of an encoding.
* `featureSets_repeated`, `encoders_repeated`: a record whose identifier is taken is reported and
  left out.
* `Findable`: each object is the one that its own name finds. Lexicons and tables are so just if no
  identifier is repeated, and no problem tells of one that is.
* `Resources.assemble_identifiers`: all of this for a whole configuration.
-/

namespace PhoneticSearch

open Settings

/-- Whether two identifiers mean the same encoding. The name of the IPA encoding does so in any
case. -/
def SameEncoding (a b : String) : Prop :=
  a = b ∨ (sameIgnoringCase a ipaName = true ∧ sameIgnoringCase b ipaName = true)

theorem SameEncoding.trans {a b c : String} (hab : SameEncoding a b) (hbc : SameEncoding b c) :
    SameEncoding a c := by
  obtain rfl | ⟨ha, hb⟩ := hab
  · exact hbc
  · obtain rfl | ⟨-, hc⟩ := hbc
    · exact .inr ⟨ha, hb⟩
    · exact .inr ⟨ha, hc⟩

theorem Encoder.answersTo_iff (encoder : Encoder) (id : String) :
    encoder.answersTo id = true ↔ SameEncoding encoder.encoding.name id := by
  simp [Encoder.answersTo, SameEncoding, Encoding.isIpa]

/-! ## Searches -/

section Searches

variable {α : Type}

/-- If no object answers to the name of a later one, the name of each finds the object itself. -/
theorem find?_own (answers : α → String → Bool) (name : α → String) {objects : List α}
    (hself : ∀ object, answers object (name object) = true)
    (h : objects.Pairwise fun a b => answers a (name b) = false) :
    ∀ object ∈ objects, objects.find? (fun other => answers other (name object)) = some object := by
  induction h with
  | nil => simp
  | @cons first rest hfirst _ ih =>
    intro object hobject
    cases hobject with
    | head => simp [hself]
    | tail _ hrest => simp [hfirst object hrest, ih object hrest]

/-- Objects that look different from what their names find are not what their names find. -/
theorem not_find_own {β : Type} {find : String → Option α} {name : α → String} {objects : List α}
    (look : α → β)
    (h : objects.map (fun object => (find (name object)).map look) ≠
      objects.map fun object => some (look object)) :
    ¬∀ object ∈ objects, find (name object) = some object := by
  intro hown
  apply h
  apply List.map_congr_left
  intro object hobject
  rw [hown object hobject, Option.map_some]

/-- Each object is the one at which the search for its own name ends. -/
def Findable (name : α → String) (objects : List α) : Prop :=
  ∀ place (h : place < objects.length),
    objects.findIdx? (fun object => name object == name objects[place]) = some place

theorem findable_iff_nodup (name : α → String) (objects : List α) :
    Findable name objects ↔ (objects.map name).Nodup := by
  constructor
  · intro h
    rw [List.Nodup, List.pairwise_map, List.pairwise_iff_getElem]
    intro i j hi hj hij heq
    have hfound := h i hi
    rw [heq, h j hj] at hfound
    cases hfound
    omega
  · intro h place hplace
    rw [List.Nodup, List.pairwise_map, List.pairwise_iff_getElem] at h
    rw [List.findIdx?_eq_some_iff_getElem]
    refine ⟨hplace, by simp, ?_⟩
    intro earlier hearlier
    simpa using h earlier place (by omega) hplace hearlier

theorem Findable.found {name : α → String} {objects : List α} (h : Findable name objects) :
    ∀ object ∈ objects,
      objects.find? (fun other => name other == name object) = some object := by
  rw [findable_iff_nodup, List.Nodup, List.pairwise_map] at h
  refine find?_own (fun object id => name object == id) name (by simp) ?_
  exact h.imp fun hne => by simpa using hne

end Searches

namespace Assembly

/-! ## Feature sets -/

theorem findFeatureSet?_eq_none {sets : List FeatureSet} {id : String} :
    findFeatureSet? sets id = none ↔ ∀ set ∈ sets, set.name ≠ id := by
  simp [findFeatureSet?]

theorem findFeatureSet?_isSome {sets : List FeatureSet} {id : String} :
    (findFeatureSet? sets id).isSome = true ↔ ∃ set ∈ sets, set.name = id := by
  simp [findFeatureSet?]

theorem featureSets_distinct (files : Files) (base : String) (configuration : Configuration) :
    (featureSets files base configuration).built.Pairwise fun a b => a.name ≠ b.name := by
  rw [featureSets_eq_addAll]
  refine addAll_pairwise buildRecord List.Pairwise.nil ?_ _
  intro built record object hbuild
  cases record with
  | error fault => cases hbuild
  | ok settings =>
    obtain ⟨hfree, rfl⟩ := buildFeatureSet_eq_ok_iff.mp hbuild
    exact findFeatureSet?_eq_none.mp hfree

/-- At the turn of a record its identifier is taken just if some record before it has the same
one. -/
theorem featureSet_taken_iff {records : List (Except LoadFault FeatureSetSettings)} {id : String} :
    (findFeatureSet? (addAll buildRecord .empty records).built id).isSome = true ↔
      ∃ first, .ok first ∈ records ∧ first.id = id := by
  rw [findFeatureSet?_isSome]
  constructor
  · rintro ⟨set, hset, rfl⟩
    obtain hempty | ⟨record, hrecord, built, hbuild⟩ := mem_addAll buildRecord hset
    · cases hempty
    · cases record with
      | error fault => cases hbuild
      | ok first =>
        obtain ⟨-, rfl⟩ := buildFeatureSet_eq_ok_iff.mp hbuild
        exact ⟨first, hrecord, rfl⟩
  · rintro ⟨first, hfirst, rfl⟩
    apply addAll_has buildRecord hfirst
    intro built
    cases hfind : findFeatureSet? built first.id with
    | some set => exact .inl (findFeatureSet?_isSome.mp (Option.isSome_of_eq_some hfind))
    | none => exact .inr ⟨featureSetOf first, buildFeatureSet_eq_ok_iff.mpr ⟨hfind, rfl⟩, rfl⟩

theorem featureSets_refused {files : Files} {base : String} {configuration : Configuration}
    {front back : List (Included FeatureSetSettings)} {record : Included FeatureSetSettings}
    {problem : Problem} (hsplit : configuration.featureSets = front ++ record :: back)
    (hrefused : buildRecord
        (addAll buildRecord .empty
          (front.map (Included.resolve FeatureSetSettings.decoder files base))).built
        (record.resolve FeatureSetSettings.decoder files base) = .error problem) :
    (featureSets files base configuration).Omits problem
      (featureSets files base { configuration with featureSets := front ++ back }) := by
  simp only [featureSets_eq_addAll, hsplit, List.map_append, List.map_cons]
  exact addAll_refused buildRecord hrefused _

/-- A record whose identifier an earlier one has taken is reported and left out. -/
theorem featureSets_repeated {files : Files} {base : String} {configuration : Configuration}
    {front back : List (Included FeatureSetSettings)} {record earlier : Included FeatureSetSettings}
    {settings first : FeatureSetSettings}
    (hsplit : configuration.featureSets = front ++ record :: back)
    (hrecord : record.resolve FeatureSetSettings.decoder files base = .ok settings)
    (hmem : earlier ∈ front)
    (hearlier : earlier.resolve FeatureSetSettings.decoder files base = .ok first)
    (hid : first.id = settings.id) :
    (featureSets files base configuration).Omits
      (ofConfiguration (.duplicateId .featureSet settings.id))
      (featureSets files base { configuration with featureSets := front ++ back }) := by
  apply featureSets_refused hsplit
  rw [hrecord]
  refine buildFeatureSet_eq_error_iff.mpr ⟨featureSet_taken_iff.mpr ⟨first, ?_, hid⟩, rfl⟩
  exact List.mem_map.mpr ⟨earlier, hmem, hearlier⟩

/-! ## Encodings -/

theorem findEncoder?_eq_none {encoders : List Encoder} {id : String} :
    findEncoder? encoders id = none ↔
      ∀ encoder ∈ encoders, ¬SameEncoding encoder.encoding.name id := by
  simp [findEncoder?, ← Encoder.answersTo_iff]

theorem findEncoder?_isSome {encoders : List Encoder} {id : String} :
    (findEncoder? encoders id).isSome = true ↔
      ∃ encoder ∈ encoders, SameEncoding encoder.encoding.name id := by
  simp [findEncoder?, Encoder.answersTo_iff]

/-- An encoder goes by the identifier of its record. -/
theorem name_of_encoderOf {sets : List FeatureSet} {ipa : Option Encoder}
    {settings : EncodingSettings} {encoder : Encoder}
    (h : encoderOf sets ipa settings = .ok encoder) : encoder.encoding.name = settings.id := by
  obtain ⟨features, -, rfl⟩ := encoderOf_eq_ok_iff.mp h
  rfl

theorem addAll_encoders_distinct (sets : List FeatureSet) (ipa : Option Encoder)
    {stage : Stage Encoder}
    (h : stage.built.Pairwise fun a b => ¬SameEncoding a.encoding.name b.encoding.name)
    (records : List EncodingSettings) :
    (addAll (buildEncoder sets ipa) stage records).built.Pairwise
      fun a b => ¬SameEncoding a.encoding.name b.encoding.name := by
  refine addAll_pairwise (buildEncoder sets ipa) h ?_ records
  intro built settings encoder hbuild
  obtain ⟨hfree, hencoder⟩ := buildEncoder_eq_ok_iff.mp hbuild
  rw [name_of_encoderOf hencoder]
  exact findEncoder?_eq_none.mp hfree

theorem encodersOf_distinct (sets : List FeatureSet) (records : List EncodingSettings) :
    (encodersOf sets records).built.Pairwise
      fun a b => ¬SameEncoding a.encoding.name b.encoding.name := by
  rw [encodersOf_eq_addAll]
  apply addAll_encoders_distinct
  exact addAll_encoders_distinct sets none List.Pairwise.nil _

theorem isIpaSettings_eq_of_same {first settings : EncodingSettings}
    (h : SameEncoding first.id settings.id) : isIpaSettings first = isIpaSettings settings := by
  obtain h | ⟨hfirst, hsettings⟩ := h
  · simp [isIpaSettings, h]
  · simp [isIpaSettings, hfirst, hsettings]

theorem isIpaSettings_of_same {settings : EncodingSettings} (h : SameEncoding settings.id ipaName) :
    isIpaSettings settings = true := by
  obtain h | ⟨h, -⟩ := h
  · rw [isIpaSettings, h]
    rfl
  · exact h

theorem mem_ipaStage {sets : List FeatureSet} {records : List EncodingSettings} {encoder : Encoder}
    (h : encoder ∈ (ipaStage sets records).built) :
    ∃ settings ∈ records, isIpaSettings settings = true ∧
      encoderOf sets none settings = .ok encoder := by
  obtain hempty | ⟨settings, hsettings, built, hbuild⟩ := mem_addAll _ h
  · cases hempty
  · obtain ⟨hmem, hipa⟩ := List.mem_filter.mp hsettings
    exact ⟨settings, hmem, hipa, (buildEncoder_eq_ok_iff.mp hbuild).2⟩

/-- Some record is one of the same encoding, and its features are there. -/
def IsTaken (sets : List FeatureSet) (records : List EncodingSettings)
    (settings : EncodingSettings) : Prop :=
  ∃ first ∈ records, (findFeatureSet? sets first.features).isSome = true ∧
    SameEncoding first.id settings.id

theorem isTaken_filter_iff {sets : List FeatureSet} {records : List EncodingSettings}
    {settings : EncodingSettings} {sort : EncodingSettings → Bool}
    (hsort : ∀ first, SameEncoding first.id settings.id → sort first = true) :
    IsTaken sets (records.filter sort) settings ↔ IsTaken sets records settings := by
  constructor
  · rintro ⟨first, hmem, hfirst⟩
    exact ⟨first, (List.mem_filter.mp hmem).1, hfirst⟩
  · rintro ⟨first, hmem, hfeatures, hsame⟩
    exact ⟨first, List.mem_filter.mpr ⟨hmem, hsort first hsame⟩, hfeatures, hsame⟩

/-- At the turn of a record its identifier is taken just if some record before it is one of the same
encoding and has been built. -/
theorem encoder_taken_iff {sets : List FeatureSet} {ipa : Option Encoder} {stage : Stage Encoder}
    {records : List EncodingSettings} {settings : EncodingSettings}
    (hstage : ∀ encoder ∈ stage.built, ¬SameEncoding encoder.encoding.name settings.id) :
    (findEncoder? (addAll (buildEncoder sets ipa) stage records).built settings.id).isSome = true ↔
      IsTaken sets records settings := by
  rw [findEncoder?_isSome]
  constructor
  · rintro ⟨encoder, hencoder, hsame⟩
    obtain hold | ⟨first, hfirst, built, hbuild⟩ := mem_addAll _ hencoder
    · exact absurd hsame (hstage encoder hold)
    · have hof := (buildEncoder_eq_ok_iff.mp hbuild).2
      obtain ⟨features, hfeatures, -⟩ := encoderOf_eq_ok_iff.mp hof
      rw [name_of_encoderOf hof] at hsame
      exact ⟨first, hfirst, Option.isSome_of_eq_some hfeatures, hsame⟩
  · rintro ⟨first, hfirst, hfeatures, hsame⟩
    apply addAll_has (buildEncoder sets ipa) hfirst
    intro built
    cases hfind : findEncoder? built first.id with
    | some encoder =>
      obtain ⟨encoder, hencoder, htaken⟩ :=
        findEncoder?_isSome.mp (Option.isSome_of_eq_some hfind)
      exact .inl ⟨encoder, hencoder, htaken.trans hsame⟩
    | none =>
      obtain ⟨features, hfeatures⟩ := Option.isSome_iff_exists.mp hfeatures
      have hof : encoderOf sets ipa first = .ok (.ofEncoding (.ofSettings features ipa first)) :=
        encoderOf_eq_ok_iff.mpr ⟨features, hfeatures, rfl⟩
      exact .inr ⟨_, buildEncoder_eq_ok_iff.mpr ⟨hfind, hof⟩, hsame⟩

/-- The turn of a record. The IPA encodings are built apart from the others, so it meets those of
its own sort only. It is built, or it leaves its problem and nothing else. -/
theorem encodersOf_turn (sets : List FeatureSet) (front : List EncodingSettings)
    (settings : EncodingSettings) (back : List EncodingSettings) :
    let records := front ++ settings :: back
    let ipa := if isIpaSettings settings then none else (ipaStage sets records).built.head?
    ∃ built,
      ((findEncoder? built settings.id).isSome = true ↔ IsTaken sets front settings) ∧
        (∀ encoder, buildEncoder sets ipa built settings = .ok encoder →
          encoder ∈ (encodersOf sets records).built) ∧
        ∀ problem, buildEncoder sets ipa built settings = .error problem →
          (encodersOf sets records).Omits problem (encodersOf sets (front ++ back)) := by
  intro records ipa
  cases hsort : isIpaSettings settings with
  | true =>
    -- The others are built on the IPA encodings, of which none is lost with the record.
    have hrest : records.filter (fun settings => !isIpaSettings settings) =
        (front ++ back).filter fun settings => !isIpaSettings settings := by
      simp [records, hsort]
    have hstage : ipaStage sets records = addAll (buildEncoder sets none) .empty
        (front.filter isIpaSettings ++ settings :: back.filter isIpaSettings) := by
      simp [records, ipaStage, hsort]
    refine ⟨(addAll (buildEncoder sets none) .empty (front.filter isIpaSettings)).built, ?_, ?_, ?_⟩
    · rw [encoder_taken_iff (fun encoder hencoder => by cases hencoder)]
      exact isTaken_filter_iff fun first hsame => (isIpaSettings_eq_of_same hsame).trans hsort
    · intro encoder hbuild
      rw [encodersOf_eq_addAll, hstage]
      exact (built_prefix_addAll _ _ _).subset
        (mem_of_accepted _ (by simpa [ipa, hsort] using hbuild) _)
    · intro problem hbuild
      have homits : (ipaStage sets records).Omits problem (ipaStage sets (front ++ back)) := by
        rw [hstage, ipaStage, List.filter_append]
        exact addAll_refused _ (by simpa [ipa, hsort] using hbuild) _
      rw [encodersOf_eq_addAll, encodersOf_eq_addAll, hrest, homits.built]
      exact addAll_omits _ homits _
  | false =>
    -- No encoder of the IPA stage has the identifier of a record of the other sort.
    have hstage : ipaStage sets records = ipaStage sets (front ++ back) := by
      simp [records, ipaStage, hsort]
    have hrest : records.filter (fun settings => !isIpaSettings settings) =
        front.filter (fun settings => !isIpaSettings settings) ++
          settings :: back.filter fun settings => !isIpaSettings settings := by
      simp [records, hsort]
    refine ⟨(addAll (buildEncoder sets (ipaStage sets records).built.head?) (ipaStage sets records)
      (front.filter fun settings => !isIpaSettings settings)).built, ?_, ?_, ?_⟩
    · rw [encoder_taken_iff]
      · refine isTaken_filter_iff fun first hsame => ?_
        rw [isIpaSettings_eq_of_same hsame, hsort, Bool.not_false]
      · intro encoder hencoder hsame
        obtain ⟨first, -, hipa, hof⟩ := mem_ipaStage hencoder
        rw [name_of_encoderOf hof] at hsame
        rw [isIpaSettings_eq_of_same hsame, hsort] at hipa
        cases hipa
    · intro encoder hbuild
      rw [encodersOf_eq_addAll, hrest]
      exact mem_of_accepted _ (by simpa [ipa, hsort] using hbuild) _
    · intro problem hbuild
      rw [encodersOf_eq_addAll, encodersOf_eq_addAll, hrest, ← hstage, List.filter_append]
      exact addAll_refused _ (by simpa [ipa, hsort] using hbuild) _

/-- A record that can be read has its turn among those that can. -/
theorem encoders_refused {files : Files} {base : String} {sets : List FeatureSet}
    {configuration : Configuration} {front back : List (Included EncodingSettings)}
    {record : Included EncodingSettings} {settings : EncodingSettings} {problem : Problem}
    (hsplit : configuration.encodings = front ++ record :: back)
    (hrecord : record.resolve EncodingSettings.decoder files base = .ok settings)
    (hrefused : (encodersOf sets (encodingRecords files base front ++
        settings :: encodingRecords files base back)).Omits problem
      (encodersOf sets (encodingRecords files base front ++ encodingRecords files base back))) :
    (encoders files base sets configuration).Omits problem
      (encoders files base sets { configuration with encodings := front ++ back }) := by
  have hrecords : encodingRecords files base (front ++ record :: back) =
      encodingRecords files base front ++ settings :: encodingRecords files base back := by
    rw [encodingRecords_append, encodingRecords_cons hrecord]
  have hunread : unreadEncodings files base (front ++ record :: back) =
      unreadEncodings files base (front ++ back) := by
    simp [unreadEncodings, hrecord]
  rw [encoders_eq, encoders_eq, hsplit, hrecords, hunread, encodingRecords_append]
  exact ⟨hrefused.built, hrefused.problems.append_left _⟩

/-- A record is reported and left out if an earlier one has the same identifier and is over features
that are there. -/
theorem encoders_repeated {files : Files} {base : String} {sets : List FeatureSet}
    {configuration : Configuration} {front back : List (Included EncodingSettings)}
    {record earlier : Included EncodingSettings} {settings first : EncodingSettings}
    (hsplit : configuration.encodings = front ++ record :: back)
    (hrecord : record.resolve EncodingSettings.decoder files base = .ok settings)
    (hmem : earlier ∈ front)
    (hearlier : earlier.resolve EncodingSettings.decoder files base = .ok first)
    (hfeatures : (findFeatureSet? sets first.features).isSome = true)
    (hsame : SameEncoding first.id settings.id) :
    (encoders files base sets configuration).Omits
      (ofConfiguration (.duplicateId .encoding settings.id))
      (encoders files base sets { configuration with encodings := front ++ back }) := by
  apply encoders_refused hsplit hrecord
  obtain ⟨built, htaken, -, hrefused⟩ :=
    encodersOf_turn sets (encodingRecords files base front) settings
      (encodingRecords files base back)
  apply hrefused
  have hfirst : first ∈ encodingRecords files base front :=
    mem_encodingRecords.mpr ⟨earlier, hmem, hearlier⟩
  simp [buildEncoder, htaken.mpr ⟨first, hfirst, hfeatures, hsame⟩]

/-! ## Problems -/

/-- A problem that is no repeated identifier, except of a feature set or of an encoding. -/
def OfCheckedKind (problem : Problem) : Prop :=
  ∀ kind id, problem.issue = .duplicateId kind id → kind = .featureSet ∨ kind = .encoding

theorem featureSets_ofCheckedKind (files : Files) (base : String) (configuration : Configuration) :
    ∀ problem ∈ (featureSets files base configuration).problems, OfCheckedKind problem := by
  rw [featureSets_eq_addAll]
  refine addAll_problems buildRecord (by simp [Stage.empty]) ?_ _
  intro built record problem hbuild kind id hissue
  cases record with
  | error fault => cases hbuild; cases hissue
  | ok settings =>
    obtain ⟨-, rfl⟩ := buildFeatureSet_eq_error_iff.mp hbuild
    cases hissue
    exact .inl rfl

theorem addAll_encoders_ofCheckedKind (sets : List FeatureSet) (ipa : Option Encoder)
    {stage : Stage Encoder} (h : ∀ problem ∈ stage.problems, OfCheckedKind problem)
    (records : List EncodingSettings) :
    ∀ problem ∈ (addAll (buildEncoder sets ipa) stage records).problems,
      OfCheckedKind problem := by
  refine addAll_problems (buildEncoder sets ipa) h ?_ records
  intro built settings problem hbuild kind id hissue
  obtain rfl | rfl := buildEncoder_eq_error hbuild
  · cases hissue
    exact .inr rfl
  · cases hissue

theorem encoders_ofCheckedKind (files : Files) (base : String) (sets : List FeatureSet)
    (configuration : Configuration) :
    ∀ problem ∈ (encoders files base sets configuration).problems, OfCheckedKind problem := by
  intro problem hproblem
  obtain hunread | hstage := List.mem_append.1 hproblem
  · obtain ⟨record, -, hrecord⟩ := List.mem_filterMap.1 hunread
    intro kind id hissue
    cases record with
    | ok settings => cases hrecord
    | error fault => cases hrecord; cases hissue
  · rw [encodersOf_eq_addAll] at hstage
    refine addAll_encoders_ofCheckedKind _ _ ?_ _ problem hstage
    exact addAll_encoders_ofCheckedKind _ _ (by simp [Stage.empty]) _

theorem lexicons_ofCheckedKind (files : Files) (base : String) (encoders : List Encoder)
    (configuration : Configuration) :
    ∀ problem ∈ (lexicons files base encoders configuration).problems,
      OfCheckedKind problem := by
  rw [lexicons_eq_addAll]
  refine addAll_problems _ (by simp [Stage.empty]) ?_ _
  intro built settings problem hbuild kind id hissue
  obtain ⟨_, _, rfl⟩ := lexiconOf_eq_error hbuild
  cases hissue

theorem tables_ofCheckedKind (encoders : List Encoder) (configuration : Configuration) :
    ∀ problem ∈ (tables encoders configuration).problems, OfCheckedKind problem := by
  rw [tables_eq]
  intro problem hproblem kind id hissue
  obtain ⟨settings, -, hsettings⟩ := List.mem_flatMap.mp hproblem
  obtain ⟨_, -, rfl⟩ := List.mem_map.mp hsettings
  cases hissue

theorem matcherProblems_ofCheckedKind (resources : Resources) :
    ∀ problem ∈ matcherProblems resources, OfCheckedKind problem := by
  intro problem hproblem kind id hissue
  cases hmatcher : resources.matcher with
  | none => simp [matcherProblems, hmatcher] at hproblem
  | some settings =>
    simp only [matcherProblems, hmatcher, List.mem_append, List.mem_map] at hproblem
    obtain (⟨_, _, rfl⟩ | ⟨_, _, rfl⟩) | ⟨_, _, rfl⟩ := hproblem <;> cases hissue

theorem inputProblems_ofCheckedKind (resources : Resources) :
    ∀ problem ∈ inputProblems resources, OfCheckedKind problem := by
  intro problem hproblem kind id hissue
  cases hinput : resources.input with
  | none => simp [inputProblems, hinput] at hproblem
  | some settings =>
    by_cases hfind : (resources.encoder? settings.encoding).isSome = true
    · simp [inputProblems, hinput, hfind] at hproblem
    · obtain rfl : problem = ⟨.input, .unknownReference .encoding settings.encoding⟩ := by
        simpa [inputProblems, hinput, hfind] using hproblem
      cases hissue

/-- Whether a lexicon can be built: its format and its encoding must be there. -/
def isBuildable (encoders : List Encoder) (settings : LexiconSettings) : Bool :=
  (Format.ofName? settings.kind).isSome && (findEncoder? encoders settings.encoding).isSome

theorem names_lexicons (files : Files) (base : String) (encoders : List Encoder)
    (records : List LexiconSettings) :
    ((records.filterMap fun settings => (lexiconOf files base encoders settings).toOption).map
        Lexicon.name) =
      (records.filter (isBuildable encoders)).map (·.id) := by
  induction records with
  | nil => rfl
  | cons settings records ih =>
    rw [List.filterMap_cons, List.filter_cons]
    cases hkind : Format.ofName? settings.kind with
    | none => simpa [lexiconOf, isBuildable, hkind, Except.toOption] using ih
    | some format =>
      cases hfind : findEncoder? encoders settings.encoding with
      | none => simpa [lexiconOf, isBuildable, hkind, hfind, Except.toOption] using ih
      | some encoder =>
        simpa [lexiconOf, isBuildable, hkind, hfind, Except.toOption, Lexicon.ofSource] using ih

end Assembly

namespace Resources

open Assembly

theorem problems_assemble_ofCheckedKind (files : Files) (base : String)
    (configuration : Configuration) :
    ∀ problem ∈ (assemble files base configuration).problems, OfCheckedKind problem := by
  intro problem hproblem
  rw [problems_assemble] at hproblem
  simp only [List.mem_append] at hproblem
  obtain ((((h | h) | h) | h) | h) | h := hproblem
  · exact featureSets_ofCheckedKind _ _ _ problem h
  · exact encoders_ofCheckedKind _ _ _ _ problem h
  · exact lexicons_ofCheckedKind _ _ _ _ problem h
  · exact tables_ofCheckedKind _ _ problem h
  · exact matcherProblems_ofCheckedKind _ problem h
  · exact inputProblems_ofCheckedKind _ problem h

/-- What a configuration builds goes by its identifiers.

Feature sets and encodings are pairwise distinct and each is found under its own name; a record that
repeats an identifier which is taken is reported, and all is built as if it were not there. Lexicons
and tables are built whether or not their identifiers are taken, and nothing tells of it: so each is
found under its own name just if the configuration repeats none. -/
theorem assemble_identifiers (files : Files) (base : String) (configuration : Configuration) :
    let resources := assemble files base configuration
    (resources.featureSets.Pairwise (fun a b => a.name ≠ b.name) ∧
        ∀ set ∈ resources.featureSets, resources.featureSet? set.name = some set) ∧
      (resources.encoders.Pairwise
          (fun a b => ¬SameEncoding a.encoding.name b.encoding.name) ∧
        ∀ encoder ∈ resources.encoders,
          resources.encoder? encoder.encoding.name = some encoder) ∧
      (∀ front record back settings earlier first,
        configuration.featureSets = front ++ record :: back →
        record.resolve FeatureSetSettings.decoder files base = .ok settings →
        earlier ∈ front → earlier.resolve FeatureSetSettings.decoder files base = .ok first →
        first.id = settings.id →
        ⟨.configuration, .duplicateId .featureSet settings.id⟩ ∈ resources.problems ∧
          (assemble files base { configuration with featureSets := front ++ back }).featureSets =
            resources.featureSets) ∧
      (∀ front record back settings earlier first,
        configuration.encodings = front ++ record :: back →
        record.resolve EncodingSettings.decoder files base = .ok settings →
        earlier ∈ front → earlier.resolve EncodingSettings.decoder files base = .ok first →
        (resources.featureSet? first.features).isSome = true →
        SameEncoding first.id settings.id →
        ⟨.configuration, .duplicateId .encoding settings.id⟩ ∈ resources.problems ∧
          (assemble files base { configuration with encodings := front ++ back }).encoders =
            resources.encoders) ∧
      ((Findable Lexicon.name resources.lexicons ↔
          ((configuration.lexicons.filter (isBuildable resources.encoders)).map (·.id)).Nodup) ∧
        (Findable Lexicon.name resources.lexicons →
          ∀ lexicon ∈ resources.lexicons, resources.lexicon? lexicon.name = some lexicon)) ∧
      ((Findable ReadingTable.name resources.tables ↔
          (configuration.hypotheses.map (·.id)).Nodup) ∧
        (Findable ReadingTable.name resources.tables →
          ∀ table ∈ resources.tables, resources.table? table.name = some table)) ∧
      ∀ kind id, ⟨.configuration, .duplicateId kind id⟩ ∈ resources.problems →
        kind = .featureSet ∨ kind = .encoding := by
  intro resources
  have hsets : resources.featureSets.Pairwise fun a b => a.name ≠ b.name :=
    featureSets_distinct files base configuration
  have hencoders : resources.encoders.Pairwise
      fun a b => ¬SameEncoding a.encoding.name b.encoding.name :=
    encodersOf_distinct _ _
  refine ⟨⟨hsets, ?_⟩, ⟨hencoders, ?_⟩, ?_, ?_, ?_, ?_, ?_⟩
  · refine find?_own (fun set id => set.name == id) FeatureSet.name (by simp) ?_
    exact hsets.imp fun hab => by simpa using hab
  · refine find?_own Encoder.answersTo (fun encoder => encoder.encoding.name) ?_ ?_
    · intro encoder
      exact (Encoder.answersTo_iff _ _).2 (.inl rfl)
    · exact hencoders.imp fun hab => by simpa [← Encoder.answersTo_iff] using hab
  · intro front record back settings earlier first hsplit hrecord hmem hearlier hid
    obtain ⟨hbuilt, hproblem⟩ := featureSets_repeated hsplit hrecord hmem hearlier hid
    refine ⟨?_, hbuilt⟩
    show _ ∈ (assemble files base configuration).problems
    simp only [problems_assemble, List.mem_append]
    exact .inl (.inl (.inl (.inl (.inl hproblem.mem))))
  · intro front record back settings earlier first hsplit hrecord hmem hearlier hfeatures hsame
    obtain ⟨hbuilt, hproblem⟩ :=
      encoders_repeated hsplit hrecord hmem hearlier hfeatures hsame
    refine ⟨?_, hbuilt⟩
    show _ ∈ (assemble files base configuration).problems
    simp only [problems_assemble, List.mem_append]
    exact .inl (.inl (.inl (.inl (.inr hproblem.mem))))
  · refine ⟨?_, Findable.found⟩
    rw [findable_iff_nodup, ← names_lexicons files base, ← lexicons_assemble]
  · refine ⟨?_, Findable.found⟩
    have hnames : resources.tables.map ReadingTable.name = configuration.hypotheses.map (·.id) := by
      simp [resources, tables_assemble, ReadingTable.name_ofSettings]
    rw [findable_iff_nodup, hnames]
  · intro kind id hproblem
    exact problems_assemble_ofCheckedKind files base configuration _ hproblem kind id rfl

/-- A configuration that gives an identifier of each kind twice. -/
def repeating : Configuration where
  featureSets :=
    [.inPlace ⟨"f", none, none, none, none, ["voiced"]⟩,
      .inPlace ⟨"f", none, none, none, none, ["voiced", "nasal"]⟩]
  encodings := [.inPlace ⟨"IPA", "f", none, []⟩, .inPlace ⟨"ipa", "f", none, []⟩]
  lexicons :=
    [⟨"words", "wordlist", "a.txt", "ipa", none, none⟩,
      ⟨"words", "wordlist", "b.txt", "ipa", none, none⟩]
  hypotheses :=
    [⟨"notes", none, [⟨none, [⟨.one "a", "A", none⟩]⟩]⟩, ⟨"notes", none, []⟩]
  matcher := none
  input := none

theorem assemble_identifiers_repeating :
    let resources := assemble (.ofList []) "" repeating
    (⟨.configuration, .duplicateId .featureSet "f"⟩ ∈ resources.problems ∧
        (assemble (.ofList []) ""
            { repeating with featureSets := repeating.featureSets.take 1 }).featureSets =
          resources.featureSets) ∧
      (⟨.configuration, .duplicateId .encoding "ipa"⟩ ∈ resources.problems ∧
        (assemble (.ofList []) ""
            { repeating with encodings := repeating.encodings.take 1 }).encoders =
          resources.encoders) := by
  obtain ⟨-, -, hsets, hencodings, -⟩ := assemble_identifiers (.ofList []) "" repeating
  exact ⟨hsets (repeating.featureSets.take 1) _ [] _ _ _ rfl rfl (List.mem_cons_self ..) rfl rfl,
    hencodings (repeating.encodings.take 1) _ [] _ _ _ rfl rfl (List.mem_cons_self ..) rfl
      (by decide +kernel) (.inr (by decide +kernel))⟩

/-- Of the identifiers given twice only two are reported. The later lexicon and the later table are
built and cannot be reached. -/
theorem repeating_shadowed :
    let resources := assemble (.ofList []) "" repeating
    resources.problems =
        [⟨.configuration, .duplicateId .featureSet "f"⟩,
          ⟨.configuration, .duplicateId .encoding "ipa"⟩] ∧
      (¬resources.lexicons.Pairwise (fun a b => a.name ≠ b.name) ∧
        ¬∀ lexicon ∈ resources.lexicons, resources.lexicon? lexicon.name = some lexicon) ∧
      ¬resources.tables.Pairwise (fun a b => a.name ≠ b.name) ∧
        ¬∀ table ∈ resources.tables, resources.table? table.name = some table := by
  intro resources
  have hlexicons : resources.lexicons.map Lexicon.name = ["words", "words"] := by decide +kernel
  have htables : resources.tables.map ReadingTable.name = ["notes", "notes"] := by decide +kernel
  refine ⟨by decide +kernel, ⟨?_, ?_⟩, ?_, ?_⟩
  · rw [← List.pairwise_map (f := Lexicon.name) (R := (· ≠ ·)), hlexicons]
    simp
  · exact not_find_own (fun lexicon => lexicon.source.describe) (by decide +kernel)
  · rw [← List.pairwise_map (f := ReadingTable.name) (R := (· ≠ ·)), htables]
    simp
  · exact not_find_own ReadingTable.size (by decide +kernel)

end Resources

end PhoneticSearch

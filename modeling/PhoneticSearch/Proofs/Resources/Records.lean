import PhoneticSearch.Proofs.Resources.Identifiers

/-!
# The records of encodings

* `Assembly.findEncoder?_ipaName`: the encoder that resolves IPA texts is the one found under the
  name of the IPA encoding.
* `Resources.Builds`: an encoder is what a record gives, over the features that the record names and
  with its IPA texts resolved by the IPA encoding.
* `Resources.exists_builds_of_mem_encoders`: every encoder is what one of the records gives.
* `Resources.exists_settings_of_mem_featureSets`: so is every feature set.
-/

namespace PhoneticSearch

open Settings

namespace Assembly

/-! ## The encoder of IPA texts -/

variable {sets : List FeatureSet} {records : List EncodingSettings} {encoder : Encoder}

theorem mem_encodersOf (h : encoder ∈ (encodersOf sets records).built) :
    encoder ∈ (ipaStage sets records).built ∨
      ∃ settings ∈ records, isIpaSettings settings = false ∧
        encoderOf sets (ipaStage sets records).built.head? settings = .ok encoder := by
  rw [encodersOf_eq_addAll] at h
  obtain hipa | ⟨settings, hsettings, built, hbuild⟩ := mem_addAll _ h
  · exact .inl hipa
  · obtain ⟨hmem, hrest⟩ := List.mem_filter.mp hsettings
    exact .inr ⟨settings, hmem, by simpa using hrest, (buildEncoder_eq_ok_iff.mp hbuild).2⟩

/-- The IPA encoding goes before all others and no other answers to its name. -/
theorem findEncoder?_ipaName (sets : List FeatureSet) (records : List EncodingSettings) :
    findEncoder? (encodersOf sets records).built ipaName =
      (ipaStage sets records).built.head? := by
  cases hstage : (ipaStage sets records).built with
  | nil =>
    rw [List.head?_nil, findEncoder?_eq_none]
    intro encoder hencoder hsame
    obtain hipa | ⟨settings, -, hrest, hbuild⟩ := mem_encodersOf hencoder
    · rw [hstage] at hipa
      cases hipa
    · rw [name_of_encoderOf hbuild] at hsame
      rw [isIpaSettings_of_same hsame] at hrest
      cases hrest
  | cons first rest =>
    have hfirst : first ∈ (ipaStage sets records).built := hstage ▸ List.mem_cons_self
    obtain ⟨settings, -, hipa, hbuild⟩ := mem_ipaStage hfirst
    have hanswers : first.answersTo ipaName = true := by
      rw [Encoder.answersTo_iff, name_of_encoderOf hbuild]
      exact .inr ⟨hipa, rfl⟩
    obtain ⟨more, hmore⟩ := built_prefix_addAll
      (buildEncoder sets (ipaStage sets records).built.head?) (ipaStage sets records)
      (records.filter fun settings => !isIpaSettings settings)
    rw [← encodersOf_eq_addAll, hstage] at hmore
    rw [findEncoder?, ← hmore, List.cons_append]
    exact List.find?_cons_of_pos hanswers

end Assembly

namespace Resources

open Assembly

/-- The encoder of the IPA texts in a record. The IPA encoding itself has none. -/
def ipaFor (resources : Resources) (settings : EncodingSettings) : Option Encoder :=
  if isIpaSettings settings then none else resources.encoder? ipaName

/-- An encoder is what a record gives, over the features that the record names. -/
def Builds (resources : Resources) (settings : EncodingSettings) (encoder : Encoder) : Prop :=
  ∃ features, resources.featureSet? settings.features = some features ∧
    encoder = .ofEncoding (.ofSettings features (resources.ipaFor settings) settings)

theorem Builds.featureSet? {resources : Resources} {settings : EncodingSettings}
    {encoder : Encoder} (h : resources.Builds settings encoder) :
    resources.featureSet? settings.features = some encoder.features := by
  obtain ⟨features, hfeatures, rfl⟩ := h
  exact hfeatures

theorem Builds.mem_featureSets {resources : Resources} {settings : EncodingSettings}
    {encoder : Encoder} (h : resources.Builds settings encoder) :
    encoder.features ∈ resources.featureSets :=
  List.mem_of_find?_eq_some h.featureSet?

section Assemble

variable {files : Files} {base : String} {configuration : Configuration}

theorem encoders_assemble (files : Files) (base : String) (configuration : Configuration) :
    (assemble files base configuration).encoders =
      (encodersOf (assemble files base configuration).featureSets
        (encodingRecords files base configuration.encodings)).built := rfl

theorem ipaStage_head? (files : Files) (base : String) (configuration : Configuration) :
    (ipaStage (assemble files base configuration).featureSets
        (encodingRecords files base configuration.encodings)).built.head? =
      (assemble files base configuration).encoder? ipaName := by
  rw [encoder?, encoders_assemble, findEncoder?_ipaName]

theorem builds_of_ipa {settings : EncodingSettings} {encoder : Encoder}
    (hipa : isIpaSettings settings = true)
    (h : encoderOf (assemble files base configuration).featureSets none settings = .ok encoder) :
    (assemble files base configuration).Builds settings encoder := by
  obtain ⟨features, hfeatures, rfl⟩ := encoderOf_eq_ok_iff.mp h
  exact ⟨features, hfeatures, by rw [ipaFor, if_pos hipa]⟩

theorem builds_of_rest {settings : EncodingSettings} {encoder : Encoder}
    (hrest : isIpaSettings settings = false)
    (h : encoderOf (assemble files base configuration).featureSets
      ((assemble files base configuration).encoder? ipaName) settings = .ok encoder) :
    (assemble files base configuration).Builds settings encoder := by
  obtain ⟨features, hfeatures, rfl⟩ := encoderOf_eq_ok_iff.mp h
  exact ⟨features, hfeatures, by rw [ipaFor, hrest, if_neg Bool.false_ne_true]⟩

theorem exists_settings_of_mem_featureSets {set : FeatureSet}
    (h : set ∈ (assemble files base configuration).featureSets) :
    ∃ settings, set = featureSetOf settings := by
  have hmem : set ∈ (Assembly.featureSets files base configuration).built := h
  rw [featureSets_eq_addAll] at hmem
  obtain hempty | ⟨record, -, built, hbuild⟩ := mem_addAll _ hmem
  · cases hempty
  · cases record with
    | error fault => cases hbuild
    | ok settings => exact ⟨settings, (buildFeatureSet_eq_ok_iff.mp hbuild).2.symm⟩

/-- Every feature set is found under its name. -/
theorem featureSet?_name {set : FeatureSet}
    (h : set ∈ (assemble files base configuration).featureSets) :
    (assemble files base configuration).featureSet? set.name = some set := by
  refine find?_own (fun set id => set.name == id) FeatureSet.name (by simp) ?_ set h
  exact (featureSets_distinct files base configuration).imp fun hab => by simpa using hab

/-- Every encoder is what one of the records gives. -/
theorem exists_builds_of_mem_encoders {encoder : Encoder}
    (h : encoder ∈ (assemble files base configuration).encoders) :
    ∃ settings ∈ encodingRecords files base configuration.encodings,
      (assemble files base configuration).Builds settings encoder := by
  rw [encoders_assemble] at h
  obtain hipa | ⟨settings, hmem, hrest, hbuild⟩ := mem_encodersOf h
  · obtain ⟨settings, hmem, hipa, hbuild⟩ := mem_ipaStage hipa
    exact ⟨settings, hmem, builds_of_ipa hipa hbuild⟩
  · rw [ipaStage_head?] at hbuild
    exact ⟨settings, hmem, builds_of_rest hrest hbuild⟩

end Assemble

end Resources

end PhoneticSearch

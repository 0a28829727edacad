import PhoneticSearch.Encoding.Resolution
import PhoneticSearch.Proofs.Json.Faithful
import PhoneticSearch.Proofs.Pattern.Acceptance
import PhoneticSearch.Settings.Reading

/-!
# Inert patterns are explained

* `PhoneSpecs.phones_ne_nil`: whatever is read as specifications describes at least one phone.
* `Issue.disables`: the issues that leave a pattern without input or phones.
* `Pattern.settingsPhones_eq_nil_iff`: a configured pattern has no phones just if such an issue says
  why.
* `Pattern.ofSettings_explained`: of the patterns that are read, just those with such an issue match
  nothing.
-/

namespace PhoneticSearch

open Settings Json Json.Fields Json.Decoder

/-! ## What is read -/

theorem Json.Decoder.eq_ok_of_nullable {α : Type} {inner : Decoder α} {given : Tree} {value : α}
    (h : nullable inner given = .ok (some value)) : inner given = .ok value := by
  have hgiven : given ≠ .null := by
    rintro rfl
    cases h
  rw [nullable_eq_map hgiven] at h
  cases hinner : inner given with
  | error fault =>
    rw [hinner] at h
    cases h
  | ok read =>
    rw [hinner] at h
    cases h
    rfl

theorem Json.Fields.exists_of_optional {α : Type} {name : String} {inner : Decoder α}
    {members : Members} {value : α} (h : optional name inner members = .ok (some value)) :
    ∃ given, inner given = .ok value := by
  unfold optional withDefault field at h
  split at h
  · next given _ =>
    cases hread : nullable inner given with
    | error fault =>
      rw [hread] at h
      cases h
    | ok read =>
      rw [hread] at h
      cases h
      exact ⟨given, eq_ok_of_nullable hread⟩
  · cases h

namespace Settings

/-- A list without items is one phone without specifications, not no phone. -/
theorem PhoneSpecs.phones_ne_nil {given : Tree} {specs : PhoneSpecs}
    (h : PhoneSpecs.decoder given = .ok specs) : specs.phones ≠ [] := by
  obtain ⟨-, ⟨single, -, rfl⟩ | ⟨hsingle, multiple, hmultiple, rfl⟩⟩ := choice_eq_ok_iff.mp h
  · exact List.cons_ne_nil _ _
  · rintro rfl
    obtain ⟨trees, rfl, hitems⟩ := listOf_eq_ok_iff.mp hmultiple
    cases hitems
    exact hsingle [] rfl

theorem PatternSettings.exists_of_features {given : Tree} {settings : PatternSettings}
    (h : PatternSettings.decoder given = .ok settings) {specs : PhoneSpecs}
    (hspecs : settings.features = some specs) : ∃ tree, PhoneSpecs.decoder tree = .ok specs := by
  obtain ⟨members, -, hgives⟩ := exists_of_record h
  have hfields : Fields.Gives _ members (· = settings) := ⟨settings, hgives, rfl⟩
  simp only [gives_map, gives_seq] at hfields
  obtain ⟨_, -, _, -, _, -, features, hfeatures, _, -, rfl⟩ := hfields
  obtain rfl : features = some specs := hspecs
  exact exists_of_optional hfeatures

end Settings

/-! ## Issues -/

/-- The pattern is left without an input or without phones. -/
def Issue.disables : Issue → Bool
  | .emptyInput => true
  | .missingPhones _ => true
  | .ambiguousPhones _ => true
  | .noIpaEncoding _ => true
  | .dimensionMismatch .. => true
  | .emptyIpa .. => true
  | _ => false

namespace Pattern

variable {features : FeatureSet} {ipa : Option Encoder} {settings : PatternSettings}

theorem exists_disables_inputIssues_iff (input : String) :
    (∃ issue ∈ inputIssues input, issue.disables = true) ↔ input = "" := by
  by_cases hempty : input = ""
  · simp [inputIssues, hempty, Issue.disables]
  · by_cases hcount : 1 < input.toList.count wildcard <;>
      simp [inputIssues, hempty, hcount, Issue.disables]

/-- The phones of an IPA text are none just if one of three issues says why. -/
theorem ipaPhones_eq_nil_iff (input text : String) :
    (ipaPhones features ipa input text).value = [] ↔
      ∃ issue ∈ (ipaPhones features ipa input text).issues, issue.disables = true := by
  cases ipa with
  | none => simp [ipaPhones, Issue.disables]
  | some encoder =>
    by_cases hsize : encoder.features.dimensions = features.dimensions
    · by_cases hphones : encoder.encode text = [] <;>
        simp [ipaPhones, hsize, hphones, Issue.disables]
    · simp [ipaPhones, hsize, Issue.disables]

theorem settingsPhones_eq_nil_iff
    (h : ∀ specs, settings.features = some specs → specs.phones ≠ []) :
    (settingsPhones features ipa settings).value = [] ↔
      ∃ issue ∈ (settingsPhones features ipa settings).issues, issue.disables = true := by
  cases hfeatures : settings.features with
  | none =>
    cases htext : settings.ipa with
    | none => simp [settingsPhones, hfeatures, htext, Issue.disables]
    | some text =>
      simp only [settingsPhones, hfeatures, htext]
      exact ipaPhones_eq_nil_iff settings.input text
  | some specs =>
    cases htext : settings.ipa with
    | some text => simp [settingsPhones, hfeatures, htext, Issue.disables]
    | none =>
      have hphones := h specs hfeatures
      simp [settingsPhones, hfeatures, htext, describedPhones, hphones, Issue.disables]

theorem isInert_ofSettings_iff
    (h : ∀ specs, settings.features = some specs → specs.phones ≠ []) :
    (ofSettings features ipa settings).value.isInert = true ↔
      ∃ issue ∈ (ofSettings features ipa settings).issues, issue.disables = true := by
  have hinert : (ofSettings features ipa settings).value.isInert = true ↔
      settings.input = "" ∨ (settingsPhones features ipa settings).value = [] := by
    simp [ofSettings, ofParts, isInert, template]
  rw [hinert, settingsPhones_eq_nil_iff h, ← exists_disables_inputIssues_iff]
  simp only [ofSettings, List.mem_append, or_and_right, exists_or]

/-- A pattern that is read from a document matches nothing just if an issue tells that it has no
input or no phones. All other issues leave it as it is. -/
theorem ofSettings_explained {given : Tree} {settings : PatternSettings}
    (hread : PatternSettings.decoder given = .ok settings) (features : FeatureSet)
    (ipa : Option Encoder) :
    let reported := ofSettings features ipa settings
    (reported.value.isInert = true ↔ ∀ text, reported.value.compile.matchesText text = false) ∧
      (reported.value.isInert = true ↔ ∃ issue ∈ reported.issues, issue.disables = true) ∧
      ((∀ issue ∈ reported.issues, (∃ input feature, issue = .patternFeature input feature) ∨
          ∃ input, issue = .multipleWildcards input) →
        settings.input ≠ "" → reported.value.isInert = false) := by
  intro reported
  have hissue : reported.value.isInert = true ↔
      ∃ issue ∈ reported.issues, issue.disables = true := by
    refine isInert_ofSettings_iff fun specs hspecs => ?_
    obtain ⟨tree, htree⟩ := PatternSettings.exists_of_features hread hspecs
    exact PhoneSpecs.phones_ne_nil htree
  refine ⟨reported.value.isInert_iff_forall_matchesText, hissue, ?_⟩
  rintro hother -
  rw [← Bool.not_eq_true, hissue]
  rintro ⟨issue, hmem, hdisables⟩
  obtain ⟨input, feature, rfl⟩ | ⟨input, rfl⟩ := hother issue hmem <;> cases hdisables

/-- An empty list of specifications is read as one phone, so the pattern matches although its
feature set can describe nothing. -/
theorem ofSettings_explained_unspecified :
    let given := Tree.ofFields [("input", .ofText "a"), ("features", .list [] none)]
    let settings : PatternSettings := ⟨"a", none, none, some (.single []), none⟩
    let features := FeatureSet.ofGroups "features" [] 1 (-1) none
    PatternSettings.decoder given = .ok settings ∧ settings.input ≠ "" ∧
      (ofSettings features none settings).issues = [.patternFeature "a" .noFeatures] ∧
      (ofSettings features none settings).value.isInert = false := by
  intro given settings features
  have hread : PatternSettings.decoder given = .ok settings := rfl
  have hinput : settings.input ≠ "" := by decide
  have hindex : features.index = [] := by
    simp [features, FeatureSet.ofGroups, FeatureSet.canonical, FeatureSet.bindAll,
      FeatureSet.namesOf]
  have hissues : (ofSettings features none settings).issues =
      [.patternFeature "a" .noFeatures] := by
    have hwildcard : inputIssues "a" = [] := by decide
    simp [ofSettings, settings, settingsPhones, describedPhones, PhoneSpecs.phones,
      FeatureSet.phone, hindex, hwildcard]
  have hlive := (ofSettings_explained hread features none).2.2
  refine ⟨hread, hinput, hissues, hlive ?_ hinput⟩
  intro issue hissue
  rw [hissues, List.mem_singleton] at hissue
  exact .inl ⟨"a", .noFeatures, hissue⟩

end Pattern
end PhoneticSearch

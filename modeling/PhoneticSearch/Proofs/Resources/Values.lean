import PhoneticSearch.Proofs.Encoding.PhoneValues
import PhoneticSearch.Proofs.Encoding.Reading
import PhoneticSearch.Proofs.Resources.Phones

/-!
# The values of configured encodings

* `Encoder.IsTernary`: the phones of an encoder have the three values of its features only.
* `Resources.gives_or_takesOver`: any other value was taken over from the IPA encoding.
* `Resources.exists_encoder_with_value`: whatever a feature set of the same size gives is taken over
  by some encoding.
* `Resources.assemble_values`: when no encodings can have any other value.
* `Rescaled`: a configuration without problems in which one has.
-/

namespace PhoneticSearch

open Settings Assembly

/-- All components of all phones are plus, minus or unset. -/
def Encoder.IsTernary (encoder : Encoder) : Prop :=
  ∀ text, ∀ phone ∈ (encoder.transduce text).phones, ∀ value ∈ phone,
    encoder.features.IsValue value

namespace Resources

section Assemble

variable {files : Files} {base : String} {configuration : Configuration}

theorem featureSets_withEncodings (encodings : List (Included EncodingSettings)) :
    (assemble files base { configuration with encodings }).featureSets =
      (assemble files base configuration).featureSets := rfl

/-- The IPA encoding takes over nothing. -/
theorem gives_of_ipa {ipa : Encoder}
    (h : (assemble files base configuration).encoder? ipaName = some ipa) {text : String}
    {phone : Phone} (hphone : phone ∈ ipa.encode text) {value : Float} (hvalue : value ∈ phone) :
    ipa.features.Gives value := by
  rw [← ipaStage_head?] at h
  obtain ⟨settings, -, -, hbuild⟩ := mem_ipaStage (List.mem_of_mem_head? h)
  obtain ⟨features, -, rfl⟩ := encoderOf_eq_ok_iff.mp hbuild
  obtain hgives | ⟨encoder, hnone, -⟩ := Encoder.gives_or_lends_of_mem_encode hphone hvalue
  · exact hgives
  · cases hnone

/-- A value of the phones that the IPA encoding gives for the texts in the record of another
encoding over as many dimensions. -/
def TakesOver (resources : Resources) (settings : EncodingSettings) (features : FeatureSet)
    (value : Float) : Prop :=
  isIpaSettings settings = false ∧
    ∃ ipa, resources.encoder? ipaName = some ipa ∧ ipa.features.dimensions = features.dimensions ∧
      ipa.Lends settings value ∧ ipa.features.Gives value

/-- A value of a configured encoding is one of its own features unless it was taken over. -/
theorem gives_or_takesOver {settings : EncodingSettings} {encoder : Encoder}
    (hbuilds : (assemble files base configuration).Builds settings encoder) {text : String}
    {phone : Phone} (hphone : phone ∈ encoder.encode text) {value : Float}
    (hvalue : value ∈ phone) :
    encoder.features.Gives value ∨
      (assemble files base configuration).TakesOver settings encoder.features value := by
  obtain ⟨features, -, rfl⟩ := hbuilds
  obtain hgives | ⟨ipa, hipa, hsize, hlends⟩ := Encoder.gives_or_lends_of_mem_encode hphone hvalue
  · exact .inl hgives
  · have hrest : isIpaSettings settings = false := by
      cases hkind : isIpaSettings settings with
      | false => rfl
      | true => simp [ipaFor, hkind] at hipa
    rw [ipaFor, hrest, if_neg Bool.false_ne_true] at hipa
    refine .inr ⟨hrest, ipa, hipa, hsize, hlends, ?_⟩
    obtain ⟨pattern, -, text, -, lent, hlent, hmem⟩ := hlends
    exact gives_of_ipa hipa hlent hmem

end Assemble

/-! ## Taking a value over -/

/-- An IPA encoding in which `x` has one phone, described over a feature set. -/
def describing (features : String) (specs : List String) : EncodingSettings :=
  ⟨ipaName, features, none, [⟨"x", none, none, some (.single specs), none⟩]⟩

/-- An encoding over another feature set in which `x` has the phones of the IPA text `x`. -/
def borrowing (features : String) : EncodingSettings :=
  ⟨"borrowing", features, none, [⟨"x", none, none, none, some "x"⟩]⟩

theorem encode_single {encoder : Encoder} {phone : Phone}
    (h : encoder.encoding.patterns = [⟨"x", none, none, [phone]⟩]) (hphone : phone ≠ []) :
    encoder.encode "x" = [phone] := by
  have hrules : encoder.rules = .ofPatterns [⟨"x", none, none, [phone]⟩] :=
    encoder.rules_eq.trans (congrArg RuleTable.ofPatterns h)
  have htemplates : encoder.rules.templates = [] := by
    rw [hrules, RuleTable.templates_ofPatterns]
    simp [Pattern.isReplacement, Pattern.wildcardOffset, Pattern.template, wildcard]
  have hchoose : Pattern.choose? [⟨"x", none, none, [phone]⟩] ['x'] =
      some ⟨"x", none, none, [phone]⟩ := by
    simp [Pattern.choose?, Pattern.firstLongest, Pattern.fits, Pattern.isInert,
      Pattern.isReplacement, Pattern.wildcardOffset, Pattern.template, wildcard]
  have hcells : encoder.cells "x".toList = [⟨['x'], [phone]⟩] := by
    have htext : "x".toList = ['x'] := String.toList_ofList
    rw [htext, Encoder.cells, Encoder.segments, hrules, Segment.segments,
      Segment.longestMatch_ofPatterns, hchoose]
    simp [Segment.segments, Encoder.cellOf_covered, Pattern.length, Pattern.template]
  rw [Encoder.encode_of_templates_nil encoder htemplates, hcells]
  simp [Encoder.phonesOf, hphone]

theorem patterns_ofSettings_singleton (features : FeatureSet) (ipa : Option Encoder)
    (id name : String) (record : PatternSettings) :
    (Encoding.ofSettings features ipa ⟨id, name, none, [record]⟩).patterns =
      [(Pattern.ofSettings features ipa record).value] :=
  List.mergeSort_singleton _

theorem encode_describing {features : FeatureSet} (name : String) {specs : List String}
    (h : (features.phone specs).phone ≠ []) :
    (Encoder.ofEncoding (.ofSettings features none (describing name specs))).encode "x" =
      [(features.phone specs).phone] :=
  encode_single (patterns_ofSettings_singleton ..) h

theorem encode_borrowing {features : FeatureSet} {ipa : Encoder} (name : String) {phone : Phone}
    (hsize : ipa.features.dimensions = features.dimensions) (hipa : ipa.encode "x" = [phone])
    (hphone : phone ≠ []) :
    (Encoder.ofEncoding (.ofSettings features (some ipa) (borrowing name))).encode "x" =
      [phone] := by
  have hphones : (Pattern.ipaPhones features (some ipa) "x" "x").value = [phone] := by
    simp [Pattern.ipaPhones, hsize, hipa]
  refine encode_single ((patterns_ofSettings_singleton ..).trans ?_) hphone
  show [Pattern.ofParts "x" (Pattern.ipaPhones features (some ipa) "x" "x").value none none] = _
  rw [hphones]
  rfl

theorem encodersOf_borrowing {sets : List FeatureSet} {own foreign : FeatureSet}
    (hown : findFeatureSet? sets own.name = some own)
    (hforeign : findFeatureSet? sets foreign.name = some foreign) (specs : List String) :
    let ipa := Encoder.ofEncoding (.ofSettings foreign none (describing foreign.name specs))
    (encodersOf sets [describing foreign.name specs, borrowing own.name]).built =
      [ipa, .ofEncoding (.ofSettings own (some ipa) (borrowing own.name))] := by
  intro ipa
  have hfirst : isIpaSettings (describing foreign.name specs) = true := by
    show sameIgnoringCase ipaName ipaName = true
    decide
  have hsecond : ¬isIpaSettings (borrowing own.name) = true := by
    show ¬sameIgnoringCase "borrowing" ipaName = true
    decide
  have hfree : findEncoder? [ipa] "borrowing" = none := by
    have hanswers : ipa.answersTo "borrowing" = false := by
      show (ipaName == "borrowing" ||
        (sameIgnoringCase ipaName ipaName && sameIgnoringCase "borrowing" ipaName)) = false
      decide
    simp [findEncoder?, hanswers]
  have hipa : buildEncoder sets none [] (describing foreign.name specs) = .ok ipa :=
    buildEncoder_eq_ok_iff.mpr ⟨rfl, encoderOf_eq_ok_iff.mpr ⟨foreign, hforeign, rfl⟩⟩
  have hstage : ipaStage sets [describing foreign.name specs, borrowing own.name] =
      ⟨[ipa], []⟩ := by
    rw [ipaStage, List.filter_cons_of_pos hfirst, List.filter_cons_of_neg hsecond,
      List.filter_nil, addAll_cons, Stage.empty, hipa]
    rfl
  have hrest : buildEncoder sets (some ipa) [ipa] (borrowing own.name) =
      .ok (.ofEncoding (.ofSettings own (some ipa) (borrowing own.name))) :=
    buildEncoder_eq_ok_iff.mpr ⟨hfree, encoderOf_eq_ok_iff.mpr ⟨own, hown, rfl⟩⟩
  rw [encodersOf_eq_addAll, hstage, List.filter_cons_of_neg (by simp [hfirst]),
    List.filter_cons_of_pos (by simpa using hsecond), List.filter_nil, addAll_cons, List.head?_cons,
    hrest]
  rfl

/-- An encoding over one feature set takes over every value that another one of its size gives. -/
theorem exists_encoder_with_value {files : Files} {base : String} {configuration : Configuration}
    {own foreign : FeatureSet}
    (hown : own ∈ (assemble files base configuration).featureSets)
    (hforeign : foreign ∈ (assemble files base configuration).featureSets)
    (hsize : own.dimensions = foreign.dimensions) (hdimensions : own.dimensions ≠ 0) {value : Float}
    (hgives : foreign.Gives value) :
    ∃ encodings, ∃ encoder ∈ (assemble files base { configuration with encodings }).encoders,
      encoder.features = own ∧ ∃ phone ∈ (encoder.transduce "x").phones, value ∈ phone := by
  obtain ⟨settings, rfl⟩ := exists_settings_of_mem_featureSets hforeign
  obtain ⟨specs, hvalue⟩ := FeatureSet.exists_mem_phone (hsize ▸ hdimensions) hgives
  have hne : ((featureSetOf settings).phone specs).phone ≠ [] := List.ne_nil_of_mem hvalue
  let ipa := Encoder.ofEncoding
    (.ofSettings (featureSetOf settings) none (describing settings.id specs))
  let encoder := Encoder.ofEncoding (.ofSettings own (some ipa) (borrowing own.name))
  have hencoders : (encodersOf (assemble files base configuration).featureSets
      [describing settings.id specs, borrowing own.name]).built = [ipa, encoder] :=
    encodersOf_borrowing (featureSet?_name hown) (featureSet?_name hforeign) specs
  have hencode : encoder.encode "x" = [((featureSetOf settings).phone specs).phone] :=
    encode_borrowing own.name hsize.symm (encode_describing settings.id hne) hne
  refine ⟨[.inPlace (describing settings.id specs), .inPlace (borrowing own.name)], encoder, ?_,
    rfl, ((featureSetOf settings).phone specs).phone, ?_, hvalue⟩
  · show encoder ∈ (encodersOf (assemble files base configuration).featureSets
      [describing settings.id specs, borrowing own.name]).built
    rw [hencoders]
    exact .tail _ (.head _)
  · show _ ∈ encoder.encode "x"
    rw [hencode]
    exact List.mem_cons_self

/-- The values of a configured encoding are those of its features and those that it takes over from
the IPA encoding. Since only sizes are compared there, they are those of its features whatever the
encodings are just if each value given by a feature set of the same size is one of them. -/
theorem assemble_values (files : Files) (base : String) (configuration : Configuration) :
    let resources := assemble files base configuration
    (∀ encoder ∈ resources.encoders,
      ∃ settings ∈ encodingRecords files base configuration.encodings,
        resources.Builds settings encoder ∧
          ∀ text, ∀ phone ∈ (encoder.transduce text).phones, ∀ value ∈ phone,
            encoder.features.IsValue value ∨
              resources.TakesOver settings encoder.features value) ∧
      ((∀ encodings, ∀ encoder ∈ (assemble files base { configuration with encodings }).encoders,
          encoder.IsTernary) ↔
        ∀ own ∈ resources.featureSets, ∀ foreign ∈ resources.featureSets,
          own.dimensions = foreign.dimensions → own.dimensions ≠ 0 →
            ∀ value, foreign.Gives value → own.IsValue value) := by
  intro resources
  refine ⟨?_, ?_, ?_⟩
  · intro encoder hencoder
    obtain ⟨settings, hsettings, hbuilds⟩ := exists_builds_of_mem_encoders hencoder
    refine ⟨settings, hsettings, hbuilds, ?_⟩
    intro text phone hphone value hvalue
    exact (gives_or_takesOver hbuilds hphone hvalue).imp_left FeatureSet.Gives.isValue
  · intro hternary own hown foreign hforeign hsize hdimensions value hgives
    obtain ⟨encodings, encoder, hencoder, hfeatures, phone, hphone, hvalue⟩ :=
      exists_encoder_with_value hown hforeign hsize hdimensions hgives
    exact hfeatures ▸ hternary encodings encoder hencoder "x" phone hphone value hvalue
  · intro hvalues encodings encoder hencoder text phone hphone value hvalue
    obtain ⟨settings, -, hbuilds⟩ := exists_builds_of_mem_encoders hencoder
    obtain hgives | ⟨-, ipa, hipa, hsize, -, hgives⟩ := gives_or_takesOver hbuilds hphone hvalue
    · exact hgives.isValue
    · obtain ⟨_, -, hipaBuilds⟩ := exists_builds_of_mem_encoders (mem_of_encoder? hipa)
      have hfull := (sized_of_mem_encoders hencoder).isFull_of_mem_encode hphone
      have hdimensions : encoder.features.dimensions ≠ 0 := by
        rw [← hfull.2]
        exact mt List.eq_nil_of_length_eq_zero hfull.1
      have hown : encoder.features ∈ resources.featureSets :=
        featureSets_withEncodings encodings ▸ hbuilds.mem_featureSets
      have hforeign : ipa.features ∈ resources.featureSets :=
        featureSets_withEncodings encodings ▸ hipaBuilds.mem_featureSets
      exact hvalues _ hown _ hforeign hsize.symm hdimensions value hgives

end Resources

/-! ## Feature sets of one size with different values -/

namespace Rescaled

def scaled : FeatureSetSettings := ⟨"scaled", none, some 10, some (-10), none, ["voiced"]⟩

def plain : FeatureSetSettings := ⟨"plain", none, none, none, none, ["voiced"]⟩

def ipa : EncodingSettings :=
  ⟨"ipa", "plain", none, [⟨"b", none, none, some (.single ["+voiced"]), none⟩]⟩

def latin : EncodingSettings := ⟨"latin", "scaled", none, [⟨"b", none, none, none, some "b"⟩]⟩

def configuration : Configuration where
  featureSets := [.inPlace scaled, .inPlace plain]
  encodings := [.inPlace ipa, .inPlace latin]
  lexicons := []
  hypotheses := []
  matcher := none
  input := none

def resources : Resources := .assemble (.ofList []) "" configuration

def ipaEncoder : Encoder := .ofEncoding (.ofSettings (Assembly.featureSetOf plain) none ipa)

def latinEncoder : Encoder :=
  .ofEncoding (.ofSettings (Assembly.featureSetOf scaled) (some ipaEncoder) latin)

theorem encode_b : latinEncoder.encode "b" = [[1]] := by decide +kernel

theorem not_isValue_scaled : ¬(Assembly.featureSetOf scaled).IsValue 1 := by
  unfold FeatureSet.IsValue
  decide

theorem dimensions_scaled : (Assembly.featureSetOf scaled).dimensions ≠ 0 := by
  simp [Assembly.featureSetOf, FeatureSet.ofGroups, FeatureSet.dimensions, FeatureSet.canonical,
    scaled]

theorem gives_plain : (Assembly.featureSetOf plain).Gives 1 :=
  .inr ⟨by decide +kernel, .inl rfl⟩

end Rescaled

/-- The phone of an IPA text is neither reported nor left out for a value that is none of its
encoding's. -/
theorem Rescaled.latinEncoder_not_ternary :
    resources.allProblems = [] ∧ latinEncoder ∈ resources.encoders ∧
      (∀ pattern ∈ latinEncoder.encoding.patterns, pattern.isInert = false) ∧
      [1] ∈ (latinEncoder.transduce "b").phones ∧ ¬latinEncoder.features.IsValue 1 := by
  refine ⟨by decide +kernel, .tail _ (.head _), by decide +kernel, ?_, not_isValue_scaled⟩
  show [1] ∈ latinEncoder.encode "b"
  rw [encode_b]
  exact List.mem_cons_self

theorem Resources.assemble_values_rescaled :
    (∃ settings, Rescaled.resources.TakesOver settings Rescaled.latinEncoder.features 1) ∧
      ∃ encodings, ∃ encoder ∈ (assemble (.ofList []) ""
        { Rescaled.configuration with encodings }).encoders, ¬encoder.IsTernary := by
  obtain ⟨hvalues, hiff⟩ := assemble_values (.ofList []) "" Rescaled.configuration
  constructor
  · obtain ⟨settings, -, -, hphones⟩ :=
      hvalues Rescaled.latinEncoder (.tail _ (.head _))
    have hphone : [1] ∈ Rescaled.latinEncoder.encode "b" := by
      rw [Rescaled.encode_b]
      exact List.mem_cons_self
    exact ⟨settings, (hphones "b" _ hphone 1 List.mem_cons_self).resolve_left
      Rescaled.not_isValue_scaled⟩
  · by_contra hnone
    have hternary : ∀ encodings, ∀ encoder ∈ (assemble (.ofList []) ""
        { Rescaled.configuration with encodings }).encoders, encoder.IsTernary := by
      intro encodings encoder hencoder
      by_contra hnot
      exact hnone ⟨encodings, encoder, hencoder, hnot⟩
    have hscaled := hiff.mp hternary (Assembly.featureSetOf Rescaled.scaled) (.head _)
      (Assembly.featureSetOf Rescaled.plain) (.tail _ (.head _)) rfl Rescaled.dimensions_scaled 1
      Rescaled.gives_plain
    exact Rescaled.not_isValue_scaled hscaled

end PhoneticSearch

import PhoneticSearch.Proofs.Json.Faithful
import PhoneticSearch.Settings.Reading
import PhoneticSearch.Settings.Writing

/-!
# Configurations are read again as they were

* `PhoneSpecs.faithful`, `Inputs.faithful`, `Included.faithful`: the values with several shapes. What
  is written in one shape is not taken for an earlier one.
* `PatternSettings.faithful`, ..: the records of a configuration, each after the ones inside it.
* `Configuration.decoder_tree`: a configuration is written as a value that is read as the same
  configuration, in whatever form it was given itself.
-/

namespace PhoneticSearch.Settings

open Json Json.Fields Json.Decoder
open Json.Tree (ofText ofReal ofCount ofList ofFields)

/-! ## Values with several shapes -/

theorem listOf_text_ne_ok {phone : List String} {phones : List (List String)}
    (specs : List String) :
    listOf text (ofList (ofList ofText) (phone :: phones)) ≠ .ok specs := by
  intro h
  obtain ⟨trees, htrees, hitems⟩ := listOf_eq_ok_iff.mp h
  cases htrees
  cases hitems with
  | cons hphone _ => cases hphone

/-- The empty list is written by both shapes, and it is one phone without specifications wherever
it is read. -/
theorem PhoneSpecs.faithful : Faithful PhoneSpecs.decoder PhoneSpecs.tree := by
  refine faithful_text.listOf.choice faithful_text.listOf.listOf (fun _ => rfl) (fun _ => rfl) ?_
  intro given phones hsingle hmultiple
  cases phones with
  | nil =>
    -- What is read as no phones is a list without items, which is also one phone.
    obtain ⟨trees, rfl, hitems⟩ := listOf_eq_ok_iff.mp hmultiple
    cases hitems
    exact absurd rfl (hsingle [])
  | cons phone rest => exact listOf_text_ne_ok

theorem Inputs.faithful : Faithful Inputs.decoder Inputs.tree := by
  refine faithful_text.choice faithful_text.listOf (fun _ => rfl) (fun _ => rfl) ?_
  intro _ _ _ _ _ h
  cases h

theorem fileDecoder_faithful :
    Faithful fileDecoder fun path => ofFields [("path", ofText path)] := by
  refine faithful_record (fun _ => rfl) (fun _ => rfl) (by decide) fun members path hvalues h => ?_
  obtain ⟨_, hpath, rfl⟩ := h
  exact required_again faithful_path hvalues hpath

/-- A record with an identifier is not taken for the path of a file. -/
theorem fileDecoder_ne_ok {id : Tree} {rest : List (String × Tree)} (path : String) :
    fileDecoder (ofFields (("id", id) :: rest)) ≠ .ok path :=
  record_ofFields_ne_ok List.mem_cons_self (by simp) path

theorem Included.faithful {α : Type} {inner : Decoder α} {tree : α → Tree}
    (hinner : Faithful inner tree) (hfile : ∀ record path, fileDecoder (tree record) ≠ .ok path) :
    Faithful (Included.decoder inner) (Included.tree tree) :=
  fileDecoder_faithful.choice hinner (fun _ => rfl) (fun _ => rfl) fun _ record _ _ => hfile record

/-! ## Records -/

theorem FeatureSetSettings.faithful :
    Faithful FeatureSetSettings.decoder FeatureSetSettings.tree := by
  refine faithful_record (fun _ => rfl) (fun _ => rfl) (by decide) fun _ _ hvalues h => ?_
  simp only [gives_map, gives_seq] at h
  obtain ⟨id, hid, description, hdescription, plus, hplus, minus, hminus, unset, hunset, features,
    hfeatures, rfl⟩ := h
  exact required_again faithful_text hvalues hid |>.map
    |>.seq (optional_again faithful_text hvalues hdescription)
    |>.seq (optional_again faithful_real hvalues hplus)
    |>.seq (optional_again faithful_real hvalues hminus)
    |>.seq (optional_again faithful_real hvalues hunset)
    |>.seq (required_again faithful_text.listOf hvalues hfeatures)

theorem PatternSettings.faithful : Faithful PatternSettings.decoder PatternSettings.tree := by
  refine faithful_record (fun _ => rfl) (fun _ => rfl) (by decide) fun _ _ hvalues h => ?_
  simp only [gives_map, gives_seq] at h
  obtain ⟨input, hinput, output, houtput, repr, hrepr, features, hfeatures, ipa, hipa, rfl⟩ := h
  exact withDefault_again faithful_text hvalues (accepts_textNamed _ _) hinput |>.map
    |>.seq (optional_again faithful_text hvalues houtput)
    |>.seq (optional_again faithful_text hvalues hrepr)
    |>.seq (optional_again PhoneSpecs.faithful hvalues hfeatures)
    |>.seq (optional_again faithful_text hvalues hipa)

theorem EncodingSettings.faithful : Faithful EncodingSettings.decoder EncodingSettings.tree := by
  refine faithful_record (fun _ => rfl) (fun _ => rfl) (by decide) fun _ _ hvalues h => ?_
  simp only [gives_map, gives_seq] at h
  obtain ⟨id, hid, features, hfeatures, description, hdescription, patterns, hpatterns, rfl⟩ := h
  exact required_again faithful_text hvalues hid |>.map
    |>.seq (required_again faithful_text hvalues hfeatures)
    |>.seq (optional_again faithful_text hvalues hdescription)
    |>.seq (withDefault_again PatternSettings.faithful.listOf hvalues accepts_nil hpatterns)

theorem LexiconSettings.faithful : Faithful LexiconSettings.decoder LexiconSettings.tree := by
  refine faithful_record (fun _ => rfl) (fun _ => rfl) (by decide) fun _ _ hvalues h => ?_
  simp only [gives_map, gives_seq] at h
  obtain ⟨id, hid, kind, hkind, path, hpath, encoding, hencoding, limit, hlimit, description,
    hdescription, rfl⟩ := h
  exact required_again faithful_text hvalues hid |>.map
    |>.seq (required_again faithful_text hvalues hkind)
    |>.seq (required_again faithful_path hvalues hpath)
    |>.seq (required_again faithful_text hvalues hencoding)
    |>.seq (optional_again faithful_count hvalues hlimit)
    |>.seq (optional_again faithful_text hvalues hdescription)

theorem ReadingSettings.faithful : Faithful ReadingSettings.decoder ReadingSettings.tree := by
  refine faithful_record (fun _ => rfl) (fun _ => rfl) (by decide) fun _ _ hvalues h => ?_
  simp only [gives_map, gives_seq] at h
  obtain ⟨input, hinput, headword, hheadword, definition, hdefinition, rfl⟩ := h
  exact required_again Inputs.faithful hvalues hinput |>.map
    |>.seq (required_again faithful_text hvalues hheadword)
    |>.seq (optional_again faithful_text hvalues hdefinition)

theorem ReadingGroupSettings.faithful :
    Faithful ReadingGroupSettings.decoder ReadingGroupSettings.tree := by
  refine faithful_record (fun _ => rfl) (fun _ => rfl) (by decide) fun _ _ hvalues h => ?_
  simp only [gives_map, gives_seq] at h
  obtain ⟨name, hname, entries, hentries, rfl⟩ := h
  exact optional_again faithful_text hvalues hname |>.map
    |>.seq (withDefault_again ReadingSettings.faithful.listOf hvalues accepts_nil hentries)

theorem ReadingTableSettings.faithful :
    Faithful ReadingTableSettings.decoder ReadingTableSettings.tree := by
  refine faithful_record (fun _ => rfl) (fun _ => rfl) (by decide) fun _ _ hvalues h => ?_
  simp only [gives_map, gives_seq] at h
  obtain ⟨id, hid, encoding, hencoding, groups, hgroups, rfl⟩ := h
  exact required_again faithful_text hvalues hid |>.map
    |>.seq (optional_again faithful_text hvalues hencoding)
    |>.seq (withDefault_again ReadingGroupSettings.faithful.listOf hvalues accepts_nil hgroups)

theorem MatcherSettings.faithful : Faithful MatcherSettings.decoder MatcherSettings.tree := by
  refine faithful_record (fun _ => rfl) (fun _ => rfl) (by decide) fun _ _ hvalues h => ?_
  simp only [gives_map, gives_seq] at h
  obtain ⟨lexicons, hlexicons, options, hoptions, tolerance, htolerance, hypotheses, hhypotheses,
    consonantal, hconsonantal, copies, hcopies, rfl⟩ := h
  exact withDefault_again faithful_text.listOf hvalues accepts_nil hlexicons |>.map
    |>.seq (optional_again faithful_count hvalues hoptions)
    |>.seq (optional_again faithful_real hvalues htolerance)
    |>.seq (optional_again faithful_text hvalues hhypotheses)
    |>.seq (optional_again faithful_text hvalues hconsonantal)
    |>.seq (optional_again faithful_count hvalues hcopies)

theorem InputSettings.faithful : Faithful InputSettings.decoder InputSettings.tree := by
  refine faithful_record (fun _ => rfl) (fun _ => rfl) (by decide) fun _ _ hvalues h => ?_
  simp only [gives_map, gives_seq] at h
  obtain ⟨encoding, hencoding, delimiters, hdelimiters, rfl⟩ := h
  exact required_again faithful_text hvalues hencoding |>.map
    |>.seq (optional_again faithful_text hvalues hdelimiters)

/-! ## The whole document -/

theorem Configuration.faithful : Faithful Configuration.decoder Configuration.tree := by
  have hfeatureSet := Included.faithful FeatureSetSettings.faithful fun _ => fileDecoder_ne_ok
  have hencoding := Included.faithful EncodingSettings.faithful fun _ => fileDecoder_ne_ok
  refine faithful_record (fun _ => rfl) (fun _ => rfl) (by decide) fun _ _ hvalues h => ?_
  simp only [gives_map, gives_seq] at h
  obtain ⟨featureSets, hfeatureSets, encodings, hencodings, lexicons, hlexicons, hypotheses,
    hhypotheses, matcher, hmatcher, input, hinput, rfl⟩ := h
  exact withDefault_again hfeatureSet.listOf hvalues accepts_nil hfeatureSets |>.map
    |>.seq (withDefault_again hencoding.listOf hvalues accepts_nil hencodings)
    |>.seq (withDefault_again LexiconSettings.faithful.listOf hvalues accepts_nil hlexicons)
    |>.seq (withDefault_again ReadingTableSettings.faithful.listOf hvalues accepts_nil hhypotheses)
    |>.seq (optional_again MatcherSettings.faithful hvalues hmatcher)
    |>.seq (optional_again InputSettings.faithful hvalues hinput)

/-- A configuration is written as a value, which is read as the same configuration. -/
theorem Configuration.decoder_tree {value : Tree} {configuration : Configuration}
    (hvalue : value.IsValue) (h : Configuration.decoder value = .ok configuration) :
    configuration.tree.IsValue ∧ Configuration.decoder configuration.tree = .ok configuration :=
  Configuration.faithful.again ⟨hvalue, h⟩

/-- A document with records given as lists, files by path, options missing or null, a whole number
where a floating one is read, and each value with several shapes in both of them. -/
def mixedDocument : Tree :=
  ofFields
    [("featureSets", ofList id
      [ofList id [ofText "sets.json"],
        ofList id [ofText "voicing", .null, ofCount 2, .null, ofReal 0.5, ofList ofText ["voice"]]]),
      ("encodings", ofList id
        [ofFields [("path", ofText "latin.json")],
          ofFields
            [("features", ofText "voicing"), ("id", ofText "voiced"), ("description", .null),
              ("patterns", ofList id
                [ofFields [("input", ofText "b"), ("features", ofList ofText [])],
                  ofList id
                    [ofText "d", .null, .null, ofList (ofList ofText) [["+voice"], []], .null]])]]),
      ("hypotheses", ofList id
        [ofFields
          [("id", ofText "readings"), ("groups", ofList id
            [ofFields
              [("entries", ofList id
                [ofList id [ofText "b", ofText "bee", .null],
                  ofFields [("lemma", ofText "dee"), ("input", ofList ofText ["d"])]])]])]]),
      ("matcher", .null)]

def mixedConfiguration : Configuration where
  featureSets :=
    [.file "sets.json", .inPlace ⟨"voicing", none, some (Float.ofInt 2), none, some 0.5, ["voice"]⟩]
  encodings :=
    [.file "latin.json",
      .inPlace
        { id := "voiced", features := "voicing", description := none
          patterns :=
            [⟨"b", none, none, some (.single []), none⟩,
              ⟨"d", none, none, some (.multiple [["+voice"], []]), none⟩] }]
  lexicons := []
  hypotheses :=
    [⟨"readings", none, [⟨none, [⟨.one "b", "bee", none⟩, ⟨.many ["d"], "dee", none⟩]⟩]⟩]
  matcher := none
  input := none

theorem isValue_mixedDocument : mixedDocument.IsValue := by
  have hhalf : (0.5 : Float).isFinite = true := by decide
  simp [mixedDocument, hhalf]

theorem decoder_mixedDocument : Configuration.decoder mixedDocument = .ok mixedConfiguration := rfl

theorem Configuration.decoder_tree_mixed :
    mixedDocument.IsValue ∧ Configuration.decoder mixedDocument = .ok mixedConfiguration ∧
      mixedConfiguration.tree.IsValue ∧
      Configuration.decoder mixedConfiguration.tree = .ok mixedConfiguration :=
  ⟨isValue_mixedDocument, decoder_mixedDocument,
    Configuration.decoder_tree isValue_mixedDocument decoder_mixedDocument⟩

end PhoneticSearch.Settings

import PhoneticSearch.Proofs.Resources.Records

/-!
# The place of the IPA encoding

* `Assembly.EncodingSort`: a record is one of the IPA encoding, one of another encoding, or it
  cannot be read.
* `Assembly.filter_encodingRecords`: the readable records of one sort are those of the sublist of
  this sort.
* `Resources.Rearranges`: two configurations differ in how records of different sorts are mixed.
* `Resources.assemble_rearranged`: they give the same resources, the IPA encoder first.
-/

namespace PhoneticSearch

open Settings

namespace Assembly

/-- What becomes of a record of an encoding. -/
inductive EncodingSort where
  | ipa
  | spelling
  | unread
deriving DecidableEq

variable (files : Files) (base : String)

def sortOf (record : Included EncodingSettings) : EncodingSort :=
  match record.resolve EncodingSettings.decoder files base with
  | .ok settings => if isIpaSettings settings then .ipa else .spelling
  | .error _ => .unread

def ofSort (sort : EncodingSort) (records : List (Included EncodingSettings)) :
    List (Included EncodingSettings) :=
  records.filter fun record => sortOf files base record = sort

variable {files base}

theorem sortOf_ok {record : Included EncodingSettings} {settings : EncodingSettings}
    (h : record.resolve EncodingSettings.decoder files base = .ok settings) :
    sortOf files base record = if isIpaSettings settings then .ipa else .spelling := by
  simp [sortOf, h]

theorem encodingRecords_cons_error {record : Included EncodingSettings} {fault : LoadFault}
    (h : record.resolve EncodingSettings.decoder files base = .error fault)
    (records : List (Included EncodingSettings)) :
    encodingRecords files base (record :: records) = encodingRecords files base records := by
  rw [encodingRecords, encodingRecords, List.map_cons, h]
  rfl

/-- Records may be told apart before they are read or after it. -/
theorem filter_encodingRecords {p : EncodingSettings → Bool}
    {q : Included EncodingSettings → Bool}
    (h : ∀ record settings,
      record.resolve EncodingSettings.decoder files base = .ok settings → q record = p settings)
    (records : List (Included EncodingSettings)) :
    (encodingRecords files base records).filter p =
      encodingRecords files base (records.filter q) := by
  induction records with
  | nil => rfl
  | cons record records ih =>
    cases hrecord : record.resolve EncodingSettings.decoder files base with
    | error fault =>
      rw [encodingRecords_cons_error hrecord, ih, List.filter_cons]
      split
      · rw [encodingRecords_cons_error hrecord]
      · rfl
    | ok settings =>
      rw [encodingRecords_cons hrecord, List.filter_cons, List.filter_cons, h record settings hrecord,
        ih]
      split
      · rw [encodingRecords_cons hrecord]
      · rfl

theorem filter_isIpa_encodingRecords (records : List (Included EncodingSettings)) :
    (encodingRecords files base records).filter isIpaSettings =
      encodingRecords files base (ofSort files base .ipa records) := by
  apply filter_encodingRecords
  intro record settings hrecord
  rw [sortOf_ok hrecord]
  cases isIpaSettings settings <;> rfl

theorem filter_not_isIpa_encodingRecords (records : List (Included EncodingSettings)) :
    ((encodingRecords files base records).filter fun settings => !isIpaSettings settings) =
      encodingRecords files base (ofSort files base .spelling records) := by
  apply filter_encodingRecords
  intro record settings hrecord
  rw [sortOf_ok hrecord]
  cases isIpaSettings settings <;> rfl

theorem unreadEncodings_ofSort (records : List (Included EncodingSettings)) :
    unreadEncodings files base (ofSort files base .unread records) =
      unreadEncodings files base records := by
  induction records with
  | nil => rfl
  | cons record records ih =>
    cases hrecord : record.resolve EncodingSettings.decoder files base with
    | error fault =>
      have hsort : sortOf files base record = .unread := by simp [sortOf, hrecord]
      rw [ofSort, List.filter_cons_of_pos (by simp [hsort]), ← ofSort]
      simp only [unreadEncodings, List.filterMap_cons, hrecord] at ih ⊢
      rw [ih]
    | ok settings =>
      have hsort : sortOf files base record ≠ .unread := by
        rw [sortOf_ok hrecord]
        cases isIpaSettings settings <;> simp
      rw [ofSort, List.filter_cons_of_neg (by simp [hsort]), ← ofSort, ih]
      simp [unreadEncodings, hrecord]

/-- The two stages of encodings each read the records of their own sort. -/
theorem encodersOf_congr {records others : List EncodingSettings}
    (hipa : others.filter isIpaSettings = records.filter isIpaSettings)
    (hrest : (others.filter fun settings => !isIpaSettings settings) =
      records.filter fun settings => !isIpaSettings settings) (sets : List FeatureSet) :
    encodersOf sets others = encodersOf sets records := by
  have hstage : ipaStage sets others = ipaStage sets records := by rw [ipaStage, ipaStage, hipa]
  rw [encodersOf_eq_addAll, encodersOf_eq_addAll, hstage, hrest]

/-- No encoder but the first one is that of the IPA encoding. -/
theorem isIpa_eq_false_of_mem_tail {sets : List FeatureSet} {records : List EncodingSettings}
    {encoder : Encoder} (h : encoder ∈ (encodersOf sets records).built.tail) :
    encoder.encoding.isIpa = false := by
  cases hstage : (ipaStage sets records).built with
  | nil =>
    obtain hipa | ⟨settings, -, hrest, hbuild⟩ := mem_encodersOf (List.mem_of_mem_tail h)
    · rw [hstage] at hipa
      cases hipa
    · rw [Encoding.isIpa, name_of_encoderOf hbuild]
      exact hrest
  | cons first more =>
    have hfirst : first ∈ (ipaStage sets records).built := hstage ▸ List.mem_cons_self
    obtain ⟨settings, -, hipa, hbuild⟩ := mem_ipaStage hfirst
    rw [isIpaSettings, ← name_of_encoderOf hbuild] at hipa
    -- Another one would go by the same name.
    have hdistinct := encodersOf_distinct sets records
    obtain ⟨rest, hbuilt⟩ := built_prefix_addAll
      (buildEncoder sets (ipaStage sets records).built.head?) (ipaStage sets records)
      (records.filter fun settings => !isIpaSettings settings)
    rw [← encodersOf_eq_addAll, hstage] at hbuilt
    rw [← hbuilt] at h hdistinct
    have hother := List.rel_of_pairwise_cons hdistinct h
    rw [← Bool.not_eq_true]
    intro hsame
    exact hother (.inr ⟨hipa, hsame⟩)

end Assembly

namespace Resources

open Assembly

/-- Two configurations that differ at most in the order of their encodings: the IPA encodings come
in the same order in both, and so do the others. -/
structure Rearranges (files : Files) (base : String) (configuration other : Configuration) :
    Prop where
  featureSets : other.featureSets = configuration.featureSets
  encodings : ∀ sort,
    ofSort files base sort other.encodings = ofSort files base sort configuration.encodings
  lexicons : other.lexicons = configuration.lexicons
  hypotheses : other.hypotheses = configuration.hypotheses
  matcher : other.matcher = configuration.matcher
  input : other.input = configuration.input

variable {files : Files} {base : String} {configuration other : Configuration}

theorem encoders_rearranged (h : Rearranges files base configuration other)
    (sets : List FeatureSet) :
    Assembly.encoders files base sets other = Assembly.encoders files base sets configuration := by
  have hunread : unreadEncodings files base other.encodings =
      unreadEncodings files base configuration.encodings := by
    rw [← unreadEncodings_ofSort, h.encodings, unreadEncodings_ofSort]
  have hbuilt : encodersOf sets (encodingRecords files base other.encodings) =
      encodersOf sets (encodingRecords files base configuration.encodings) := by
    apply encodersOf_congr
    · rw [filter_isIpa_encodingRecords, h.encodings, filter_isIpa_encodingRecords]
    · rw [filter_not_isIpa_encodingRecords, h.encodings, filter_not_isIpa_encodingRecords]
  rw [encoders_eq, encoders_eq, hunread, hbuilt]

/-- The place of the IPA encoding among the others is of no account: what is built of each kind and
what is reported is the same, in the same order. The IPA encoder goes before all others. -/
theorem assemble_rearranged (h : Rearranges files base configuration other) :
    assemble files base other = assemble files base configuration ∧
      ∀ encoder ∈ (assemble files base configuration).encoders.tail,
        encoder.encoding.isIpa = false := by
  have hsets : Assembly.featureSets files base other =
      Assembly.featureSets files base configuration := by
    rw [featureSets_eq_addAll, featureSets_eq_addAll, h.featureSets]
  have hlexicons : ∀ encoders, Assembly.lexicons files base encoders other =
      Assembly.lexicons files base encoders configuration := by
    intro encoders
    rw [lexicons_eq_addAll, lexicons_eq_addAll, h.lexicons]
  have htables : ∀ encoders, Assembly.tables encoders other =
      Assembly.tables encoders configuration := by
    intro encoders
    rw [tables_eq, tables_eq, h.hypotheses]
  refine ⟨?_, fun encoder hencoder => isIpa_eq_false_of_mem_tail hencoder⟩
  simp only [assemble, hsets, encoders_rearranged h, hlexicons, htables, h.matcher, h.input]

end Resources

/-! ## Two IPA encodings among others -/

namespace Interleaved

def voicing : FeatureSetSettings := ⟨"voicing", none, none, none, none, ["voiced"]⟩

/-- There are no tones, so the next IPA encoding takes its place. -/
def tonal : EncodingSettings := ⟨"Ipa", "tones", none, []⟩

def ipa : EncodingSettings :=
  ⟨"IPA", "voicing", none, [⟨"v", none, none, some (.single ["+voiced"]), none⟩]⟩

def latin : EncodingSettings := ⟨"latin", "voicing", none, [⟨"b", none, none, none, some "v"⟩]⟩

def configuration : Configuration where
  featureSets := [.inPlace voicing]
  encodings := [.inPlace latin, .inPlace tonal, .file "greek.json", .inPlace ipa]
  lexicons := [⟨"words", "wordlist", "words.txt", "latin", none, none⟩]
  hypotheses := []
  matcher := some ⟨["words"], none, none, none, none, none⟩
  input := some ⟨"latin", none⟩

def ipaBefore : Configuration :=
  { configuration with
    encodings := [.inPlace tonal, .inPlace ipa, .inPlace latin, .file "greek.json"] }

end Interleaved

open Interleaved in
theorem Resources.assemble_rearranged_interleaved :
    Rearranges (.ofList []) "" configuration ipaBefore ∧
      assemble (.ofList []) "" ipaBefore = assemble (.ofList []) "" configuration ∧
        ∃ encoder ∈ (assemble (.ofList []) "" configuration).encoders.tail,
          encoder.encoding.name = "latin" ∧ encoder.encoding.isIpa = false := by
  have h : Rearranges (.ofList []) "" configuration ipaBefore :=
    { featureSets := rfl
      encodings := fun sort => by cases sort <;> rfl
      lexicons := rfl
      hypotheses := rfl
      matcher := rfl
      input := rfl }
  obtain ⟨hsame, hfirst⟩ := assemble_rearranged h
  obtain ⟨encoder, hencoder, hname⟩ :
      ∃ encoder ∈ (assemble (.ofList []) "" configuration).encoders.tail,
        encoder.encoding.name = "latin" := ⟨_, List.mem_cons_self, rfl⟩
  exact ⟨h, hsame, encoder, hencoder, hname, hfirst encoder hencoder⟩

end PhoneticSearch

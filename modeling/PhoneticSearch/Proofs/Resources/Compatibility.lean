import PhoneticSearch.Proofs.Encoding.Reading
import PhoneticSearch.Proofs.Resources.Phones
import PhoneticSearch.Proofs.Warping.Table

/-!
# Phones that are compared

* `Matcher.mem_query`: an expansion repeats the phones of a query and adds no others.
* `Resources.length_eq_iff_dimensions_eq`: a phone of a query and a phone that it is compared with
  have the same length just if their encodings have equally many dimensions.
* `Uneven`: a configuration without problems whose encodings have not.
-/

namespace PhoneticSearch

open Settings

namespace Matcher

/-- The phones that are compared are those of the query, some of them more than once. -/
theorem mem_query (matcher : Matcher) (phones : List Phone) (phone : Phone) :
    phone ∈ matcher.query phones ↔ phone ∈ phones := by
  cases hexpansion : matcher.expansion with
  | none => simp [query, hexpansion]
  | some expansion =>
    simp only [query, hexpansion, Expansion.expand, List.mem_flatMap, List.mem_replicate]
    constructor
    · rintro ⟨other, hother, -, rfl⟩
      exact hother
    · intro hphone
      exact ⟨phone, hphone, (expansion.weight_pos phone).ne', rfl⟩

end Matcher

theorem Entry.SpelledBy.length_eq {encoder : Encoder} {entry : Entry} (h : entry.SpelledBy encoder)
    (hsized : encoder.Sized) {phone : Phone} (hphone : phone ∈ entry.phones) :
    phone.length = encoder.features.dimensions := by
  obtain ⟨text, htext⟩ := h phone hphone
  exact (hsized.length_of_mem_encode htext).1

namespace Resources

/-- A matcher searches lexicons and tables that have been built. -/
theorem mem_of_matcher? {resources : Resources} {matcher : Matcher}
    (h : resources.matcher? = some matcher) :
    (∀ lexicon ∈ matcher.lexicons, lexicon ∈ resources.lexicons) ∧
      ∀ table, matcher.readings = some table → table ∈ resources.tables := by
  obtain ⟨settings, -, rfl⟩ := Option.map_eq_some_iff.mp h
  constructor
  · intro lexicon hlexicon
    obtain ⟨id, -, hfind⟩ := List.mem_filterMap.mp hlexicon
    exact List.mem_of_find?_eq_some hfind
  · intro table htable
    obtain ⟨id, -, hfind⟩ := Option.bind_eq_some_iff.mp htable
    exact List.mem_of_find?_eq_some hfind

/-- Whether phones can be compared is a matter of the dimensions of their encodings alone. Each
phone that a matcher compares with a query has the length of the query's phones just if the encoding
of its lexicon, or of its table of readings, has as many dimensions as that of the query. -/
theorem length_eq_iff_dimensions_eq (files : Files) (base : String) (configuration : Configuration)
    {encoder : Encoder} {matcher : Matcher}
    (hencoder : (assemble files base configuration).inputEncoder? = some encoder)
    (hmatcher : (assemble files base configuration).matcher? = some matcher) (text : String) :
    (∀ phone, phone ∈ matcher.query (encoder.encode text) ↔ phone ∈ encoder.encode text) ∧
      ∀ asked ∈ encoder.encode text,
        (∀ lexicon ∈ matcher.lexicons, ∀ entry ∈ lexicon.entries, ∀ phone ∈ entry.phones,
          (asked.length = phone.length ↔
            encoder.features.dimensions = lexicon.encoder.features.dimensions)) ∧
        ∀ table, matcher.readings = some table → ∃ settings ∈ configuration.hypotheses,
          table = .ofSettings (settings.encoding.bind (assemble files base configuration).encoder?)
              settings ∧
            ∀ token reading, (token, reading) ∈ table.readings → ∀ phone ∈ reading.entry.phones,
              ∃ spelling,
                settings.encoding.bind (assemble files base configuration).encoder? =
                    some spelling ∧
                  (asked.length = phone.length ↔
                    encoder.features.dimensions = spelling.features.dimensions) := by
  refine ⟨matcher.mem_query _, ?_⟩
  intro asked hasked
  obtain ⟨input, -, hfind⟩ := Option.bind_eq_some_iff.mp hencoder
  have hlength : asked.length = encoder.features.dimensions :=
    ((sized_of_mem_encoders (mem_of_encoder? hfind)).length_of_mem_encode hasked).1
  obtain ⟨hlexicons, htables⟩ := mem_of_matcher? hmatcher
  constructor
  · intro lexicon hlexicon entry hentry phone hphone
    obtain ⟨hmem, hspelled⟩ := spelledBy_of_mem_lexicons (hlexicons lexicon hlexicon)
    rw [hlength, (hspelled entry hentry).length_eq (sized_of_mem_encoders hmem) hphone]
  · intro table htable
    obtain ⟨settings, hsettings, heq, hreadings⟩ := spelledBy_of_mem_tables (htables table htable)
    refine ⟨settings, hsettings, heq, ?_⟩
    intro token reading hreading phone hphone
    obtain ⟨spelling, hmem, hspelling, hspelled⟩ := hreadings token reading hreading phone hphone
    refine ⟨spelling, hspelling, ?_⟩
    rw [hlength, hspelled.length_eq (sized_of_mem_encoders hmem) hphone]

end Resources

/-! ## Encodings of different sizes -/

namespace Uneven

def narrow : FeatureSetSettings := ⟨"narrow", none, none, none, none, ["voiced"]⟩

def wide : FeatureSetSettings := ⟨"wide", none, none, none, none, ["nasal", "voiced"]⟩

def query : EncodingSettings := ⟨"query", "narrow", none, []⟩

def spelling : EncodingSettings := ⟨"spelling", "wide", none, []⟩

def notes : ReadingTableSettings :=
  ⟨"notes", some "spelling", [⟨none, [⟨.one "a", "a", none⟩]⟩]⟩

/-- Queries have phones with one component, what they are compared with has phones with two. -/
def configuration : Configuration where
  featureSets := [.inPlace narrow, .inPlace wide]
  encodings := [.inPlace query, .inPlace spelling]
  lexicons := [⟨"words", "wordlist", "words.txt", "spelling", none, none⟩]
  hypotheses := [notes]
  matcher := some ⟨["words"], none, none, some "notes", none, none⟩
  input := some ⟨"query", none⟩

/-- A word list with the word `a`. -/
def files : Files := .ofList [("words.txt", [97])]

def resources : Resources := .assemble files "" configuration

def encoderOver (features : FeatureSetSettings) (settings : EncodingSettings) : Encoder :=
  .ofEncoding (.ofSettings (Assembly.featureSetOf features) none settings)

def words : Lexicon :=
  .ofSource "words" (encoderOver wide spelling) files (.file .wordList "words.txt" none)

def matcher : Matcher :=
  ⟨[words], some (.ofSettings (some (encoderOver wide spelling)) notes), 6, 0, none⟩

theorem inputEncoder?_resources : resources.inputEncoder? = some (encoderOver narrow query) := rfl

theorem matcher?_resources : resources.matcher? = some matcher := rfl

/-- Without patterns a character has an unset phone. -/
theorem encode_a (features : FeatureSet) (id name : String) :
    (Encoder.ofEncoding (.ofSettings features none ⟨id, name, none, []⟩)).encode "a" =
      Encoder.phonesOf [⟨['a'], [features.unsetPhone]⟩] := by
  generalize hencoder : Encoder.ofEncoding (.ofSettings features none ⟨id, name, none, []⟩) =
    encoder
  have hrules : encoder.rules = .ofPatterns [] := by
    rw [← hencoder]
    exact congrArg RuleTable.ofPatterns List.mergeSort_nil
  have hsegments : encoder.segments "a".toList = [.bare 'a'] := by
    have htext : "a".toList = ['a'] := String.toList_ofList
    rw [htext, Encoder.segments, hrules]
    exact Segment.segments_nil ..
  have hbare : encoder.barePhone 'a' = features.unsetPhone := by
    rw [Encoder.barePhone, Encoder.isModifier, hrules, ← hencoder]
    rfl
  have htemplates : encoder.rules.templates = [] := by
    rw [hrules]
    rfl
  rw [Encoder.encode_of_templates_nil encoder htemplates, Encoder.cells, hsegments, ← hbare]
  rfl

theorem encode_narrow : (encoderOver narrow query).encode "a" = [[0]] := by decide +kernel

theorem dimensions_wide : (Assembly.featureSetOf wide).dimensions = 2 := by
  simp [Assembly.featureSetOf, FeatureSet.ofGroups, FeatureSet.dimensions, FeatureSet.canonical,
    wide]

theorem encode_wide : (encoderOver wide spelling).encode "a" = [[0, 0]] := by
  have hunset : (Assembly.featureSetOf wide).unset = 0 := rfl
  rw [encoderOver, spelling, encode_a, FeatureSet.unsetPhone, dimensions_wide, hunset]
  rfl

theorem contents_words :
    words.entries = [.ofPhones "a" [[0, 0]]] ∧ words.problems = [] := by
  have htext : files.readLossy "words.txt" = .ok "a" := Files.readLossy_ascii rfl rfl
  have hparse : Format.wordList.parse (encoderOver wide spelling) none "a" =
      .ok ⟨[.encoded (encoderOver wide spelling) "a" "a"], []⟩ := rfl
  have hcontents : words.contents.get =
      Contents.ofLoad "words" (.ok ⟨[.ofPhones "a" [[0, 0]]], []⟩) := by
    show Contents.ofLoad "words" ((Source.file .wordList "words.txt" none).load files _) = _
    rw [Source.load_file_of_parse htext hparse, Entry.encoded, encode_wide]
  rw [Lexicon.entries, Lexicon.problems, hcontents]
  exact Contents.ofLoad_singleton _ _

theorem length_eq_iff_dimensions_eq_uneven :
    resources.inputEncoder? = some (encoderOver narrow query) ∧
      resources.matcher? = some matcher ∧
        ∀ lexicon ∈ matcher.lexicons, ∀ entry ∈ lexicon.entries, ∀ phone ∈ entry.phones,
          phone.length ≠ 1 := by
  refine ⟨inputEncoder?_resources, matcher?_resources, ?_⟩
  obtain ⟨-, hcompared⟩ := Resources.length_eq_iff_dimensions_eq files "" configuration
    inputEncoder?_resources matcher?_resources "a"
  obtain ⟨hlexicons, -⟩ := hcompared [0] (by rw [encode_narrow]; exact List.mem_cons_self)
  intro lexicon hlexicon entry hentry phone hphone hlength
  have hdimensions := (hlexicons lexicon hlexicon entry hentry phone hphone).mp hlength.symm
  obtain rfl : lexicon = words := List.mem_singleton.mp hlexicon
  have hwide : words.encoder.features.dimensions = 2 := dimensions_wide
  rw [hwide] at hdimensions
  exact absurd hdimensions (by decide +kernel)

theorem problems_wide : (Assembly.featureSetOf wide).problems = [] := by
  have htrim : ["nasal", "voiced"].map Text.trim = ["nasal", "voiced"] := rfl
  have hsorted : FeatureSet.canonical ["nasal", "voiced"] = ["nasal", "voiced"] := by
    rw [FeatureSet.canonical, htrim]
    exact List.mergeSort_of_pairwise (by decide)
  simp only [Assembly.featureSetOf, wide, FeatureSet.ofGroups, hsorted]
  rfl

theorem allProblems_resources : resources.allProblems = [] := by
  have hsets : resources.featureSets.flatMap (·.problems) = [] := by
    show [Assembly.featureSetOf narrow, Assembly.featureSetOf wide].flatMap (·.problems) = []
    rw [List.flatMap_cons, List.flatMap_cons, problems_wide]
    decide +kernel
  have hlexicons : resources.lexicons.flatMap Lexicon.problems = [] := by
    show [words].flatMap Lexicon.problems = []
    rw [List.flatMap_cons, contents_words.2]
    rfl
  rw [Resources.allProblems, hsets, hlexicons]
  rfl

/-- The missing component counts as an extreme number, whose square is no finite number. -/
theorem phoneDistance_uneven : phoneDistance [0] [0, 0] = maxFloat := by
  have hlarge : (0 + (0 - 0) * (0 - 0) + (-maxFloat - 0) * (-maxFloat - 0)).sqrt.isFinite =
      false := rfl
  simp only [phoneDistance, squaredDifferences, squaredDifferences.square, hlarge]
  rfl

theorem distance_uneven : matcher.distance [[0]] [[0, 0]] = maxFloat := by
  have hband : bandWidth matcher.tolerance 1 = 0 := rfl
  rw [Matcher.distance, sequenceDistance, List.length_singleton, List.length_singleton, hband,
    Warping.distance_singleton, phoneDistance_uneven]
  rfl

theorem curated_uneven : (matcher.curated "a" [[0]]).map (·.distance) = [some maxFloat] := by
  let table := ReadingTable.ofSettings (some (encoderOver wide spelling)) notes
  let item : ReadingSettings := ⟨.one "a", "a", none⟩
  let reading := ReadingTable.proposal (some (encoderOver wide spelling)) ⟨none, [item]⟩ item
  have hlookup : table.lookup "a" = [reading] := (ReadingTable.holds_ofSettings _ _).lookup_eq "a"
  have hphones : reading.entry.phones = [[0, 0]] := encode_wide
  show ((table.lookup "a").map _).map _ = _
  rw [hlookup, List.map_singleton, List.map_singleton, hphones, distance_uneven]
  rfl

theorem nearest_uneven : (matcher.nearest [[0]]).map (·.distance) = [some maxFloat] := by
  have hentries := contents_words.1
  have hcount : matcher.optionCount = 6 := rfl
  simp [Matcher.nearest, Matcher.offerEntries, show matcher.lexicons = [words] from rfl, hentries,
    Entry.ofPhones, Selection.offer, Selection.empty, distance_uneven, hcount]

/-- Nothing is reported, and yet no two phones that are compared have the same length: each distance
is the greatest number. -/
theorem resources_incomparable :
    resources.allProblems = [] ∧ resources.inputEncoder? = some (encoderOver narrow query) ∧
      resources.matcher? = some matcher ∧
        (∃ asked ∈ (encoderOver narrow query).encode "a", ∃ lexicon ∈ matcher.lexicons,
          ∃ entry ∈ lexicon.entries, ∃ phone ∈ entry.phones, asked.length ≠ phone.length) ∧
          (matcher.rank "a" ((encoderOver narrow query).encode "a")).map (·.distance) =
            [some maxFloat, some maxFloat] := by
  rw [encode_narrow]
  refine ⟨allProblems_resources, inputEncoder?_resources, matcher?_resources, ?_, ?_⟩
  · refine ⟨[0], List.mem_cons_self, words, List.mem_cons_self, .ofPhones "a" [[0, 0]], ?_, [0, 0],
      List.mem_cons_self, by decide⟩
    rw [contents_words.1]
    exact List.mem_cons_self
  · show (matcher.curated "a" [[0]] ++ matcher.nearest [[0]]).map (·.distance) = _
    rw [List.map_append, curated_uneven, nearest_uneven]
    rfl

end Uneven

end PhoneticSearch

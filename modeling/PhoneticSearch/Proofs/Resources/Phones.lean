import PhoneticSearch.Proofs.Encoding.PhoneLength
import PhoneticSearch.Proofs.Lexicon.Materialised
import PhoneticSearch.Proofs.Lexicon.Spelled
import PhoneticSearch.Proofs.Resources.Records
import PhoneticSearch.Proofs.Text.Utf8

/-!
# The phones of what a configuration builds

* `Resources.sized_of_mem_encoders`: the phones of every encoding are full.
* `Resources.spelledBy_of_mem_lexicons`: the entries of a lexicon are spelled by one of the
  encoders.
* `Resources.spelledBy_of_mem_tables`: so are the readings of a table that names an encoding.
* `Resources.assemble_phones_full`: no phone of a spelling, of a lexicon or of a reading is empty or
  has too few components or too many.
-/

namespace PhoneticSearch

open Settings

namespace Assembly

theorem sized_of_encoderOf {sets : List FeatureSet} {ipa : Option Encoder}
    {settings : EncodingSettings} {encoder : Encoder}
    (hipa : ∀ other, ipa = some other → other.Sized)
    (h : encoderOf sets ipa settings = .ok encoder) : encoder.Sized := by
  obtain ⟨features, -, rfl⟩ := encoderOf_eq_ok_iff.mp h
  exact Encoder.sized_ofSettings features hipa settings

/-- The IPA encoding comes first and is full by itself. The others take their phones from it. -/
theorem encodersOf_sized (sets : List FeatureSet) (records : List EncodingSettings) :
    ∀ encoder ∈ (encodersOf sets records).built, encoder.Sized := by
  have hstage : ∀ encoder ∈ (ipaStage sets records).built, encoder.Sized := by
    intro encoder hencoder
    obtain ⟨settings, -, -, hof⟩ := mem_ipaStage hencoder
    exact sized_of_encoderOf (by simp) hof
  intro encoder hencoder
  obtain hipa | ⟨settings, -, -, hof⟩ := mem_encodersOf hencoder
  · exact hstage encoder hipa
  · exact sized_of_encoderOf (fun other hhead => hstage other (List.mem_of_mem_head? hhead)) hof

end Assembly

namespace Resources

section Assemble

variable {files : Files} {base : String} {configuration : Configuration}

theorem mem_of_encoder? {resources : Resources} {id : String} {encoder : Encoder}
    (h : resources.encoder? id = some encoder) : encoder ∈ resources.encoders :=
  List.mem_of_find?_eq_some h

theorem sized_of_mem_encoders {encoder : Encoder}
    (h : encoder ∈ (assemble files base configuration).encoders) : encoder.Sized :=
  Assembly.encodersOf_sized _ _ encoder h

theorem spelledBy_of_mem_lexicons {lexicon : Lexicon}
    (h : lexicon ∈ (assemble files base configuration).lexicons) :
    lexicon.encoder ∈ (assemble files base configuration).encoders ∧
      ∀ entry ∈ lexicon.entries, entry.SpelledBy lexicon.encoder := by
  obtain ⟨settings, -, hbuild⟩ := mem_lexicons_assemble.mp h
  obtain ⟨format, encoder, -, hfind, rfl⟩ := Assembly.lexiconOf_eq_ok_iff.mp hbuild
  exact ⟨List.mem_of_find?_eq_some hfind, fun entry => Lexicon.spelledBy_of_mem_entries⟩

/-- A reading has phones only if the record of its table names an encoding that is there. -/
theorem spelledBy_of_mem_tables {table : ReadingTable}
    (h : table ∈ (assemble files base configuration).tables) :
    ∃ settings ∈ configuration.hypotheses,
      table = .ofSettings (settings.encoding.bind (assemble files base configuration).encoder?)
          settings ∧
        ∀ token reading, (token, reading) ∈ table.readings → ∀ phone ∈ reading.entry.phones,
          ∃ encoder ∈ (assemble files base configuration).encoders,
            settings.encoding.bind (assemble files base configuration).encoder? = some encoder ∧
              reading.entry.SpelledBy encoder := by
  rw [tables_assemble] at h
  obtain ⟨settings, hsettings, rfl⟩ := List.mem_map.mp h
  refine ⟨settings, hsettings, rfl, ?_⟩
  intro token reading hreading phone hphone
  obtain ⟨encoder, hencoder, hspelled⟩ :=
    ReadingTable.spelledBy_of_mem_readings hreading hphone
  obtain ⟨id, -, hfind⟩ := Option.bind_eq_some_iff.mp hencoder
  exact ⟨encoder, mem_of_encoder? hfind, hencoder, hspelled⟩

end Assemble

end Resources

/-- A phone that is not empty and has one component for each dimension of an encoder's features. -/
def Encoder.IsFull (encoder : Encoder) (phone : Phone) : Prop :=
  phone ≠ [] ∧ phone.length = encoder.features.dimensions

theorem Encoder.Sized.isFull_of_mem_encode {encoder : Encoder} (h : encoder.Sized) {text : String}
    {phone : Phone} (hphone : phone ∈ encoder.encode text) : encoder.IsFull phone :=
  (h.length_of_mem_encode hphone).symm

theorem Entry.SpelledBy.isFull {encoder : Encoder} {entry : Entry} (h : entry.SpelledBy encoder)
    (hsized : encoder.Sized) {phone : Phone} (hphone : phone ∈ entry.phones) :
    encoder.IsFull phone := by
  obtain ⟨text, htext⟩ := h phone hphone
  exact hsized.isFull_of_mem_encode htext

namespace Resources

/-- The phones that a configured encoder gives are full, those of IPA texts and of modified
characters among them. So are all phones that are spelled by it: those of a lexicon file, whatever
its format, and those of a table of readings. -/
theorem assemble_phones_full (files : Files) (base : String) (configuration : Configuration) :
    let resources := assemble files base configuration
    (∀ encoder ∈ resources.encoders,
        (∀ text, ∀ phone ∈ (encoder.transduce text).phones, encoder.IsFull phone) ∧
        (∀ name (files : Files) format path limit,
          ∀ entry ∈ (Lexicon.ofSource name encoder files (.file format path limit)).entries,
            ∀ phone ∈ entry.phones, encoder.IsFull phone) ∧
        ∀ settings token reading,
          (token, reading) ∈ (ReadingTable.ofSettings (some encoder) settings).readings →
            ∀ phone ∈ reading.entry.phones, encoder.IsFull phone) ∧
      (∀ lexicon ∈ resources.lexicons, lexicon.encoder ∈ resources.encoders ∧
        ∀ entry ∈ lexicon.entries, ∀ phone ∈ entry.phones, lexicon.encoder.IsFull phone) ∧
      ∀ table ∈ resources.tables, ∃ settings ∈ configuration.hypotheses,
        table = .ofSettings (settings.encoding.bind resources.encoder?) settings ∧
          ∀ token reading, (token, reading) ∈ table.readings → ∀ phone ∈ reading.entry.phones,
            ∃ encoder ∈ resources.encoders,
              settings.encoding.bind resources.encoder? = some encoder ∧ encoder.IsFull phone := by
  intro resources
  refine ⟨?_, ?_, ?_⟩
  · intro encoder hencoder
    have hsized : encoder.Sized := sized_of_mem_encoders hencoder
    refine ⟨fun text phone => hsized.isFull_of_mem_encode, ?_, ?_⟩
    · intro name files format path limit entry hentry phone hphone
      exact (Lexicon.spelledBy_of_mem_entries hentry).isFull hsized hphone
    · intro settings token reading hreading phone hphone
      obtain ⟨spelling, hspelling, hspelled⟩ :=
        ReadingTable.spelledBy_of_mem_readings hreading hphone
      cases hspelling
      exact hspelled.isFull hsized hphone
  · intro lexicon hlexicon
    obtain ⟨hmem, hspelled⟩ := spelledBy_of_mem_lexicons hlexicon
    refine ⟨hmem, ?_⟩
    intro entry hentry phone hphone
    exact (hspelled entry hentry).isFull (sized_of_mem_encoders hmem) hphone
  · intro table htable
    obtain ⟨settings, hsettings, heq, hreadings⟩ := spelledBy_of_mem_tables htable
    refine ⟨settings, hsettings, heq, ?_⟩
    intro token reading hreading phone hphone
    obtain ⟨encoder, hmem, hencoder, hspelled⟩ := hreadings token reading hreading phone hphone
    exact ⟨encoder, hmem, hencoder, hspelled.isFull (sized_of_mem_encoders hmem) hphone⟩

end Resources

/-! ## Phones of an IPA text that come of a modified character -/

namespace Whispered

def voicing : FeatureSetSettings := ⟨"voicing", none, none, none, none, ["voiced"]⟩

/-- An `h` takes the voice of the character before it and has no phone of its own. -/
def ipa : EncodingSettings :=
  ⟨"IPA", "voicing", none, [⟨"_h", none, none, some (.single ["-voiced"]), none⟩]⟩

def latin : EncodingSettings := ⟨"latin", "voicing", none, [⟨"x", none, none, none, some "bh"⟩]⟩

def notes : ReadingTableSettings := ⟨"notes", some "latin", [⟨none, [⟨.one "a", "x", none⟩]⟩]⟩

def configuration : Configuration where
  featureSets := [.inPlace voicing]
  encodings := [.inPlace latin, .inPlace ipa]
  lexicons := [⟨"words", "wordlist", "words.txt", "latin", none, none⟩]
  hypotheses := [notes]
  matcher := some ⟨["words", "words"], none, none, some "notes", some "Voiced", none⟩
  input := some ⟨"latin", none⟩

/-- A word list with the word `x`. -/
def files : Files := .ofList [("words.txt", [120])]

def resources : Resources := .assemble files "" configuration

def ipaEncoder : Encoder := .ofEncoding (.ofSettings (Assembly.featureSetOf voicing) none ipa)

def latinEncoder : Encoder :=
  .ofEncoding (.ofSettings (Assembly.featureSetOf voicing) (some ipaEncoder) latin)

def words : Lexicon :=
  .ofSource "words" latinEncoder files (.file .wordList "words.txt" none)

theorem encode_x : latinEncoder.encode "x" = [[-1]] := by decide +kernel

theorem entries_words : words.entries = [.ofPhones "x" [[-1]]] := by
  have htext : files.readLossy "words.txt" = .ok "x" := Files.readLossy_ascii rfl rfl
  have hparse : Format.wordList.parse latinEncoder none "x" =
      .ok ⟨[.encoded latinEncoder "x" "x"], []⟩ := rfl
  show (Contents.ofLoad "words" ((Source.file .wordList "words.txt" none).load files _)).entries = _
  rw [Source.load_file_of_parse htext hparse,
    (Contents.ofLoad_singleton _ _).1, Entry.encoded, encode_x]

end Whispered

theorem Resources.assemble_phones_full_whispered :
    ([-1] ∈ (Whispered.latinEncoder.transduce "x").phones ∧ Whispered.latinEncoder.IsFull [-1]) ∧
      (Whispered.words ∈ Whispered.resources.lexicons ∧ ∃ entry ∈ Whispered.words.entries,
        [-1] ∈ entry.phones ∧ Whispered.latinEncoder.IsFull [-1]) ∧
      ∃ table ∈ Whispered.resources.tables, ∃ reading, ("a", reading) ∈ table.readings ∧
        [-1] ∈ reading.entry.phones ∧
          ∃ encoder ∈ Whispered.resources.encoders, encoder.IsFull [-1] := by
  obtain ⟨hencoders, hlexicons, htables⟩ :=
    assemble_phones_full Whispered.files "" Whispered.configuration
  have hencoder : Whispered.latinEncoder ∈ Whispered.resources.encoders := .tail _ (.head _)
  have hphone : [-1] ∈ Whispered.latinEncoder.encode "x" := by
    rw [Whispered.encode_x]
    exact List.mem_cons_self
  refine ⟨⟨hphone, (hencoders _ hencoder).1 "x" _ hphone⟩, ⟨List.mem_cons_self, ?_⟩, ?_⟩
  · have hentry : .ofPhones "x" [[-1]] ∈ Whispered.words.entries := by
      rw [Whispered.entries_words]
      exact List.mem_cons_self
    refine ⟨_, hentry, List.mem_cons_self, ?_⟩
    exact (hlexicons Whispered.words List.mem_cons_self).2 _ hentry _ List.mem_cons_self
  · let table := ReadingTable.ofSettings (some Whispered.latinEncoder) Whispered.notes
    let reading : Reading :=
      ⟨none, ReadingTable.entryOf (some Whispered.latinEncoder) ⟨.one "a", "x", none⟩⟩
    have htable : table ∈ Whispered.resources.tables := List.mem_cons_self
    have hreading : ("a", reading) ∈ table.readings :=
      ReadingTable.mem_readings_ofSettings.mpr List.mem_cons_self
    have hspelled : [-1] ∈ reading.entry.phones := hphone
    obtain ⟨settings, -, -, hreadings⟩ := htables table htable
    obtain ⟨encoder, hmem, -, hfull⟩ := hreadings "a" reading hreading _ hspelled
    exact ⟨table, htable, reading, hreading, hspelled, encoder, hmem, hfull⟩

end PhoneticSearch

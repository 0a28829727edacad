import PhoneticSearch.Lexicon.Basic
import PhoneticSearch.Proofs.Readings

/-!
# Where the phones of entries come from

* `Entry.SpelledBy`: every phone of an entry is one that an encoder gives for some text.
* `Format.spelledBy_of_parse`: the entries of a file are so, whatever its format.
* `Contents.mem_of_mem_sift`: a lexicon holds entries of its source only.
* `Lexicon.spelledBy_of_mem_entries`, `ReadingTable.spelledBy_of_mem_readings`: the entries of
  a lexicon that is read from a file and the readings of a configured table.
-/

namespace PhoneticSearch

open Settings

namespace Entry

@[simp] theorem phones_withText (entry : Entry) (text : String) :
    (entry.withText text).phones = entry.phones := rfl

@[simp] theorem phones_withDefinition (entry : Entry) (definition : String) :
    (entry.withDefinition definition).phones = entry.phones := rfl

/-- Each phone of the entry is one that the encoder gives for some text. -/
def SpelledBy (encoder : Encoder) (entry : Entry) : Prop :=
  ∀ phone ∈ entry.phones, ∃ text, phone ∈ encoder.encode text

theorem spelledBy_encoded (encoder : Encoder) (headword spelling : String) :
    (encoded encoder headword spelling).SpelledBy encoder :=
  fun _ hphone => ⟨spelling, hphone⟩

end Entry

/-! ## The formats -/

variable {encoder : Encoder} {limit : Option Nat} {text : String} {entry : Entry}

theorem Pronunciations.spelledBy_of_mem_parse
    (h : entry ∈ (Pronunciations.parse encoder limit text).entries) : entry.SpelledBy encoder := by
  obtain ⟨contribution, hcontribution, hentry⟩ := List.mem_filterMap.mp h
  obtain ⟨⟨line, number⟩, -, hline⟩ := List.mem_filterMap.mp hcontribution
  cases contribution with
  | error issue => cases hentry
  | ok found =>
    cases hentry
    simp only [readLine] at hline
    split at hline
    · cases hline
    · cases hwords : Text.words line with
      | nil => simp [hwords] at hline
      | cons word symbols =>
        cases symbols with
        | nil => simp [hwords] at hline
        | cons symbol symbols =>
          simp only [hwords, Option.some.injEq, Except.ok.injEq] at hline
          subst hline
          intro phone hphone
          obtain ⟨spelled, -, hspelled⟩ := List.mem_flatMap.mp hphone
          exact ⟨spelled, hspelled⟩

theorem WordList.spelledBy_of_mem_parse (h : entry ∈ WordList.parse encoder limit text) :
    entry.SpelledBy encoder := by
  obtain ⟨line, -, hline⟩ := List.mem_filterMap.mp h
  simp only [readLine] at hline
  split at hline
  · cases hline
  · cases hline
    intro phone hphone
    exact ⟨_, hphone⟩

theorem Export.spelledBy_of_mem_entries {document : Export.Document}
    (h : entry ∈ Export.entries encoder limit document) : entry.SpelledBy encoder := by
  obtain ⟨⟨headword, records⟩, -, rfl⟩ := List.mem_map.mp h
  exact Entry.spelledBy_encoded encoder headword headword

/-- Whatever the format, the entries of a text are spelled by the encoder it is read with. -/
theorem Format.spelledBy_of_parse {format : Format} {parsed : Parsed}
    (hparse : format.parse encoder limit text = .ok parsed) (hentry : entry ∈ parsed.entries) :
    entry.SpelledBy encoder := by
  cases format with
  | pronunciations =>
    cases hparse
    exact Pronunciations.spelledBy_of_mem_parse hentry
  | wordList =>
    cases hparse
    exact WordList.spelledBy_of_mem_parse hentry
  | exported =>
    simp only [Format.parse, Export.parse] at hparse
    cases hread : Export.Document.decoder.read text with
    | error fault => simp [hread, Except.map] at hparse
    | ok document =>
      simp only [hread, Except.map, Except.ok.injEq] at hparse
      subst hparse
      exact Export.spelledBy_of_mem_entries hentry

/-! ## Lexicons -/

namespace Contents

theorem mem_of_mem_foldl_add {entries : List Entry} {sifted : Sifted}
    (h : entry ∈ (entries.foldl Sifted.add sifted).kept) :
    entry ∈ sifted.kept ∨ entry ∈ entries := by
  induction entries generalizing sifted with
  | nil => exact .inl h
  | cons first rest ih =>
    obtain hkept | hrest := ih h
    · unfold Sifted.add at hkept
      split at hkept
      · exact .inl hkept
      · obtain hold | rfl := Array.mem_push.mp hkept
        · exact .inl hold
        · exact .inr List.mem_cons_self
    · exact .inr (List.mem_cons_of_mem _ hrest)

theorem mem_of_mem_sift {entries : List Entry} (h : entry ∈ (sift entries).kept) :
    entry ∈ entries := by
  obtain hnone | hmem := mem_of_mem_foldl_add h
  · simp [Sifted.empty] at hnone
  · exact hmem

/-- A source that cannot be read gives no entries. -/
theorem exists_parsed_of_mem_ofLoad {name : String} {loaded : Except LoadFault Parsed}
    (h : entry ∈ (ofLoad name loaded).entries) :
    ∃ parsed, loaded = .ok parsed ∧ entry ∈ parsed.entries := by
  cases loaded with
  | ok parsed => exact ⟨parsed, rfl, mem_of_mem_sift (Array.mem_toList_iff.mp h)⟩
  | error fault => cases h

end Contents

/-- What a file gives is what its format reads from its text. -/
theorem Source.load_file_eq_ok {files : Files} {format : Format} {path : String} {parsed : Parsed}
    (h : (Source.file format path limit).load files encoder = .ok parsed) :
    ∃ text, files.readLossy path = .ok text ∧ format.parse encoder limit text = .ok parsed := by
  cases hread : files.readLossy path with
  | error cause => simp [Source.load, hread] at h
  | ok text =>
    simp only [Source.load, hread] at h
    cases hparse : format.parse encoder limit text with
    | error fault => rw [hparse] at h; cases h
    | ok found => rw [hparse] at h; cases h; exact ⟨text, rfl, hparse⟩

theorem Source.load_file {files : Files} {path text : String}
    (h : files.readLossy path = .ok text) (format : Format) (limit : Option Nat) :
    (Source.file format path limit).load files encoder =
      (format.parse encoder limit text).mapError (.invalid path) := by
  simp only [Source.load, h]

theorem Source.load_file_of_parse {files : Files} {path text : String} {format : Format}
    {parsed : Parsed} (h : files.readLossy path = .ok text)
    (hparse : format.parse encoder limit text = .ok parsed) :
    (Source.file format path limit).load files encoder = .ok parsed := by
  rw [Source.load_file h, hparse]
  rfl

theorem Lexicon.spelledBy_of_mem_entries {name path : String} {files : Files} {format : Format}
    (h : entry ∈ (Lexicon.ofSource name encoder files (.file format path limit)).entries) :
    entry.SpelledBy encoder := by
  obtain ⟨parsed, hload, hentry⟩ := Contents.exists_parsed_of_mem_ofLoad h
  obtain ⟨text, -, hparse⟩ := Source.load_file_eq_ok hload
  exact Format.spelledBy_of_parse hparse hentry

/-! ## Curated readings -/

/-- A reading has phones only if its table has an encoder, which then gives them. -/
theorem ReadingTable.spelledBy_of_mem_readings {encoder : Option Encoder}
    {settings : ReadingTableSettings} {token : String} {reading : Reading}
    (h : (token, reading) ∈ (ReadingTable.ofSettings encoder settings).readings) {phone : Phone}
    (hphone : phone ∈ reading.entry.phones) :
    ∃ spelling, encoder = some spelling ∧ reading.entry.SpelledBy spelling := by
  obtain ⟨⟨group, item, input⟩, -, heq⟩ := List.mem_map.mp (mem_readings_ofSettings.mp h)
  cases heq
  cases encoder with
  | none => cases hphone
  | some spelling =>
    refine ⟨spelling, rfl, ?_⟩
    intro other hother
    exact ⟨item.headword, hother⟩

end PhoneticSearch

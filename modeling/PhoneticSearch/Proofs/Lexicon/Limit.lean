import Mathlib.Data.Finset.Card
import PhoneticSearch.Proofs.Lexicon.Export
import PhoneticSearch.Proofs.Lexicon.Pronunciations
import PhoneticSearch.Proofs.Lexicon.WordList

/-!
# What a limit leaves out

A limit counts lines in two of the formats and headwords in the third.

* `CutShort`: what is read within a limit against what is read without one.
* `Pronunciations.parse_some`, `WordList.parse_some`: a limit on lines is a shorter text.
* `Export.card_headwords`: how many headwords there are to count.
* `Format.parse_limited`: a limit cuts off the end of what is read and changes nothing before it.
-/

namespace PhoneticSearch

open Text

/-- The same fault, or some of the entries and of the issues, from the first one on. -/
inductive CutShort : Except Json.Fault Parsed → Except Json.Fault Parsed → Prop where
  | fault (fault : Json.Fault) : CutShort (.error fault) (.error fault)
  | parsed {cut whole : Parsed} : cut.entries <+: whole.entries → cut.issues <+: whole.issues →
      CutShort (.ok cut) (.ok whole)

/-- The first lines of a text by themselves. -/
structure IsFirstLines (count : Nat) (text head : String) : Prop where
  lines_eq : lines head.toList = (lines text.toList).take count

theorem exists_isFirstLines (count : Nat) (text : String) :
    ∃ head, head.toList <+: text.toList ∧ IsFirstLines count text head := by
  obtain ⟨head, hprefix, hlines⟩ := exists_lines_eq_take count text.toList
  refine ⟨String.ofList head, ?_, ⟨?_⟩⟩
  · rwa [String.toList_ofList]
  · rwa [String.toList_ofList]

theorem zipIdx_isPrefix {α : Type} {some all : List α} (h : some <+: all) (start : Nat) :
    some.zipIdx start <+: all.zipIdx start := by
  obtain ⟨rest, rfl⟩ := h
  rw [List.zipIdx_append]
  exact List.prefix_append _ _

/-! ## Limits on lines -/

variable (encoder : Encoder) (count : Nat) {text head : String}

namespace Pronunciations

theorem contributions_isPrefix (text : List Char) :
    contributions encoder (some count) text <+: contributions encoder none text := by
  rw [contributions_eq, contributions_eq]
  exact (zipIdx_isPrefix (List.take_prefix count _) 1).filterMap _

theorem cutShort_parse (text : String) :
    CutShort (.ok (parse encoder (some count) text)) (.ok (parse encoder none text)) :=
  .parsed ((contributions_isPrefix encoder count _).filterMap _)
    ((contributions_isPrefix encoder count _).filterMap _)

theorem parse_some (h : IsFirstLines count text head) :
    parse encoder (some count) text = parse encoder none head := by
  have hcontributions : contributions encoder (some count) text.toList =
      contributions encoder none head.toList := by
    rw [contributions_eq, contributions_eq, takeLimit, takeLimit, h.lines_eq]
  rw [parse, parse, hcontributions]

end Pronunciations

namespace WordList

theorem parse_isPrefix (text : String) :
    parse encoder (some count) text <+: parse encoder none text :=
  (List.take_prefix count _).filterMap _

theorem parse_some (h : IsFirstLines count text head) :
    parse encoder (some count) text = parse encoder none head := by
  rw [parse, parse, takeLimit, takeLimit, h.lines_eq]

end WordList

/-! ## Limits on headwords -/

namespace Export

theorem card_headwords (records : List Record) :
    (records.map Record.headword).toFinset.card = (headwordsOf records).length := by
  have hsame : (records.map Record.headword).toFinset = (headwordsOf records).toFinset := by
    ext headword
    rw [List.mem_toFinset, List.mem_toFinset, mem_headwordsOf]
  rw [hsame, List.toFinset_card_of_nodup (nodup_headwordsOf records)]

theorem entries_isPrefix (document : Document) :
    entries encoder (some count) document <+: entries encoder none document := by
  rw [entries_eq, entries_eq]
  exact (List.take_prefix count _).map _

theorem length_entries (document : Document) :
    (entries encoder (some count) document).length =
      min count (document.records.map Record.headword).toFinset.card := by
  rw [entries_eq, List.length_map, takeLimit, List.length_take, card_headwords]

end Export

/-! ## All formats -/

theorem Format.cutShort_parse (format : Format) (text : String) :
    CutShort (format.parse encoder (some count) text) (format.parse encoder none text) := by
  cases format with
  | pronunciations => exact Pronunciations.cutShort_parse encoder count text
  | wordList => exact .parsed (WordList.parse_isPrefix encoder count text) List.prefix_rfl
  | exported =>
    rw [parse, parse, Export.parse, Export.parse]
    cases Export.Document.decoder.read text with
    | error fault => exact .fault fault
    | ok document => exact .parsed (Export.entries_isPrefix encoder count document) List.prefix_rfl

theorem CutShort.given_isPrefix {cut whole : Except Json.Fault Parsed} (h : CutShort cut whole)
    (faultOf : Json.Fault → LoadFault) :
    (Supply.ofLoad (cut.mapError faultOf)).given <+:
      (Supply.ofLoad (whole.mapError faultOf)).given := by
  cases h with
  | fault fault => exact List.prefix_rfl
  | parsed hentries _ => exact hentries

theorem Lexicon.entries_ofSource (name : String) (files : Files) (source : Source) :
    (ofSource name encoder files source).entries =
      firsts (Supply.ofLoad (source.load files encoder)).given :=
  Contents.entries_ofSupply name (.ofLoad (source.load files encoder))

theorem Lexicon.entries_isPrefix (name : String) (files : Files) (format : Format) (path : String) :
    (ofSource name encoder files (.file format path (some count))).entries <+:
      (ofSource name encoder files (.file format path none)).entries := by
  rw [entries_ofSource, entries_ofSource]
  apply firsts_isPrefix
  cases hread : files.readLossy path with
  | error cause =>
    rw [Source.load, Source.load, hread]
  | ok text =>
    rw [Source.load_file hread, Source.load_file hread]
    exact (format.cutShort_parse encoder count text).given_isPrefix _

/-- Within a limit a text gives the first of its entries, as they are without one, and the first of
its issues. A limit on lines is the text that has only these lines. A limit on headwords leaves as
many entries, if there are that many, and each has all records of its headword. A lexicon has the
first of its entries. -/
theorem Format.parse_limited :
    (∀ (format : Format) (text : String),
      CutShort (format.parse encoder (some count) text) (format.parse encoder none text)) ∧
      (∀ text, ∃ head, head.toList <+: text.toList ∧ IsFirstLines count text head) ∧
      (∀ text head, IsFirstLines count text head →
        Pronunciations.parse encoder (some count) text = Pronunciations.parse encoder none head ∧
          WordList.parse encoder (some count) text = WordList.parse encoder none head) ∧
      (∀ text document, Export.Document.decoder.read text = .ok document →
        ∃ found, Export.parse encoder (some count) text = .ok found ∧
          found.length = min count (document.records.map Export.Record.headword).toFinset.card ∧
          ∀ entry ∈ found, Export.EntryFor encoder document.languages
            (Export.withHeadword document.records entry.headword) entry) ∧
      ∀ (name : String) (files : Files) (format : Format) (path : String),
        (Lexicon.ofSource name encoder files (.file format path (some count))).entries <+:
          (Lexicon.ofSource name encoder files (.file format path none)).entries := by
  refine ⟨cutShort_parse encoder count, exists_isFirstLines count, ?_, ?_,
    Lexicon.entries_isPrefix encoder count⟩
  · intro text head h
    exact ⟨Pronunciations.parse_some encoder count h, WordList.parse_some encoder count h⟩
  · intro text document h
    exact ⟨Export.entries encoder (some count) document, Export.parse_of_read h encoder _,
      Export.length_entries encoder count document,
      fun entry hentry => Export.entryFor_of_mem_entries hentry⟩

/-- A comment is one of the lines that count, and the first headword keeps its last record. -/
theorem Format.parse_limited_glossary :
    let features := FeatureSet.ofGroups "features" ["voice"] 1 (-1) none
    let encoder := Encoder.ofEncoding (Encoding.ofPatterns "letters" features [])
    let text := ";;; words\nkalo  K\npani  P\n"
    let head := ";;; words\nkalo  K\n"
    (IsFirstLines 2 text head ∧
        Pronunciations.parse encoder (some 2) text = Pronunciations.parse encoder none head) ∧
      Export.Document.decoder.read Export.Glossary.text = .ok Export.Glossary.document ∧
      ∃ found, Export.parse encoder (some 1) Export.Glossary.text = .ok found ∧
        found.length = 1 ∧
        ∀ entry ∈ found, Export.EntryFor encoder Export.Glossary.document.languages
          (Export.withHeadword Export.Glossary.document.records entry.headword) entry := by
  intro features encoder text head
  have hhead : IsFirstLines 2 text head := ⟨by decide⟩
  have hread := Export.Glossary.read_text
  obtain ⟨-, -, hlines, -⟩ := parse_limited encoder 2
  obtain ⟨-, -, -, hheadwords, -⟩ := parse_limited encoder 1
  obtain ⟨found, hparse, hlength, hfor⟩ := hheadwords _ _ hread
  exact ⟨⟨hhead, (hlines text head hhead).1⟩, hread, found, hparse, hlength, hfor⟩

end PhoneticSearch

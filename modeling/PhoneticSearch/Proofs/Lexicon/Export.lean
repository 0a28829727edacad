import Mathlib.Data.List.Forall2
import Mathlib.Data.List.Induction
import Mathlib.Data.List.Permutation
import PhoneticSearch.Proofs.Lexicon.Materialised
import PhoneticSearch.Proofs.Lexicon.Spelled
import PhoneticSearch.Proofs.Text.Utf8

/-!
# The entries of an exported dictionary

* `withHeadword`: the records of a headword.
* `Groups.Holds`: the invariant of the loop that gathers the records: the list of headwords and the
  map of records fit together and hold what was added.
* `NameOf`, `ShownAs`, `EntryFor`: what an entry says of its records.
* `parse_partition`: each record counts in one entry, which has the place of the first record with
  its headword.
-/

namespace PhoneticSearch.Export

/-- The records with a headword, in their order. -/
def withHeadword (records : List Record) (headword : String) : List Record :=
  records.filter fun record => record.headword == headword

/-- The headwords of records in the order of their first appearance. -/
def headwordsOf (records : List Record) : List String :=
  (records.map Record.headword).eraseDups

/-- The name of a language by its code: the last one that is given for the code. -/
inductive NameOf (languages : List Language) : Option String → String → Prop where
  | last {before after : List Language} {language : Language} :
      languages = before ++ language :: after → (∀ other ∈ after, other.code ≠ language.code) →
        NameOf languages (some language.code) language.name
  | unknown {code : String} : (∀ language ∈ languages, language.code ≠ code) →
      NameOf languages (some code) "?"
  | absent : NameOf languages none "?"

/-- The line of a record. -/
inductive LineOf (languages : List Language) (record : Record) : String → Prop where
  | mk {name : String} : NameOf languages record.language name →
      LineOf languages record
        (record.partOfSpeech.getD "" ++ ": " ++ record.entry.getD record.headword ++
          " (" ++ name ++ ")")

/-- The form that is shown for a headword: the first that differs from it. -/
inductive ShownAs (headword : String) (forms : List String) : String → Prop where
  | form {before after : List String} {form : String} : forms = before ++ form :: after →
      (∀ other ∈ before, other = headword) → form ≠ headword → ShownAs headword forms form
  | headword : (∀ form ∈ forms, form = headword) → ShownAs headword forms headword

/-- An entry of the records with its headword. -/
structure EntryFor (encoder : Encoder) (languages : List Language) (records : List Record)
    (entry : Entry) : Prop where
  text : ShownAs entry.headword (records.map fun record => record.entry.getD record.headword)
    entry.text
  definition : ∃ lines, List.Forall₂ (LineOf languages) records lines ∧
    entry.definition = some ("\n".intercalate lines)
  phones_eq : entry.phones = encoder.encode entry.headword

/-! ## Headwords and their records -/

theorem withHeadword_concat (records : List Record) (record : Record) (headword : String) :
    withHeadword (records ++ [record]) headword =
      withHeadword records headword ++ if record.headword = headword then [record] else [] := by
  rw [withHeadword, List.filter_append, ← withHeadword]
  by_cases h : record.headword = headword
  · simp [h]
  · simp [h]

theorem headwordsOf_concat (records : List Record) (record : Record) :
    headwordsOf (records ++ [record]) =
      headwordsOf records ++
        if record.headword ∈ records.map Record.headword then [] else [record.headword] := by
  rw [headwordsOf, List.map_append, List.map_singleton, List.eraseDups_append,
    List.cons_removeAll, ← headwordsOf]
  by_cases h : record.headword ∈ records.map Record.headword
  · rw [if_pos h, List.contains_iff_mem.mpr h]
    rfl
  · rw [if_neg h, Bool.eq_false_iff.mpr (mt List.contains_iff_mem.mp h)]
    rfl

theorem mem_headwordsOf {records : List Record} {headword : String} :
    headword ∈ headwordsOf records ↔ headword ∈ records.map Record.headword :=
  List.mem_eraseDups

theorem nodup_headwordsOf (records : List Record) : (headwordsOf records).Nodup := by
  induction records using List.reverseRecOn with
  | nil => exact List.nodup_nil
  | append_singleton records record ih =>
    rw [headwordsOf_concat]
    split
    · rwa [List.append_nil]
    · next hnew =>
      rw [← List.concat_eq_append]
      exact ih.concat (mt mem_headwordsOf.mp hnew)

theorem withHeadword_ne_nil {records : List Record} {headword : String}
    (h : headword ∈ headwordsOf records) : withHeadword records headword ≠ [] := by
  obtain ⟨record, hrecord, hsame⟩ := List.mem_map.mp (mem_headwordsOf.mp h)
  exact List.ne_nil_of_mem (List.mem_filter.mpr ⟨hrecord, beq_iff_eq.mpr hsame⟩)

/-- Records under distinct headwords, among them each of theirs, are the records in some order. -/
theorem flatMap_withHeadword_perm {headwords : List String} {records : List Record}
    (hnodup : headwords.Nodup) (hall : ∀ record ∈ records, record.headword ∈ headwords) :
    (headwords.flatMap (withHeadword records)).Perm records := by
  induction headwords generalizing records with
  | nil =>
    cases records with
    | nil => exact .nil
    | cons record records => cases hall record List.mem_cons_self
  | cons headword others ih =>
    obtain ⟨hnew, hothers⟩ := List.nodup_cons.mp hnodup
    let rest := records.filter fun record => !(record.headword == headword)
    have hrest : others.flatMap (withHeadword records) = others.flatMap (withHeadword rest) := by
      apply List.flatMap_congr
      intro other hother
      rw [withHeadword, withHeadword, List.filter_filter]
      apply List.filter_congr
      intro record _
      by_cases hsame : record.headword = other
      · have hne : other ≠ headword := fun heq => hnew (heq ▸ hother)
        simp [hsame, hne]
      · simp [hsame]
    have hcovered : ∀ record ∈ rest, record.headword ∈ others := by
      intro record hrecord
      obtain ⟨hmem, hne⟩ := List.mem_filter.mp hrecord
      obtain heq | hother := List.mem_cons.mp (hall record hmem)
      · simp [heq] at hne
      · exact hother
    rw [List.flatMap_cons, hrest]
    exact ((ih hothers hcovered).append_left _).trans (List.filter_append_perm _ _)

/-! ## Gathering the records -/

namespace Groups

/-- What the loop has after some records. -/
structure Holds (given : List Record) (groups : Groups) : Prop where
  order_eq : groups.order.toList = headwordsOf given
  mem_iff : ∀ headword, headword ∈ groups.records ↔ headword ∈ given.map Record.headword
  getD_eq : ∀ headword, (groups.records.getD headword #[]).toList = withHeadword given headword

theorem order_add (groups : Groups) (record : Record) :
    (groups.add record).order =
      if groups.records.contains record.headword then groups.order
      else groups.order.push record.headword := rfl

theorem records_add (groups : Groups) (record : Record) :
    (groups.add record).records =
      groups.records.alter record.headword fun found => some ((found.getD #[]).push record) := rfl

theorem holds_empty : Holds [] empty where
  order_eq := rfl
  mem_iff headword := by simp [empty]
  getD_eq headword := by simp [empty, withHeadword]

/-- Each record preserves the invariant. -/
theorem Holds.add {given : List Record} {groups : Groups} (h : groups.Holds given)
    (record : Record) : (groups.add record).Holds (given ++ [record]) where
  order_eq := by
    rw [headwordsOf_concat, order_add]
    by_cases hold : record.headword ∈ given.map Record.headword
    · have hcontains : groups.records.contains record.headword = true :=
        Std.HashMap.mem_iff_contains.mp ((h.mem_iff _).mpr hold)
      rw [if_pos hold, if_pos hcontains, List.append_nil, h.order_eq]
    · have hcontains : ¬ groups.records.contains record.headword = true :=
        mt Std.HashMap.mem_iff_contains.mpr (mt (h.mem_iff _).mp hold)
      rw [if_neg hold, if_neg hcontains, Array.toList_push, h.order_eq]
  mem_iff headword := by
    rw [records_add, Std.HashMap.mem_alter, h.mem_iff, List.map_append, List.mem_append]
    by_cases hsame : record.headword = headword
    · simp [hsame]
    · simp [hsame, Ne.symm hsame]
  getD_eq headword := by
    rw [withHeadword_concat, ← h.getD_eq, records_add, Std.HashMap.getD_alter]
    by_cases hsame : record.headword = headword
    · simp [hsame, Std.HashMap.getD_eq_getD_getElem?]
    · simp [hsame]

theorem holds_ofRecords (given : List Record) : (ofRecords given).Holds given := by
  induction given using List.reverseRecOn with
  | nil => exact holds_empty
  | append_singleton given record ih =>
    rw [ofRecords, List.foldl_append]
    exact ih.add record

theorem Holds.toList_eq {given : List Record} {groups : Groups} (h : groups.Holds given) :
    groups.toList =
      (headwordsOf given).map fun headword => (headword, withHeadword given headword) := by
  rw [← h.order_eq, ← List.attach_map_val, toList]
  apply List.map_congr_left
  rintro ⟨headword, hmem⟩ -
  show (headword, (groups.records.get headword _).toList) = (headword, withHeadword given headword)
  rw [← h.getD_eq, Std.HashMap.get_eq_getElem, Std.HashMap.getElem_eq_getD]

end Groups
/-! ## What an entry says -/

theorem getElem?_namesByCode (languages : List Language) (code : String) :
    (namesByCode languages)[code]? =
      (languages.reverse.find? fun language => language.code == code).map Language.name := by
  induction languages using List.reverseRecOn with
  | nil => simp [namesByCode]
  | append_singleton languages language ih =>
    rw [List.reverse_concat, List.find?_cons, namesByCode, List.foldl_append, ← namesByCode]
    show ((namesByCode languages).insert language.code language.name)[code]? = _
    rw [Std.HashMap.getElem?_insert, ih]
    cases language.code == code with
    | true => rfl
    | false => rfl

theorem nameOf_languageName (languages : List Language) (code : Option String) :
    NameOf languages code (languageName (namesByCode languages) code) := by
  cases code with
  | none => exact .absent
  | some code =>
    rw [languageName, Option.bind_some, getElem?_namesByCode]
    cases hfound : languages.reverse.find? fun language => language.code == code with
    | none =>
      refine .unknown ?_
      intro language hmem hcode
      have hnot := List.find?_eq_none.mp hfound language (List.mem_reverse.mpr hmem)
      exact hnot (beq_iff_eq.mpr hcode)
    | some language =>
      obtain ⟨hcode, after, before, hsplit, hafter⟩ := List.find?_eq_some_iff_append.mp hfound
      obtain rfl : language.code = code := beq_iff_eq.mp hcode
      have hlanguages : languages = before.reverse ++ language :: after.reverse := by
        rw [← List.reverse_reverse languages, hsplit]
        simp
      refine .last hlanguages ?_
      intro other hother
      simpa using hafter other (List.mem_reverse.mp hother)

theorem lineOf_definitionLine (languages : List Language) (record : Record) :
    LineOf languages record (definitionLine (namesByCode languages) record) :=
  .mk (nameOf_languageName languages record.language)

theorem shownAs_find? (headword : String) (forms : List String) :
    ShownAs headword forms ((forms.find? (· ≠ headword)).getD headword) := by
  cases hfound : forms.find? (· ≠ headword) with
  | none =>
    refine .headword ?_
    intro form hmem
    simpa using List.find?_eq_none.mp hfound form hmem
  | some form =>
    obtain ⟨hne, before, after, hsplit, hbefore⟩ := List.find?_eq_some_iff_append.mp hfound
    refine .form hsplit ?_ (of_decide_eq_true hne)
    intro other hother
    simpa using hbefore other hother

theorem LineOf.ne_empty {languages : List Language} {record : Record} {line : String}
    (h : LineOf languages record line) : line ≠ "" := by
  cases h
  intro hempty
  have hlength := congrArg String.length hempty
  simp at hlength

theorem intercalate_ne_empty {line : String} (h : line ≠ "") (lines : List String) :
    "\n".intercalate (line :: lines) ≠ "" := by
  intro hempty
  have hlength := congrArg String.length hempty
  cases lines with
  | nil => exact h (by simpa using hempty)
  | cons next lines => simp at hlength

theorem entryFor_entryOf (encoder : Encoder) (languages : List Language) (headword : String)
    {records : List Record} (h : records ≠ []) :
    EntryFor encoder languages records
      (entryOf encoder (namesByCode languages) headword records) where
  text := shownAs_find? headword _
  definition := by
    refine ⟨records.map (definitionLine (namesByCode languages)), ?_, ?_⟩
    · exact List.forall₂_map_right_iff.mpr
        (List.forall₂_same.mpr fun record _ => lineOf_definitionLine languages record)
    · cases records with
      | nil => exact absurd rfl h
      | cons record records =>
        have hne := intercalate_ne_empty (lineOf_definitionLine languages record).ne_empty
          (records.map (definitionLine (namesByCode languages)))
        simp [entryOf, Entry.withDefinition, hne]
  phones_eq := rfl

/-! ## The entries of a document -/

theorem takeLimit_map {α β : Type} (f : α → β) (limit : Option Nat) (items : List α) :
    takeLimit limit (items.map f) = (takeLimit limit items).map f := by
  cases limit with
  | none => rfl
  | some count => exact List.map_take.symm

theorem takeLimit_sublist {α : Type} (limit : Option Nat) (items : List α) :
    (takeLimit limit items).Sublist items := by
  cases limit with
  | none => exact .refl _
  | some count => exact List.take_sublist count items

theorem entries_eq (encoder : Encoder) (limit : Option Nat) (document : Document) :
    entries encoder limit document =
      (takeLimit limit (headwordsOf document.records)).map fun headword =>
        entryOf encoder (namesByCode document.languages) headword
          (withHeadword document.records headword) := by
  rw [entries, (Groups.holds_ofRecords document.records).toList_eq, takeLimit_map, List.map_map]
  rfl

theorem map_headword_entries (encoder : Encoder) (limit : Option Nat) (document : Document) :
    (entries encoder limit document).map Entry.headword =
      takeLimit limit (headwordsOf document.records) := by
  rw [entries_eq, List.map_map]
  exact List.map_id _

/-- Within a limit too, an entry has all records of its headword. -/
theorem entryFor_of_mem_entries {encoder : Encoder} {limit : Option Nat} {document : Document}
    {entry : Entry} (h : entry ∈ entries encoder limit document) :
    EntryFor encoder document.languages (withHeadword document.records entry.headword) entry := by
  rw [entries_eq] at h
  obtain ⟨headword, hheadword, rfl⟩ := List.mem_map.mp h
  exact entryFor_entryOf encoder document.languages headword
    (withHeadword_ne_nil ((takeLimit_sublist limit _).subset hheadword))

theorem parse_of_read {text : String} {document : Document}
    (h : Document.decoder.read text = .ok document) (encoder : Encoder) (limit : Option Nat) :
    parse encoder limit text = .ok (entries encoder limit document) := by
  rw [parse, h]
  rfl

/-- The headwords of the entries are those of the records, each where it first appears. An entry has
a line for each record of its headword, so that each record counts in one entry. A lexicon holds
these entries and has no problems. -/
theorem parse_partition (encoder : Encoder) {text : String} {document : Document}
    (h : Document.decoder.read text = .ok document) :
    ∃ found : List Entry, parse encoder none text = .ok found ∧
      found.map Entry.headword = (document.records.map Record.headword).eraseDups ∧
      (found.map Entry.headword).Nodup ∧
      (∀ entry ∈ found, EntryFor encoder document.languages
        (withHeadword document.records entry.headword) entry) ∧
      (found.flatMap fun entry => withHeadword document.records entry.headword).Perm
        document.records ∧
      ∀ (name : String) (files : Files) (path : String), files.readLossy path = .ok text →
        let lexicon := Lexicon.ofSource name encoder files (.file .exported path none)
        lexicon.entries = found ∧ lexicon.problems = [] := by
  have hheadwords : (entries encoder none document).map Entry.headword =
      headwordsOf document.records := map_headword_entries encoder none document
  have hnodup : ((entries encoder none document).map Entry.headword).Nodup := by
    rw [hheadwords]
    exact nodup_headwordsOf document.records
  refine ⟨entries encoder none document, parse_of_read h encoder none, hheadwords, hnodup,
    fun entry hentry => entryFor_of_mem_entries hentry, ?_, ?_⟩
  · have hall : ∀ record ∈ document.records,
        record.headword ∈ (entries encoder none document).map Entry.headword := by
      intro record hrecord
      rw [hheadwords, mem_headwordsOf]
      exact List.mem_map_of_mem hrecord
    have hperm := flatMap_withHeadword_perm hnodup hall
    rwa [List.flatMap_map] at hperm
  · intro name files path hread lexicon
    have hparse : Format.exported.parse encoder none text =
        .ok ⟨entries encoder none document, []⟩ := by
      rw [Format.parse, parse_of_read h]
      rfl
    have hcontents : lexicon.contents.get =
        Contents.ofLoad name (.ok ⟨entries encoder none document, []⟩) := by
      show Contents.ofLoad name ((Source.file .exported path none).load files encoder) = _
      rw [Source.load_file_of_parse hread hparse]
    rw [Lexicon.entries, Lexicon.problems, hcontents]
    exact Contents.ofLoad_of_nodup name hnodup

/-! ## A document with a repeated headword -/

namespace Glossary

def text : String :=
  "\x7b\"languages\":[\x7b\"code\":\"rom\",\"name\":\"Romani\"\x7d],\"entries\":[" ++
    "\x7b\"lemma\":\"pani\",\"srcLangCode\":\"rom\"\x7d,\x7b\"lemma\":\"kalo\"\x7d," ++
      "\x7b\"lemma\":\"pani\",\"entry\":\"panya\"\x7d]\x7d"

def document : Document where
  languages := [⟨"rom", "Romani"⟩]
  records := [⟨"pani", none, none, some "rom"⟩, ⟨"kalo", none, none, none⟩,
    ⟨"pani", some "panya", none, none⟩]

def files : Files := ⟨fun _ => .ok (Utf8.ascii text)⟩

theorem read_text : Document.decoder.read text = .ok document := by cbv

theorem readLossy_files : files.readLossy "glossary.json" = .ok text :=
  Files.readLossy_ascii (by decide +kernel) rfl

end Glossary

theorem parse_partition_glossary :
    let features := FeatureSet.ofGroups "features" ["voice"] 1 (-1) none
    let encoder := Encoder.ofEncoding (Encoding.ofPatterns "letters" features [])
    let lexicon :=
      Lexicon.ofSource "words" encoder Glossary.files (.file .exported "glossary.json" none)
    Document.decoder.read Glossary.text = .ok Glossary.document ∧
      Glossary.files.readLossy "glossary.json" = .ok Glossary.text ∧
      ∃ found : List Entry, parse encoder none Glossary.text = .ok found ∧
        found.map Entry.headword = ["pani", "kalo"] ∧
        (∀ entry ∈ found, EntryFor encoder Glossary.document.languages
          (withHeadword Glossary.document.records entry.headword) entry) ∧
        lexicon.entries = found ∧ lexicon.problems = [] := by
  intro features encoder lexicon
  obtain ⟨found, hparse, hheadwords, -, hfor, -, hlexicon⟩ :=
    parse_partition encoder Glossary.read_text
  refine ⟨Glossary.read_text, Glossary.readLossy_files, found, hparse, ?_, hfor,
    hlexicon "words" Glossary.files "glossary.json" Glossary.readLossy_files⟩
  rw [hheadwords]
  decide

end PhoneticSearch.Export

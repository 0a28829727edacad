import PhoneticSearch.Json.Record
import PhoneticSearch.Lexicon.Entry
import Std.Data.HashMap

/-!
# Exported dictionaries

A JSON document of records, several of which may share a headword, and of languages by code.

* `Export.Document`: the document, read by `Document.decoder`.
* `Export.Groups`: records under their headwords, gathered one record after the other.
* `Export.entries`: one entry for each headword, in the order in which the headwords first appear;
  its definition has one line for each record.
-/

namespace PhoneticSearch.Export

structure Language where
  code : String
  name : String
deriving DecidableEq

structure Record where
  headword : String
  /-- The form of the headword in a language. -/
  entry : Option String
  partOfSpeech : Option String
  language : Option String
deriving DecidableEq

structure Document where
  languages : List Language
  records : List Record
deriving DecidableEq

open Json Json.Fields Json.Decoder

def Language.decoder : Decoder Language :=
  openRecord "ExportLanguage" ["code", "name"] <|
    Language.mk <$> required "code" text <*> required "name" text

def Record.decoder : Decoder Record :=
  openRecord "ExportRecord" ["lemma", "entry", "partOfSpeech", "srcLangCode"] <|
    Record.mk <$> required "lemma" text <*> optional "entry" text <*>
      optional "partOfSpeech" text <*> optional "srcLangCode" text

def Document.decoder : Decoder Document :=
  openRecord "ExportDocument" ["languages", "entries"] <|
    Document.mk <$> withDefault "languages" [] (listOf Language.decoder) <*>
      withDefault "entries" [] (listOf Record.decoder)

def Record.form (record : Record) : String := record.entry.getD record.headword

/-- The names of languages by code; a later language takes the place of an earlier one. -/
def namesByCode (languages : List Language) : Std.HashMap String String :=
  languages.foldl (fun names language => names.insert language.code language.name) ∅

def languageName (names : Std.HashMap String String) (code : Option String) : String :=
  (code.bind fun code => names[code]?).getD "?"

def definitionLine (names : Std.HashMap String String) (record : Record) : String :=
  let part := record.partOfSpeech.getD ""
  let form := record.form
  let language := languageName names record.language
  s!"{part}: {form} ({language})"

/-- Records under their headwords. -/
structure Groups where
  /-- The headwords in the order in which they first appeared. -/
  order : Array String
  records : Std.HashMap String (Array Record)
  mem_records : ∀ headword ∈ order, headword ∈ records

namespace Groups

def empty : Groups := ⟨#[], ∅, by simp⟩

def add (groups : Groups) (record : Record) : Groups where
  order :=
    if groups.records.contains record.headword then groups.order
    else groups.order.push record.headword
  records :=
    groups.records.alter record.headword fun found => some ((found.getD #[]).push record)
  mem_records := by
    intro headword h
    rw [Std.HashMap.mem_alter]
    by_cases hsame : record.headword = headword
    · simp [hsame]
    · split at h
      · simpa [hsame] using groups.mem_records headword h
      · obtain h | rfl := Array.mem_push.mp h
        · simpa [hsame] using groups.mem_records headword h
        · exact absurd rfl hsame

def ofRecords (records : List Record) : Groups := records.foldl add empty

/-- Each headword with its records. -/
def toList (groups : Groups) : List (String × List Record) :=
  groups.order.toList.attach.map fun ⟨headword, h⟩ =>
    (headword,
      (groups.records.get headword (groups.mem_records headword (Array.mem_toList_iff.mp h))).toList)

end Groups

def entryOf (encoder : Encoder) (names : Std.HashMap String String) (headword : String)
    (records : List Record) : Entry :=
  let forms := records.map Record.form
  ((Entry.encoded encoder headword headword).withText
      ((forms.find? (· ≠ headword)).getD headword)).withDefinition
    ("\n".intercalate (records.map (definitionLine names)))

/-- The entries of a document; a limit counts headwords. -/
def entries (encoder : Encoder) (limit : Option Nat) (document : Document) : List Entry :=
  let names := namesByCode document.languages
  (takeLimit limit (Groups.ofRecords document.records).toList).map fun (headword, records) =>
    entryOf encoder names headword records

def parse (encoder : Encoder) (limit : Option Nat) (text : String) :
    Except Json.Fault (List Entry) :=
  (Document.decoder.read text).map (entries encoder limit)

end PhoneticSearch.Export

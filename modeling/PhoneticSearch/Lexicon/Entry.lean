import PhoneticSearch.Encoding.Encoder

/-!
# Lexicon entries
-/

namespace PhoneticSearch

structure Entry where
  headword : String
  /-- The form in which the entry is shown. -/
  text : String
  definition : Option String
  phones : List Phone

namespace Entry

/-- The entry that is shown as its headword and has no definition. -/
def ofPhones (headword : String) (phones : List Phone) : Entry := ⟨headword, headword, none, phones⟩

def encoded (encoder : Encoder) (headword spelling : String) : Entry :=
  ofPhones headword (encoder.encode spelling)

def withText (entry : Entry) (text : String) : Entry := { entry with text }

/-- The entry with a definition; an empty text is none. -/
def withDefinition (entry : Entry) (definition : String) : Entry :=
  { entry with definition := (some definition).filter (· ≠ "") }

end Entry

structure Parsed where
  entries : List Entry
  issues : List Issue

def takeLimit {α : Type} (limit : Option Nat) (items : List α) : List α :=
  match limit with
  | some count => items.take count
  | none => items

end PhoneticSearch

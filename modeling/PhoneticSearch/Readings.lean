import PhoneticSearch.Lexicon.Entry
import PhoneticSearch.Settings.Basic
import Std.Data.HashMap

/-!
# Curated readings

A table of readings, looked up by exact token.

* `ReadingTable.insert`, `ReadingTable.lookup`: the readings of a token, in the order in which they
  were given.
* `ReadingTable.ofSettings`: the table of a configuration record.
-/

namespace PhoneticSearch

structure Reading where
  group : Option String
  entry : Entry

structure ReadingTable where
  name : String
  byToken : Std.HashMap String (Array Reading)
  /-- The number of readings, counted as they are given. -/
  size : Nat

namespace ReadingTable

def empty (name : String) : ReadingTable := ⟨name, ∅, 0⟩

def insert (table : ReadingTable) (token : String) (reading : Reading) : ReadingTable where
  name := table.name
  byToken := table.byToken.alter token fun found => some ((found.getD #[]).push reading)
  size := table.size + 1

def lookup (table : ReadingTable) (token : String) : List Reading :=
  (table.byToken.getD token #[]).toList

def isEmpty (table : ReadingTable) : Bool := table.size == 0

@[simp]
theorem lookup_empty (name token : String) : (empty name).lookup token = [] := by
  simp [lookup, empty]

/-- A reading comes after those that its token already has. -/
theorem lookup_insert (table : ReadingTable) (input token : String) (reading : Reading) :
    (table.insert input reading).lookup token =
      table.lookup token ++ if input == token then [reading] else [] := by
  rw [lookup, insert, Std.HashMap.getD_alter]
  by_cases h : input = token
  · simp [h, lookup, Std.HashMap.getD_eq_getD_getElem?]
  · simp [h, lookup]

@[simp]
theorem size_insert (table : ReadingTable) (input : String) (reading : Reading) :
    (table.insert input reading).size = table.size + 1 := rfl

@[simp]
theorem name_insert (table : ReadingTable) (input : String) (reading : Reading) :
    (table.insert input reading).name = table.name := rfl

open Settings

/-- The entry that a reading proposes; without an encoder it has no phones. -/
def entryOf (encoder : Option Encoder) (settings : ReadingSettings) : Entry :=
  let phones :=
    match encoder with
    | some encoder => encoder.encode settings.headword
    | none => []
  let entry := Entry.ofPhones settings.headword phones
  match settings.definition with
  | some definition => entry.withDefinition definition
  | none => entry

/-- The table with an item of a group, under each token that the item is given for. -/
def addItem (encoder : Option Encoder) (group : Option String) (table : ReadingTable)
    (item : ReadingSettings) : ReadingTable :=
  let entry := entryOf encoder item
  item.input.tokens.foldl (fun table token => table.insert token ⟨group, entry⟩) table

def addGroup (encoder : Option Encoder) (table : ReadingTable) (group : ReadingGroupSettings) :
    ReadingTable :=
  group.entries.foldl (addItem encoder group.name) table

def ofSettings (encoder : Option Encoder) (settings : ReadingTableSettings) : ReadingTable :=
  settings.groups.foldl (addGroup encoder) (empty settings.id)

end ReadingTable

end PhoneticSearch

import Mathlib.Algebra.BigOperators.Group.Finset.Basic
import PhoneticSearch.Readings

/-!
# What a table of readings holds

* `ReadingTable.insertAll`, `ReadingTable.ofSettings_eq`: a table is made by giving it its readings
  one after the other.
* `ReadingTable.Holds`: the invariant of this loop: what is found by a token, and the number of
  readings, are those of what was given.
* `ReadingTable.triples`, `ReadingTable.proposal`: what a record gives, in words of the record alone.
* `ReadingTable.mem_readings`: the readings of a table are those found in it.
* `ReadingTable.ofSettings_insertAll_lists`: the readings of a record and any given later.
-/

namespace PhoneticSearch.ReadingTable

open Settings

/-- The readings that are given for a token, in their order. -/
def givenFor (given : List (String × Reading)) (token : String) : List Reading :=
  (given.filter fun pair => pair.1 == token).map Prod.snd

theorem givenFor_concat (given : List (String × Reading)) (input token : String)
    (reading : Reading) :
    givenFor (given ++ [(input, reading)]) token =
      givenFor given token ++ if input == token then [reading] else [] := by
  rw [givenFor, List.filter_append, List.map_append, ← givenFor]
  by_cases h : input = token
  · simp [h]
  · simp [h]

theorem mem_givenFor {given : List (String × Reading)} {token : String} {reading : Reading} :
    reading ∈ givenFor given token ↔ (token, reading) ∈ given := by
  simp [givenFor]

theorem length_givenFor (given : List (String × Reading)) (token : String) :
    (givenFor given token).length = (given.map Prod.fst).count token := by
  rw [givenFor, List.length_map, List.count_eq_length_filter, List.filter_map, List.length_map]
  rfl

/-! ## Giving readings to a table -/

/-- What a table holds after some readings were given to it. -/
structure Holds (given : List (String × Reading)) (table : ReadingTable) : Prop where
  lookup_eq : ∀ token, table.lookup token = givenFor given token
  size_eq : table.size = given.length

theorem holds_empty (name : String) : Holds [] (empty name) := ⟨lookup_empty name, rfl⟩

/-- Each reading preserves the invariant. -/
theorem Holds.insert {given : List (String × Reading)} {table : ReadingTable}
    (h : table.Holds given) (token : String) (reading : Reading) :
    (table.insert token reading).Holds (given ++ [(token, reading)]) where
  lookup_eq other := by rw [lookup_insert, h.lookup_eq, givenFor_concat]
  size_eq := by rw [size_insert, h.size_eq, List.length_append, List.length_singleton]

/-- The table with more readings, one after the other. -/
def insertAll (table : ReadingTable) (given : List (String × Reading)) : ReadingTable :=
  given.foldl (fun table pair => table.insert pair.1 pair.2) table

theorem Holds.insertAll {given : List (String × Reading)} {table : ReadingTable}
    (h : table.Holds given) (more : List (String × Reading)) :
    (table.insertAll more).Holds (given ++ more) := by
  induction more generalizing given table with
  | nil => rwa [List.append_nil]
  | cons pair more ih =>
    have hmore := ih (h.insert pair.1 pair.2)
    rwa [List.append_assoc] at hmore

theorem name_insertAll (table : ReadingTable) (given : List (String × Reading)) :
    (table.insertAll given).name = table.name := by
  induction given generalizing table with
  | nil => rfl
  | cons pair given ih =>
    exact (ih (table.insert pair.1 pair.2)).trans (name_insert table pair.1 pair.2)

/-! ## The readings of a record -/

/-- The tokens that an item is given for: one by itself, or each of a list. -/
def tokensOf : ReadingSettings → List String
  | ⟨.one token, _, _⟩ => [token]
  | ⟨.many tokens, _, _⟩ => tokens

/-- The groups of a record, each with its items, each with the tokens that it is given for. -/
def triples (settings : ReadingTableSettings) :
    List (ReadingGroupSettings × ReadingSettings × String) :=
  settings.groups.flatMap fun group =>
    group.entries.flatMap fun item => (tokensOf item).map fun token => (group, item, token)

/-- The reading that an item of a group proposes. -/
def proposal (encoder : Option Encoder) (group : ReadingGroupSettings) (item : ReadingSettings) :
    Reading where
  group := group.name
  entry :=
    { headword := item.headword
      text := item.headword
      definition := item.definition.filter (· ≠ "")
      phones := (encoder.map fun encoder => encoder.encode item.headword).getD [] }

/-- What a record gives to its table. -/
def proposals (encoder : Option Encoder) (settings : ReadingTableSettings) :
    List (String × Reading) :=
  (triples settings).map fun (group, item, token) => (token, proposal encoder group item)

theorem tokens_input (item : ReadingSettings) : item.input.tokens = tokensOf item := by
  obtain ⟨input, headword, definition⟩ := item
  cases input with
  | one token => rfl
  | many tokens => rfl

theorem entryOf_eq (encoder : Option Encoder) (group : ReadingGroupSettings)
    (item : ReadingSettings) : entryOf encoder item = (proposal encoder group item).entry := by
  cases hdefinition : item.definition with
  | none => cases encoder <;> simp [entryOf, proposal, hdefinition, Entry.ofPhones]
  | some definition =>
    cases encoder <;>
      simp [entryOf, proposal, hdefinition, Entry.ofPhones, Entry.withDefinition]

theorem addItem_eq (encoder : Option Encoder) (group : ReadingGroupSettings) (table : ReadingTable)
    (item : ReadingSettings) :
    addItem encoder group.name table item =
      table.insertAll ((tokensOf item).map fun token => (token, proposal encoder group item)) := by
  rw [insertAll, List.foldl_map, addItem, entryOf_eq encoder group, tokens_input]
  rfl

theorem addGroup_eq (encoder : Option Encoder) (table : ReadingTable)
    (group : ReadingGroupSettings) :
    addGroup encoder table group =
      table.insertAll (group.entries.flatMap fun item =>
        (tokensOf item).map fun token => (token, proposal encoder group item)) := by
  rw [insertAll, List.foldl_flatMap, addGroup]
  exact List.foldl_ext _ _ _ fun table item _ => addItem_eq encoder group table item

/-- The three loops over groups, items and tokens are one over the triples. -/
theorem ofSettings_eq (encoder : Option Encoder) (settings : ReadingTableSettings) :
    ofSettings encoder settings = (empty settings.id).insertAll (proposals encoder settings) := by
  simp only [proposals, triples, List.map_flatMap, List.map_map]
  rw [insertAll, List.foldl_flatMap, ofSettings]
  exact List.foldl_ext _ _ _ fun table group _ => addGroup_eq encoder table group

theorem holds_ofSettings (encoder : Option Encoder) (settings : ReadingTableSettings) :
    (ofSettings encoder settings).Holds (proposals encoder settings) := by
  rw [ofSettings_eq]
  exact (holds_empty settings.id).insertAll _

theorem name_ofSettings (encoder : Option Encoder) (settings : ReadingTableSettings) :
    (ofSettings encoder settings).name = settings.id := by
  rw [ofSettings_eq, name_insertAll]
  rfl

/-! ## All readings of a table -/

/-- All readings with their tokens, those of a token together. -/
def readings (table : ReadingTable) : List (String × Reading) :=
  table.byToken.toList.flatMap fun (token, found) =>
    found.toList.map fun reading => (token, reading)

theorem mem_readings {table : ReadingTable} {token : String} {reading : Reading} :
    (token, reading) ∈ table.readings ↔ reading ∈ table.lookup token := by
  simp only [readings, List.mem_flatMap, List.mem_map, Prod.mk.injEq]
  rw [lookup, Std.HashMap.getD_eq_getD_getElem?]
  constructor
  · rintro ⟨⟨input, found⟩, hfound, other, hother, rfl, rfl⟩
    rw [Std.HashMap.mem_toList_iff_getElem?_eq_some.mp hfound]
    exact hother
  · intro h
    cases hfound : table.byToken[token]? with
    | none => simp [hfound] at h
    | some found =>
      rw [hfound] at h
      exact ⟨(token, found), Std.HashMap.mem_toList_iff_getElem?_eq_some.mpr hfound, reading, h,
        rfl, rfl⟩

theorem mem_readings_ofSettings {encoder : Option Encoder} {settings : ReadingTableSettings}
    {token : String} {reading : Reading} :
    (token, reading) ∈ (ofSettings encoder settings).readings ↔
      (token, reading) ∈ proposals encoder settings := by
  rw [mem_readings, (holds_ofSettings encoder settings).lookup_eq, mem_givenFor]

/-! ## Counting the readings -/

/-- A table that counts no reading finds none. -/
theorem Holds.isEmpty_iff {given : List (String × Reading)} {table : ReadingTable}
    (h : table.Holds given) : table.isEmpty = true ↔ ∀ token, table.lookup token = [] := by
  rw [isEmpty, beq_iff_eq, h.size_eq, List.length_eq_zero_iff]
  constructor
  · rintro rfl token
    exact h.lookup_eq token
  · intro hnone
    rw [List.eq_nil_iff_forall_not_mem]
    rintro ⟨token, reading⟩ hmem
    rw [← mem_givenFor, ← h.lookup_eq, hnone] at hmem
    cases hmem

/-- Each reading is counted for the token that it was given for. -/
theorem Holds.size_eq_sum {given : List (String × Reading)} {table : ReadingTable}
    (h : table.Holds given) :
    table.size = ∑ token ∈ (given.map Prod.fst).toFinset, (table.lookup token).length := by
  simp only [h.lookup_eq, length_givenFor]
  rw [List.sum_toFinset_count_eq_length, List.length_map, h.size_eq]

/-- A table made of a record, with any readings given to it later, finds for a token the readings
that were given for just this token, those of the record first, each as often and in the order in
which they were given. It counts them all, and it is empty just if nothing is found in it. -/
theorem ofSettings_insertAll_lists (encoder : Option Encoder) (settings : ReadingTableSettings)
    (later : List (String × Reading)) :
    let table := (ofSettings encoder settings).insertAll later
    let given := (triples settings).map
      (fun (group, item, token) => (token, proposal encoder group item)) ++ later
    (∀ token, table.lookup token = (given.filter fun pair => pair.1 == token).map Prod.snd) ∧
      table.size = (triples settings).length + later.length ∧
      table.size = ∑ token ∈ (given.map Prod.fst).toFinset, (table.lookup token).length ∧
      (table.isEmpty = true ↔ ∀ token, table.lookup token = []) := by
  intro table given
  have hholds : table.Holds given := (holds_ofSettings encoder settings).insertAll later
  refine ⟨hholds.lookup_eq, ?_, hholds.size_eq_sum, hholds.isEmpty_iff⟩
  rw [hholds.size_eq, List.length_append, List.length_map]

/-- A group that lists a token twice for one item, and a group without a name. -/
def repeated : ReadingTableSettings where
  id := "readings"
  encoding := none
  groups :=
    [⟨some "gallows", [⟨.many ["daiin", "dain", "daiin"], "dayin", some "give"⟩,
      ⟨.one "qokedy", "kokedi", none⟩]⟩, ⟨none, [⟨.one "daiin", "dain", none⟩]⟩]

/-- The readings of `repeated` with one more for `dain`, which comes last there. -/
theorem ofSettings_insertAll_lists_repeated :
    let later : Reading := ⟨none, .ofPhones "den" [[1]]⟩
    let table := (ofSettings none repeated).insertAll [("dain", later)]
    let given : Reading := ⟨some "gallows", ⟨"dayin", "dayin", some "give", []⟩⟩
    table.lookup "daiin" = [given, given, ⟨none, ⟨"dain", "dain", none, []⟩⟩] ∧
      table.lookup "dain" = [given, later] ∧
      table.lookup "qokedy" = [⟨some "gallows", ⟨"kokedi", "kokedi", none, []⟩⟩] ∧
      table.lookup "Daiin" = [] ∧ table.size = 6 ∧ table.isEmpty = false := by
  intro later table given
  obtain ⟨hlookup, hsize, -, hempty⟩ :=
    ofSettings_insertAll_lists none repeated [("dain", later)]
  have hdain : table.lookup "dain" = [given, later] := hlookup "dain"
  refine ⟨hlookup "daiin", hdain, hlookup "qokedy", hlookup "Daiin", hsize, ?_⟩
  rw [Bool.eq_false_iff, ne_eq, hempty]
  intro hnone
  rw [hnone "dain"] at hdain
  cases hdain

end PhoneticSearch.ReadingTable

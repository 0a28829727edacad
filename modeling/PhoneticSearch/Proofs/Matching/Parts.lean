import PhoneticSearch.Proofs.Lexicon.Materialised
import PhoneticSearch.Proofs.Matching.Nearest

/-!
# The two parts of an answer

An answer has curated readings and ranked entries. They share the query and how it is compared, and
nothing else.

* `curatedPart`, `rankedPart`: the candidates of an answer by their origin.
* `Selection.length_foldl_offer_le`, `Selection.mem_or_mem_of_mem_foldl_offer`: however many items
  are offered, no more than asked for are kept, and none that was not offered.
* `Matcher.rank_parts`: the curated part is what the table of readings says, the ranked part comes
  from the lexicons, and neither changes with what only the other one depends on.
-/

namespace PhoneticSearch

def curatedPart (answer : List Candidate) : List Candidate :=
  answer.filter fun candidate => candidate.origin.isCurated

def rankedPart (answer : List Candidate) : List Candidate :=
  answer.filter fun candidate => !candidate.origin.isCurated

namespace Selection

variable {α : Type} {count : Nat} {selection : Selection α}

theorem length_offer_le (h : selection.kept.length ≤ count) (ranked : Ranked α) :
    (selection.offer count ranked).kept.length ≤ count := by
  unfold offer
  split
  · exact List.length_take_le _ _
  · exact h

theorem length_foldl_offer_le (h : selection.kept.length ≤ count) (items : List (Ranked α)) :
    (items.foldl (offer count) selection).kept.length ≤ count := by
  induction items generalizing selection with
  | nil => exact h
  | cons ranked rest ih => exact ih (length_offer_le h ranked)

theorem mem_or_eq_of_mem_offer {ranked found : Ranked α}
    (h : found ∈ (selection.offer count ranked).kept) : found ∈ selection.kept ∨ found = ranked := by
  unfold offer at h
  split at h
  · rw [← List.mem_singleton, ← List.mem_append]
    exact List.mem_mergeSort.mp (List.mem_of_mem_take h)
  · exact .inl h

theorem mem_or_mem_of_mem_foldl_offer {items : List (Ranked α)} {found : Ranked α}
    (h : found ∈ (items.foldl (offer count) selection).kept) :
    found ∈ selection.kept ∨ found ∈ items := by
  induction items generalizing selection with
  | nil => exact .inl h
  | cons ranked rest ih =>
    rcases ih h with h | h
    · rcases mem_or_eq_of_mem_offer h with h | rfl
      · exact .inl h
      · exact .inr List.mem_cons_self
    · exact .inr (List.mem_cons_of_mem _ h)

end Selection

namespace Matcher

variable (matcher : Matcher)

theorem query_eq_elim (phones : List Phone) :
    matcher.query phones =
      matcher.expansion.elim phones fun expansion => expansion.expand phones := by
  rw [query]
  cases matcher.expansion with
  | none => rfl
  | some expansion => rfl

theorem curated_eq_elim (token : String) (query : List Phone) :
    matcher.curated token query =
      matcher.readings.elim [] fun table =>
        (table.lookup token).map fun reading =>
          { origin := .readings table.name
            entry := reading.entry
            distance :=
              if query ≠ [] ∧ reading.entry.phones ≠ [] then
                some (sequenceDistance query reading.entry.phones phoneDistance matcher.tolerance)
              else none } := by
  rw [curated]
  cases matcher.readings with
  | none => rfl
  | some table =>
    refine List.map_congr_left fun reading _ => ?_
    by_cases hquery : query = []
    · simp [hquery]
    · by_cases hphones : reading.entry.phones = []
      · simp [hphones]
      · simp [hquery, hphones, Matcher.distance]

theorem isCurated_of_mem_curated {token : String} {query : List Phone} {candidate : Candidate}
    (h : candidate ∈ matcher.curated token query) : candidate.origin.isCurated = true := by
  rw [curated] at h
  split at h
  · cases h
  · obtain ⟨reading, -, rfl⟩ := List.mem_map.mp h
    rfl

theorem isCurated_of_mem_nearest {query : List Phone} {candidate : Candidate}
    (h : candidate ∈ matcher.nearest query) : candidate.origin.isCurated = false := by
  rw [nearest] at h
  split at h
  · cases h
  · obtain ⟨found, -, rfl⟩ := List.mem_map.mp h
    rfl

theorem curatedPart_rank (token : String) (phones : List Phone) :
    curatedPart (matcher.rank token phones) = matcher.curated token (matcher.query phones) := by
  rw [curatedPart, rank, List.filter_append, List.filter_eq_self.mpr, List.filter_eq_nil_iff.mpr,
    List.append_nil]
  · intro candidate h
    rw [isCurated_of_mem_nearest matcher h]
    exact Bool.false_ne_true
  · intro candidate h
    exact isCurated_of_mem_curated matcher h

theorem rankedPart_rank (token : String) (phones : List Phone) :
    rankedPart (matcher.rank token phones) = matcher.nearest (matcher.query phones) := by
  rw [rankedPart, rank, List.filter_append, List.filter_eq_nil_iff.mpr, List.filter_eq_self.mpr,
    List.nil_append]
  · intro candidate h
    rw [isCurated_of_mem_nearest matcher h]
    rfl
  · intro candidate h
    rw [isCurated_of_mem_curated matcher h]
    exact Bool.false_ne_true

theorem length_nearest_le (query : List Phone) :
    (matcher.nearest query).length ≤ matcher.optionCount := by
  rw [nearest]
  split
  · exact Nat.zero_le _
  · rw [List.length_map, foldl_offerEntries]
    exact Selection.length_foldl_offer_le (Nat.zero_le _) _

theorem phones_ne_nil_of_mem_measured {query : List Phone} {ranked : Ranked (String × Entry)}
    (h : ranked ∈ matcher.measured query) : ranked.item.2.phones ≠ [] := by
  simp only [measured, List.mem_flatMap, List.mem_map, List.mem_filter] at h
  obtain ⟨lexicon, -, entry, ⟨-, hphones⟩, rfl⟩ := h
  simpa using hphones

theorem phones_ne_nil_of_mem_nearest {query : List Phone} {candidate : Candidate}
    (h : candidate ∈ matcher.nearest query) : candidate.entry.phones ≠ [] := by
  rw [nearest] at h
  split at h
  · cases h
  · obtain ⟨found, hfound, rfl⟩ := List.mem_map.mp h
    rw [foldl_offerEntries] at hfound
    rcases Selection.mem_or_mem_of_mem_foldl_offer hfound with hfound | hfound
    · cases hfound
    · exact phones_ne_nil_of_mem_measured matcher hfound

/-- The curated part of an answer is what the table of readings says about the token, in its order,
whatever the lexicons are and however many candidates are asked for. The ranked part has no more
candidates than asked for, each with phones, and none without a query; it is the same for every
token and every table of readings, or none. -/
theorem rank_parts (token : String) (phones : List Phone) :
    let query := matcher.expansion.elim phones fun expansion => expansion.expand phones
    let answer := matcher.rank token phones
    answer = curatedPart answer ++ rankedPart answer ∧
    curatedPart answer =
      matcher.readings.elim [] (fun table =>
        (table.lookup token).map fun reading =>
          { origin := .readings table.name
            entry := reading.entry
            distance :=
              if query ≠ [] ∧ reading.entry.phones ≠ [] then
                some (sequenceDistance query reading.entry.phones phoneDistance matcher.tolerance)
              else none }) ∧
    (∀ lexicons count,
      curatedPart ({ matcher with lexicons := lexicons, optionCount := count }.rank token phones) =
        curatedPart answer) ∧
    (rankedPart answer).length ≤ matcher.optionCount ∧
    (query = [] → rankedPart answer = []) ∧
    (∀ candidate ∈ rankedPart answer, candidate.entry.phones ≠ []) ∧
    ∀ other readings,
      rankedPart ({ matcher with readings := readings }.rank other phones) = rankedPart answer := by
  intro query answer
  have hquery : matcher.query phones = query := query_eq_elim matcher phones
  have hparts : answer = curatedPart answer ++ rankedPart answer := by
    simp only [answer, curatedPart_rank, rankedPart_rank]
    rfl
  refine ⟨hparts, ?_, ?_, ?_, ?_, ?_, ?_⟩
  · rw [curatedPart_rank, curated_eq_elim, hquery]
  · intro lexicons count
    rw [curatedPart_rank, curatedPart_rank]
    rfl
  · rw [rankedPart_rank]
    exact length_nearest_le matcher _
  · intro hempty
    rw [rankedPart_rank, hquery, hempty]
    rfl
  · intro candidate h
    rw [rankedPart_rank] at h
    exact phones_ne_nil_of_mem_nearest matcher h
  · intro other readings
    rw [rankedPart_rank, rankedPart_rank]
    rfl

/-- A token with a curated reading, looked up with a phone and without any; one of the two entries
has no phones. -/
theorem rank_parts_noted :
    let features := FeatureSet.ofGroups "features" ["voice"] 1 (-1) none
    let encoder := Encoder.ofEncoding (Encoding.ofPatterns "none" features [])
    let mute := Lexicon.ofEntries "mute" encoder [.ofPhones "A" []]
    let words := Lexicon.ofEntries "words" encoder [.ofPhones "B" [[-1]]]
    let notes := (ReadingTable.empty "notes").insert "tok" ⟨none, .ofPhones "C" [[1]]⟩
    let matcher := Matcher.ofLexicons [mute, words] 1 0 (some notes) none
    let found : Candidate :=
      ⟨.lexicon "words", .ofPhones "B" [[-1]], some (matcher.distance [[1]] [[-1]])⟩
    (found ∈ rankedPart (matcher.rank "tok" [[1]]) ∧ found.entry.phones ≠ []) ∧
      rankedPart (matcher.rank "tok" []) = [] := by
  intro features encoder mute words notes matcher found
  have hmute : mute.entries = [.ofPhones "A" []] := (Contents.ofLoad_singleton _ _).1
  have hwords : words.entries = [.ofPhones "B" [[-1]]] := (Contents.ofLoad_singleton _ _).1
  have hlexicons : matcher.lexicons = [mute, words] := rfl
  have hname : words.name = "words" := rfl
  have hcount : matcher.optionCount = 1 := rfl
  have hnearest : matcher.nearest [[1]] = [found] := by
    simp [nearest, offerEntries, hlexicons, hmute, hwords, hname, hcount, found, Entry.ofPhones,
      Selection.offer, Selection.empty]
  have hmem : found ∈ rankedPart (matcher.rank "tok" [[1]]) := by
    rw [rankedPart_rank, show matcher.query [[1]] = [[1]] from rfl, hnearest]
    exact List.mem_singleton_self found
  have hphones := (rank_parts matcher "tok" [[1]]).2.2.2.2.2.1 found hmem
  exact ⟨⟨hmem, hphones⟩, (rank_parts matcher "tok" []).2.2.2.2.1 rfl⟩

end Matcher
end PhoneticSearch

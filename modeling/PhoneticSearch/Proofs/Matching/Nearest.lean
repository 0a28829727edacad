import PhoneticSearch.Matching.Matcher
import PhoneticSearch.Proofs.PhoneDistance
import PhoneticSearch.Proofs.StableSort

/-!
# The nearest entries

* `Selection.Selects`: the invariant of the pass over all items: the kept ones are the first of
  those seen so far, in the stable order of their distances.
* `Selection.Selects.offer`: one more item preserves it, whether it is looked at or not.
* `Matcher.nearest_eq_take_mergeSort`: the nearest entries are the first of all entries with phones,
  sorted by their distances.
-/

namespace PhoneticSearch

theorem distanceKey_toFloat (x : Magnitude) : distanceKey x.toFloat = x.code := by
  have hlt : x.toFloat.toBits.toNat < Nat.pow 2 63 := x.code_le.trans_lt (by decide)
  simp only [distanceKey, if_pos hlt]
  rfl

namespace Ranked

variable {α : Type}

/-- The distance is a number from zero on, up to infinity. -/
def IsMeasured (ranked : Ranked α) : Prop := ∃ x : Magnitude, ranked.distance = x.toFloat

theorem distance_le_iff {a b : Ranked α} (ha : a.IsMeasured) (hb : b.IsMeasured) :
    a.distance ≤ b.distance ↔ a.key ≤ b.key := by
  obtain ⟨x, hx⟩ := ha
  obtain ⟨y, hy⟩ := hb
  rw [key, key, hx, hy, distanceKey_toFloat, distanceKey_toFloat, Magnitude.toFloat_le,
    Magnitude.le_iff, Int.ofNat_le]

theorem distance_lt_iff {a b : Ranked α} (ha : a.IsMeasured) (hb : b.IsMeasured) :
    a.distance < b.distance ↔ a.key < b.key := by
  obtain ⟨x, hx⟩ := ha
  obtain ⟨y, hy⟩ := hb
  rw [key, key, hx, hy, distanceKey_toFloat, distanceKey_toFloat, Magnitude.toFloat_lt,
    Magnitude.lt_iff, Int.ofNat_lt]

theorem mergeSort_eq_sortBy {items : List (Ranked α)} (h : ∀ ranked ∈ items, ranked.IsMeasured) :
    (items.mergeSort fun a b => decide (a.distance ≤ b.distance)) = sortBy key items := by
  have hmap : (items.mergeSort fun a b => decide (a.distance ≤ b.distance)).map id =
      (items.map id).mergeSort fun a b => decide (a.key ≤ b.key) := by
    apply List.map_mergeSort
    intro a ha b hb
    exact decide_eq_decide.mpr (distance_le_iff (h a ha) (h b hb))
  rwa [List.map_id, List.map_id] at hmap

end Ranked

namespace Selection

variable {α : Type}

/-- After the items of `seen` the first `count` of them in sorted order are kept, and the distance
of the last of these is known. -/
structure Selects (count : Nat) (seen : List (Ranked α)) (selection : Selection α) : Prop where
  kept_eq : selection.kept = (sortBy Ranked.key seen).take count
  worst_eq : selection.worst = selection.kept.getLast?.elim maxFloat (·.distance)

theorem selects_empty (count : Nat) : Selects count ([] : List (Ranked α)) empty where
  kept_eq := by simp [empty, sortBy]
  worst_eq := rfl

variable {count : Nat} {seen : List (Ranked α)} {selection : Selection α} {ranked : Ranked α}

/-- An item that is not looked at is not nearer than any that is kept. -/
theorem Selects.key_le (h : Selects count seen selection)
    (hseen : ∀ other ∈ seen, other.IsMeasured) (hranked : ranked.IsMeasured)
    (hworst : ¬ ranked.distance < selection.worst) :
    ∀ other ∈ selection.kept, other.key ≤ ranked.key := by
  intro other hother
  have hne : selection.kept ≠ [] := List.ne_nil_of_mem hother
  obtain ⟨last, hlast⟩ : ∃ last, selection.kept.getLast hne = last := ⟨_, rfl⟩
  have hmem : last ∈ seen := by
    have hkept : last ∈ selection.kept := hlast ▸ List.getLast_mem hne
    rw [h.kept_eq] at hkept
    exact (perm_sortBy _ _).mem_iff.mp (List.mem_of_mem_take hkept)
  have hsorted : selection.kept.Pairwise fun a b => a.key ≤ b.key := by
    rw [h.kept_eq]
    exact (pairwise_sortBy _ _).sublist (List.take_sublist _ _)
  have hle : other.key ≤ last.key := by
    have : Std.Refl fun a b : Ranked α => a.key ≤ b.key := ⟨fun a => le_rfl⟩
    rw [← hlast]
    exact hsorted.rel_getLast hother
  rw [h.worst_eq, List.getLast?_eq_some_getLast hne, hlast, Option.elim_some,
    Ranked.distance_lt_iff hranked (hseen last hmem), not_lt] at hworst
  exact hle.trans hworst

/-- One more item. -/
theorem Selects.offer (h : Selects count seen selection)
    (hseen : ∀ other ∈ seen, other.IsMeasured) (hranked : ranked.IsMeasured) :
    Selects count (seen ++ [ranked]) (selection.offer count ranked) := by
  unfold Selection.offer
  split
  · refine ⟨?_, rfl⟩
    change (sortBy Ranked.key (selection.kept ++ [ranked])).take count = _
    rw [h.kept_eq, take_sortBy_concat]
  · next hnot =>
    simp only [Bool.or_eq_true, decide_eq_true_eq, not_or, not_lt] at hnot
    obtain ⟨hworst, hfull⟩ := hnot
    refine ⟨?_, h.worst_eq⟩
    have hle := h.key_le hseen hranked hworst
    rw [h.kept_eq] at hfull hle ⊢
    have hlen : count ≤ seen.length := by
      rw [List.length_take, (perm_sortBy _ _).length_eq] at hfull
      omega
    rw [take_sortBy_concat_of_le _ hlen hle]

/-- The whole pass. -/
theorem Selects.foldl_offer (h : Selects count seen selection) {items : List (Ranked α)}
    (hseen : ∀ other ∈ seen, other.IsMeasured) (hitems : ∀ ranked ∈ items, ranked.IsMeasured) :
    Selects count (seen ++ items) (items.foldl (Selection.offer count) selection) := by
  induction items generalizing seen selection with
  | nil => simpa using h
  | cons ranked rest ih =>
    have hranked : ranked.IsMeasured := hitems ranked (by simp)
    have hseen' : ∀ other ∈ seen ++ [ranked], other.IsMeasured := by
      intro other hother
      rcases List.mem_append.mp hother with hmem | hmem
      · exact hseen other hmem
      · rwa [List.mem_singleton.mp hmem]
    have hrest := ih (h.offer hseen hranked) hseen' fun other hother =>
      hitems other (by simp [hother])
    rwa [List.append_assoc] at hrest

end Selection

namespace Matcher

/-- The entries with phones in the order in which they are searched, each with its distance and the
name of its lexicon. -/
def measured (matcher : Matcher) (query : List Phone) : List (Ranked (String × Entry)) :=
  matcher.lexicons.flatMap fun lexicon =>
    (lexicon.entries.filter fun entry => !entry.phones.isEmpty).map fun entry =>
      ⟨matcher.distance query entry.phones, (lexicon.name, entry)⟩

theorem isMeasured_of_mem (matcher : Matcher) {query : List Phone}
    {ranked : Ranked (String × Entry)} (h : ranked ∈ matcher.measured query) : ranked.IsMeasured := by
  simp only [measured, List.mem_flatMap, List.mem_map] at h
  obtain ⟨lexicon, -, entry, -, rfl⟩ := h
  exact exists_toFloat_eq_sequenceDistance (fun x _ y _ => phoneDistance_nonneg x y) _

/-- The pass over the entries of all lexicons is one pass over the measured entries. -/
theorem foldl_offerEntries (matcher : Matcher) (query : List Phone)
    (selection : Selection (String × Entry)) :
    matcher.lexicons.foldl (matcher.offerEntries query) selection =
      (matcher.measured query).foldl (Selection.offer matcher.optionCount) selection := by
  rw [measured, List.foldl_flatMap]
  congr 1
  funext selection lexicon
  rw [offerEntries, List.foldl_map, List.foldl_filter]
  congr 1
  funext selection entry
  cases entry.phones.isEmpty <;> rfl

/-- The nearest entries are the first of all entries with phones in the stable order of their
distances. -/
theorem nearest_eq_take_mergeSort (matcher : Matcher) {query : List Phone} (h : query ≠ []) :
    matcher.nearest query =
      (((matcher.measured query).mergeSort fun a b => decide (a.distance ≤ b.distance)).take
        matcher.optionCount).map fun found =>
          ⟨.lexicon found.item.1, found.item.2, some found.distance⟩ := by
  have hmeasured : ∀ ranked ∈ matcher.measured query, ranked.IsMeasured :=
    fun _ => matcher.isMeasured_of_mem
  have hselects := (Selection.selects_empty matcher.optionCount).foldl_offer (by simp) hmeasured
  have hempty : query.isEmpty = false := by simpa using h
  simp only [nearest, hempty, Bool.false_eq_true, if_false]
  rw [foldl_offerEntries, hselects.kept_eq, Ranked.mergeSort_eq_sortBy hmeasured, List.nil_append]

/-- Two lexicons with three entries at one distance, of which two are asked for. -/
theorem nearest_eq_take_mergeSort_tied :
    let features := FeatureSet.ofGroups "features" ["voice"] 1 (-1) none
    let encoder := Encoder.ofEncoding (Encoding.ofPatterns "none" features [])
    let first := Lexicon.ofEntries "first" encoder [.ofPhones "X" [[1]]]
    let second := Lexicon.ofEntries "second" encoder [.ofPhones "Y" [[-1]], .ofPhones "Z" [[1]]]
    let matcher := Matcher.ofLexicons [first, second] 2 0 none none
    ([[0]] : List Phone) ≠ [] ∧
      matcher.nearest [[0]] =
        (((matcher.measured [[0]]).mergeSort fun a b => decide (a.distance ≤ b.distance)).take
          matcher.optionCount).map fun found =>
            ⟨.lexicon found.item.1, found.item.2, some found.distance⟩ := by
  intro features encoder first second matcher
  have h : ([[0]] : List Phone) ≠ [] := by simp
  exact ⟨h, nearest_eq_take_mergeSort matcher h⟩

end Matcher
end PhoneticSearch

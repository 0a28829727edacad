import PhoneticSearch.Proofs.Encoding.Choice
import PhoneticSearch.Proofs.Encoding.Overlays
import PhoneticSearch.Proofs.Pattern.Template

/-!
# Where templates match in cells

* `templateMatches`: the matches of the templates in a text, found without automata: from left to
  right, at each place the longest one, of several the first, and none within another.
* `locate`: the cell of a character of all cells, and its offset in the cell.
* `Encoder.overlays_eq`: the overlays are those of the matches in the texts of the cells.
-/

namespace PhoneticSearch

/-- A match of a template, with the position of the character under its wildcard. -/
structure TemplateMatch where
  position : Nat
  pattern : Pattern

/-- The templates that match what a text begins with: the first of the longest. -/
def Pattern.chooseTemplate? (patterns : List Pattern) (text : List Char) : Option Pattern :=
  firstLongest (patterns.filter fun pattern => pattern.overlies text)

/-- The matches in a text that begins at a position. -/
def templateMatches (patterns : List Pattern) (start : Nat) : List Char → List TemplateMatch
  | [] => []
  | c :: rest =>
    match Pattern.chooseTemplate? patterns (c :: rest) with
    | some pattern =>
      ⟨start + pattern.template.idxOf wildcard, pattern⟩ ::
        templateMatches patterns (start + pattern.length) (rest.drop (pattern.length - 1))
    | none => templateMatches patterns (start + 1) rest
termination_by text => text.length
decreasing_by
  · simp only [List.length_drop, List.length_cons]; omega
  · simp

/-- The number of the cell that holds the character at a position, and its offset in the cell. -/
def locate : List Cell → Nat → Option (Nat × Nat)
  | [], _ => none
  | cell :: cells, position =>
    if position < cell.text.length then some (0, position)
    else (locate cells (position - cell.text.length)).map fun place => (place.1 + 1, place.2)

/-- The matches with their wildcards in one cell, each with the offset of its wildcard. -/
def matchesOn (cells : List Cell) (found : List TemplateMatch) (number : Nat) :
    List (Nat × Pattern) :=
  found.filterMap fun entry =>
    (locate cells entry.position).bind fun place =>
      if place.1 = number then some (place.2, entry.pattern) else none

/-- The overlay of a template with its wildcard at an offset in a cell. -/
def Overlay.ofTemplate (number : Nat) (entry : Nat × Pattern) : Overlay :=
  ⟨number, entry.1, entry.2.phones⟩

namespace Segment

variable (patterns : List Pattern)

theorem matching?_templates {text : List Char} {n : Nat} (hn : n ≤ text.length) :
    matching? Rule.automaton (RuleTable.ofPatterns patterns).templates (text.take n) =
      (patterns.find? fun pattern => pattern.length == n && pattern.overlies text).map
        Rule.ofPattern := by
  rw [matching?, RuleTable.templates_ofPatterns, List.find?_map, List.find?_filter]
  congr 2
  funext pattern
  cases hkind : pattern.isReplacement with
  | true => simp [Pattern.overlies, hkind]
  | false =>
    cases hlive : pattern.isInert with
    | true => simp [Pattern.overlies, hlive]
    | false => simpa using Pattern.matchesText_take_template hlive hkind hn

theorem longestMatch_templates {α : Type} (char : α → Char) (row : List α) :
    longestMatch Rule.automaton (RuleTable.ofPatterns patterns).templates char row =
      (Pattern.chooseTemplate? patterns (row.map char)).map fun pattern =>
        (Rule.ofPattern pattern, pattern.length) := by
  rw [longestMatch_eq, ← List.length_map char]
  exact longestUpTo_eq_firstLongest (fun _ _ hfits => Pattern.length_le_of_overlies hfits)
    (fun _ hn => matching?_templates patterns hn)

end Segment

namespace Encoder

variable (patterns : List Pattern)

/-- The overlay of a match in a row of places. -/
def overlayAt (row : List (Char × Nat × Nat)) (entry : TemplateMatch) : Option Overlay :=
  row[entry.position]?.map fun place => ⟨place.2.1, place.2.2, entry.pattern.phones⟩

theorem overlayOf_covered {pattern : Pattern} {row : List (Char × Nat × Nat)} {start : Nat}
    (hlive : pattern.isInert = false) (hkind : pattern.isReplacement = false) :
    overlayOf (.covered (Rule.ofPattern pattern) ((row.drop start).take pattern.length)) =
      overlayAt row ⟨start + pattern.template.idxOf wildcard, pattern⟩ := by
  have hwildcard : (Rule.ofPattern pattern).automaton.wildcard =
      some (pattern.template.idxOf wildcard) := by
    rw [Rule.automaton_ofPattern, Pattern.compile_template hlive hkind]
  have hitem : ((row.drop start).take pattern.length)[pattern.template.idxOf wildcard]? =
      row[start + pattern.template.idxOf wildcard]? := by
    rw [List.getElem?_take_of_lt (Pattern.idxOf_wildcard_lt hkind), List.getElem?_drop]
  simp only [overlayOf, overlayAt, hwildcard, Option.bind_eq_bind, Option.bind_some, hitem]
  cases row[start + pattern.template.idxOf wildcard]? <;> rfl

/-- The overlays of the segments are those of the matches, from a place of the row on. -/
theorem filterMap_overlayOf {row rest : List (Char × Nat × Nat)} {start : Nat}
    (hrest : row.drop start = rest) :
    (Segment.segments Rule.automaton (RuleTable.ofPatterns patterns).templates Prod.fst
        rest).filterMap overlayOf =
      (templateMatches patterns start (rest.map Prod.fst)).filterMap (overlayAt row) := by
  fun_induction Segment.segments Rule.automaton (RuleTable.ofPatterns patterns).templates Prod.fst
    rest generalizing start with
  | case1 => rw [List.map_nil, templateMatches]; rfl
  | case2 item rest rule length hmatch ih =>
    rw [Segment.longestMatch_templates, Option.map_eq_some_iff] at hmatch
    obtain ⟨pattern, hchoose, heq⟩ := hmatch
    obtain ⟨rfl, rfl⟩ := Prod.mk.inj heq
    obtain ⟨-, hfits⟩ := Pattern.mem_of_firstLongest hchoose
    have hlength := Pattern.length_le_of_overlies hfits
    simp only [Pattern.overlies, Bool.and_eq_true, Bool.not_eq_true'] at hfits
    have htail : row.drop (start + pattern.length) = rest.drop (pattern.length - 1) := by
      rw [← List.drop_drop, hrest]
      obtain ⟨n, hn⟩ : ∃ n, pattern.length = n + 1 := ⟨pattern.length - 1, by omega⟩
      rw [hn, List.drop_succ_cons, Nat.add_sub_cancel]
    rw [List.map_cons] at hchoose ⊢
    rw [templateMatches, hchoose]
    simp only
    rw [List.filterMap_cons, List.filterMap_cons, ← hrest,
      overlayOf_covered hfits.1.1 hfits.1.2, ih htail, List.map_drop]
  | case3 item rest hmatch ih =>
    rw [Segment.longestMatch_templates, Option.map_eq_none_iff] at hmatch
    have htail : row.drop (start + 1) = rest := by
      rw [← List.drop_drop, hrest]
      rfl
    rw [List.map_cons] at hmatch ⊢
    rw [templateMatches, hmatch, List.filterMap_cons]
    exact ih htail

/-! ## Places -/

theorem map_fst_places (cells : List Cell) :
    (places cells).map Prod.fst = cells.flatMap Cell.text := by
  rw [places, List.map_flatMap]
  have h : ∀ entry : Cell × Nat, (entry.1.text.zipIdx.map fun place =>
      (place.1, entry.2, place.2)).map Prod.fst = entry.1.text := by
    intro entry
    rw [List.map_map]
    exact List.zipIdx_map_fst 0 entry.1.text
  simp only [h]
  rw [← List.flatMap_map Prod.fst Cell.text, List.zipIdx_map_fst]

/-- Locating a character is looking its position up among the places. -/
theorem getElem?_places_from (cells : List Cell) (first position : Nat) :
    (((cells.zipIdx first).flatMap fun (cell, number) =>
        cell.text.zipIdx.map fun (c, offset) => (c, number, offset))[position]?).map Prod.snd =
      (locate cells position).map fun place => (first + place.1, place.2) := by
  induction cells generalizing first position with
  | nil => rfl
  | cons cell cells ih =>
    rw [List.zipIdx_cons, List.flatMap_cons, locate]
    by_cases h : position < cell.text.length
    · rw [List.getElem?_append_left (by simpa using h), if_pos h]
      simp [h]
    · rw [List.getElem?_append_right (by simpa using h), if_neg h]
      simp only [List.length_map, List.length_zipIdx]
      rw [ih, Option.map_map]
      congr 1
      funext place
      simp [Nat.add_assoc, Nat.add_comm 1]

theorem map_snd_places (cells : List Cell) (position : Nat) :
    (places cells)[position]?.map Prod.snd = locate cells position := by
  rw [places, getElem?_places_from]
  simp

/-- An encoder lays phones over just the characters under the wildcards of the matches. -/
theorem overlays_eq (encoder : Encoder) (cells : List Cell) :
    encoder.overlays cells =
      (templateMatches encoder.encoding.patterns 0 (cells.flatMap Cell.text)).filterMap fun entry =>
        (locate cells entry.position).map fun place =>
          ⟨place.1, place.2, entry.pattern.phones⟩ := by
  have hstart : (places cells).drop 0 = places cells := rfl
  rw [overlays, encoder.rules_eq, filterMap_overlayOf encoder.encoding.patterns hstart,
    map_fst_places]
  congr 1
  funext entry
  rw [overlayAt, ← map_snd_places, Option.map_map]
  rfl

/-- The overlays on one cell are those of the matches on it. -/
theorem filter_overlays (encoder : Encoder) (cells : List Cell) (number : Nat) :
    (encoder.overlays cells).filter (fun overlay => overlay.cell == number) =
      (matchesOn cells (templateMatches encoder.encoding.patterns 0 (cells.flatMap Cell.text))
        number).map (Overlay.ofTemplate number) := by
  rw [overlays_eq, matchesOn, List.filter_filterMap, List.map_filterMap]
  congr 1
  funext entry
  cases locate cells entry.position with
  | none => rfl
  | some place =>
    obtain ⟨cell, offset⟩ := place
    by_cases h : cell = number <;> simp [h, Overlay.ofTemplate]

end Encoder
end PhoneticSearch

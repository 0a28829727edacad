import PhoneticSearch.Proofs.Encoding.TemplatePass
import PhoneticSearch.Proofs.Pattern.Acceptance
import PhoneticSearch.Proofs.Pattern.Steps

/-!
# Encoding with checked accesses

Both passes of an encoder told by positions in texts, numbers of rules, patterns and cells and
indices of phones. Each of them is checked where it is used, and a check that fails leaves no
result.

* `NumberedRule.ofPatterns`: the rules of one kind, each by the number of its pattern.
* `segment?`, `overlay?`, `lay?`: what is looked up for one step of a pass and for one overlay.
* `foldrM_lay?`: every cell has a phone before and after each overlay, so each can be applied.
* `Encoder.transduce_within_range`: no check ever fails, the loops end, and the result is the one of
  the encoder.
-/

namespace PhoneticSearch

open Segment (Step IsStep)

/-- A rule by the number of its pattern in the table. -/
structure NumberedRule where
  pattern : Nat
  automaton : Automaton

namespace NumberedRule

/-- The rules of one kind that match anything, from the pattern with the number `first` on. -/
def ofPatterns (replacing : Bool) (first : Nat) : List Pattern → List NumberedRule
  | [] => []
  | pattern :: rest =>
    if !pattern.compile.isInert && pattern.isReplacement == replacing then
      ⟨first, pattern.compile⟩ :: ofPatterns replacing (first + 1) rest
    else ofPatterns replacing (first + 1) rest

end NumberedRule

section Lookup

variable {α : Type} (patterns : List Pattern) (rules : List NumberedRule)

/-- The segment of a step. -/
def segment? (row : List α) : Step → Option (Segment Rule α)
  | ⟨start, some (number, length)⟩ => do
    let rule ← rules[number]?
    let pattern ← patterns[rule.pattern]?
    if start + length ≤ row.length then
      some (.covered (.ofPattern pattern) ((row.drop start).take length))
    else none
  | ⟨start, none⟩ => row[start]?.map .bare

/-- The overlay of a step, if its rule has a wildcard. -/
def overlay? (stream : List (Char × Nat × Nat)) : Step → Option (Option Overlay)
  | ⟨_, none⟩ => some none
  | ⟨start, some (number, _)⟩ => do
    let rule ← rules[number]?
    let pattern ← patterns[rule.pattern]?
    match rule.automaton.wildcard with
    | none => some none
    | some wildcard =>
      let (_, cell, offset) ← stream[start + wildcard]?
      some (some ⟨cell, offset, pattern.phones⟩)

end Lookup

/-- Lays an overlay over its phone, which is taken out of the cell and makes room for the others.
There must be a phone in the cell, and one to lay over it. -/
def lay? (features : FeatureSet) (overlay : Overlay) (cells : Array Cell) :
    Option (Array Cell) := do
  let cell ← cells[overlay.cell]?
  if cell.phones.isEmpty || overlay.phones.isEmpty then none
  else
    let index := min overlay.offset (cell.phones.length - 1)
    let original ← cell.phones[index]?
    let others := cell.phones.eraseIdx index
    if index ≤ others.length then
      some <| cells.setIfInBounds overlay.cell
        { cell with
          phones := others.take index ++ overlay.phones.map (features.override original) ++
            others.drop index }
    else none

/-- Transduces with every access checked, and with no more steps of a loop than it has items. -/
def Encoder.transduceChecked (encoder : Encoder) (source : String) : Option Transduction := do
  let patterns := encoder.encoding.patterns
  let replacements := NumberedRule.ofPatterns true 0 patterns
  let templates := NumberedRule.ofPatterns false 0 patterns
  let row := source.toList
  let steps ← Segment.steps? (replacements.map (·.automaton)) id row row.length 0
  let segments ← steps.mapM (segment? patterns replacements row)
  let cells := segments.map encoder.cellOf
  let stream := places cells
  let matched ← Segment.steps? (templates.map (·.automaton)) Prod.fst stream stream.length 0
  let overlays ← matched.mapM (overlay? patterns templates stream)
  let after ← (overlays.filterMap id).foldrM (lay? encoder.features) cells.toArray
  return {
    text := .ofList (after.toList.flatMap Cell.text)
    repr := .ofList (segments.flatMap reprOf)
    phones := phonesOf after.toList }

/-! ## Lookups -/

theorem mapM_eq_some {α β : Type} {f : α → Option β} {items : List α} {values : List β}
    (h : List.Forall₂ (fun item value => f item = some value) items values) :
    items.mapM f = some values := by
  induction h with
  | nil => rfl
  | cons hitem _ ih =>
    rw [List.mapM_cons, hitem, ih]
    rfl

theorem Rule.ofPattern_pattern (rule : Rule) : ofPattern rule.pattern = rule := by
  obtain ⟨pattern, automaton, rfl⟩ := rule
  rfl

namespace NumberedRule

/-- The number is that of the rule's pattern. -/
def IsFor (patterns : List Pattern) (entry : NumberedRule) (rule : Rule) : Prop :=
  patterns[entry.pattern]? = some rule.pattern ∧ entry.automaton = rule.automaton

theorem forall₂_ofPatterns (replacing : Bool) (before patterns : List Pattern) :
    List.Forall₂ (IsFor (before ++ patterns)) (ofPatterns replacing before.length patterns)
      ((patterns.filter fun pattern =>
        !pattern.compile.isInert && pattern.isReplacement == replacing).map Rule.ofPattern) := by
  induction patterns generalizing before with
  | nil => exact .nil
  | cons pattern rest ih =>
    have hrest := ih (before ++ [pattern])
    rw [List.append_assoc, List.singleton_append, List.length_append, List.length_singleton]
      at hrest
    rw [ofPatterns, List.filter_cons]
    split
    · exact .cons ⟨by simp, rfl⟩ hrest
    · exact hrest

theorem forall₂_replacements (patterns : List Pattern) :
    List.Forall₂ (IsFor patterns) (ofPatterns true 0 patterns)
      (RuleTable.ofPatterns patterns).replacements := by
  have h := forall₂_ofPatterns true [] patterns
  rw [RuleTable.replacements_ofPatterns]
  simpa only [List.nil_append, List.length_nil, Pattern.isInert_compile, beq_true,
    Bool.and_comm] using h

theorem forall₂_templates (patterns : List Pattern) :
    List.Forall₂ (IsFor patterns) (ofPatterns false 0 patterns)
      (RuleTable.ofPatterns patterns).templates := by
  have h := forall₂_ofPatterns false [] patterns
  rw [RuleTable.templates_ofPatterns]
  simpa only [List.nil_append, List.length_nil, Pattern.isInert_compile, beq_false,
    Bool.and_comm] using h

end NumberedRule

section Steps

variable {α : Type} {patterns : List Pattern} {entries : List NumberedRule} {rules : List Rule}
  (h : List.Forall₂ (NumberedRule.IsFor patterns) entries rules)

include h

theorem map_automaton_eq : entries.map (·.automaton) = rules.map Rule.automaton := by
  induction h with
  | nil => rfl
  | cons hentry _ ih => rw [List.map_cons, List.map_cons, hentry.2, ih]

theorem exists_entry {number : Nat} {rule : Rule} (hrule : rules[number]? = some rule) :
    ∃ entry, entries[number]? = some entry ∧ entry.IsFor patterns rule := by
  obtain ⟨hlt, rfl⟩ := List.getElem?_eq_some_iff.mp hrule
  have hlt' : number < entries.length := h.length_eq ▸ hlt
  exact ⟨entries[number], List.getElem?_eq_getElem hlt', h.get hlt' hlt⟩

theorem segment?_of_isStep {row : List α} {step : Step} {segment : Segment Rule α}
    (hstep : IsStep Rule.automaton rules row step segment) :
    segment? patterns entries row step = some segment := by
  cases hstep with
  | covered hrule hpos hle hlength =>
    obtain ⟨entry, hentry, hpattern, -⟩ := exists_entry h hrule
    simp only [segment?, hentry, hpattern, Option.bind_eq_bind, Option.bind_some, if_pos hle,
      Rule.ofPattern_pattern]
  | bare hitem => rw [segment?, hitem]; rfl

/-- The wildcard of a rule lies within its match, hence within the row. -/
theorem overlay?_of_isStep {stream : List (Char × Nat × Nat)} {step : Step}
    {segment : Segment Rule (Char × Nat × Nat)}
    (hstep : IsStep Rule.automaton rules stream step segment) :
    overlay? patterns entries stream step = some (Encoder.overlayOf segment) := by
  cases hstep with
  | bare hitem => rfl
  | @covered start number length rule hrule hpos hle hlength =>
    obtain ⟨entry, hentry, hpattern, hautomaton⟩ := exists_entry h hrule
    simp only [overlay?, hentry, hpattern, hautomaton, Option.bind_eq_bind, Option.bind_some,
      Encoder.overlayOf]
    cases hwildcard : rule.automaton.wildcard with
    | none => rfl
    | some wildcard =>
      have hlt : wildcard < length := by
        rw [rule.automaton_eq] at hwildcard hlength
        exact hlength ▸ rule.pattern.wildcard_compile_lt hwildcard
      have hplace : start + wildcard < stream.length := by omega
      simp only [Option.bind_some, List.getElem?_take_of_lt hlt, List.getElem?_drop,
        List.getElem?_eq_getElem hplace]
      rfl

theorem exists_steps (char : α → Char) (row : List α) :
    ∃ steps, Segment.steps? (entries.map (·.automaton)) char row row.length 0 = some steps ∧
      List.Forall₂ (IsStep Rule.automaton rules row) steps
        (Segment.segments Rule.automaton rules char row) := by
  rw [map_automaton_eq h]
  have hbound : row.length ≤ 0 + row.length := Nat.le_add_left _ _
  exact Segment.exists_forall₂_isStep Rule.automaton rules char hbound

end Steps

/-! ## Overlays -/

theorem Cell.phones_overlay_ne_nil (features : FeatureSet) (offset : Nat) (phones : List Phone)
    {cell : Cell} (h : cell.phones ≠ []) : (cell.overlay features offset phones).phones ≠ [] := by
  unfold Cell.overlay
  split
  · exact h
  · rename_i hphones
    dsimp only
    split
    · exact h
    · simp_all

namespace Encoder

variable (encoder : Encoder)

theorem apply_eq_set {overlay : Overlay} {cells : Array Cell} {cell : Cell}
    (hcell : cells[overlay.cell]? = some cell) :
    encoder.apply overlay cells = cells.setIfInBounds overlay.cell
      (cell.overlay encoder.features overlay.offset overlay.phones) := by
  apply Array.ext_getElem?
  intro number
  rw [apply, Array.getElem?_modify, Array.getElem?_setIfInBounds]
  split
  · next h =>
    obtain ⟨hlt, -⟩ := Array.getElem?_eq_some_iff.mp hcell
    rw [← h, hcell, if_pos hlt]
    rfl
  · rfl

/-- The phone is there, and where it is taken out there is room for those that replace it. -/
theorem lay?_eq {overlay : Overlay} {cells : Array Cell} {cell : Cell}
    (hcell : cells[overlay.cell]? = some cell) (hphones : cell.phones ≠ [])
    (hoverlay : overlay.phones ≠ []) :
    lay? encoder.features overlay cells = some (encoder.apply overlay cells) := by
  have hpos := List.length_pos_iff.mpr hphones
  have hlt : min overlay.offset (cell.phones.length - 1) < cell.phones.length := by omega
  obtain ⟨before, original, after, hsplit, hindex⟩ := Cell.exists_split hlt
  have hempty : (cell.phones.isEmpty || overlay.phones.isEmpty) = false := by
    simp [hphones, hoverlay]
  have horiginal : cell.phones[before.length]? = some original := by simp [hsplit]
  have hothers : cell.phones.eraseIdx before.length = before ++ after := by
    rw [hsplit, List.eraseIdx_append_of_length_le (Nat.le_refl _), Nat.sub_self]
    rfl
  have hroom : before.length ≤ (before ++ after).length := by simp
  rw [encoder.apply_eq_set hcell,
    Cell.overlay_split encoder.features hoverlay hsplit hindex]
  simp only [lay?, hcell, Option.bind_eq_bind, Option.bind_some, hempty, Bool.false_eq_true,
    if_false, hindex, horiginal, hothers, if_pos hroom, List.take_left, List.drop_left]

theorem phones_ne_nil_of_mem_apply (overlay : Overlay) {cells : Array Cell}
    (h : ∀ cell ∈ cells, cell.phones ≠ []) :
    ∀ cell ∈ encoder.apply overlay cells, cell.phones ≠ [] := by
  intro cell hmem
  obtain ⟨number, hget⟩ := Array.mem_iff_getElem?.mp hmem
  rw [apply, Array.getElem?_modify] at hget
  split at hget
  · obtain ⟨other, hother, rfl⟩ := Option.map_eq_some_iff.mp hget
    exact Cell.phones_overlay_ne_nil _ _ _ (h other (Array.mem_of_getElem? hother))
  · exact h cell (Array.mem_of_getElem? hget)

/-- From right to left every overlay finds its cell with a phone in it, and leaves all cells with a
phone. -/
theorem foldrM_lay? {cells : Array Cell} {overlays : List Overlay}
    (hcells : ∀ cell ∈ cells, cell.phones ≠ [])
    (hplaces : ∀ overlay ∈ overlays, overlay.cell < cells.size)
    (hphones : ∀ overlay ∈ overlays, overlay.phones ≠ []) :
    overlays.foldrM (lay? encoder.features) cells = some (overlays.foldr encoder.apply cells) ∧
      (∀ cell ∈ overlays.foldr encoder.apply cells, cell.phones ≠ []) ∧
      (overlays.foldr encoder.apply cells).size = cells.size := by
  induction overlays with
  | nil => exact ⟨rfl, hcells, rfl⟩
  | cons overlay rest ih =>
    rw [List.forall_mem_cons] at hplaces hphones
    obtain ⟨hrun, hfull, hsize⟩ := ih hplaces.2 hphones.2
    have hlt : overlay.cell < (rest.foldr encoder.apply cells).size := hsize ▸ hplaces.1
    have hcell := Array.getElem?_eq_getElem hlt
    refine ⟨?_, encoder.phones_ne_nil_of_mem_apply overlay hfull, ?_⟩
    · rw [List.foldrM_cons, hrun]
      exact encoder.lay?_eq hcell (hfull _ (Array.getElem_mem hlt)) hphones.1
    · rw [List.foldr_cons, apply, Array.size_modify, hsize]

/-! ## Both passes -/

theorem foldrM_lay?_of_subset {source : List Char} {applied : List Overlay}
    (h : applied ⊆ encoder.overlays (encoder.cells source)) :
    applied.foldrM (lay? encoder.features) (encoder.cells source).toArray =
        some (applied.foldr encoder.apply (encoder.cells source).toArray) ∧
      ∀ cell ∈ applied.foldr encoder.apply (encoder.cells source).toArray, cell.phones ≠ [] := by
  have hcells : ∀ cell ∈ (encoder.cells source).toArray, cell.phones ≠ [] := by
    intro cell hmem
    exact encoder.phones_ne_nil_of_mem_cells (List.mem_toArray.mp hmem)
  have hplaces : ∀ overlay ∈ applied, overlay.cell < (encoder.cells source).toArray.size := by
    intro overlay hmem
    obtain ⟨cell, hcell⟩ := encoder.exists_cell_of_mem_overlays (h hmem)
    exact (List.getElem?_eq_some_iff.mp hcell).1
  have hphones : ∀ overlay ∈ applied, overlay.phones ≠ [] :=
    fun _ hmem => encoder.phones_ne_nil_of_mem_overlays (h hmem)
  obtain ⟨hrun, hfull, -⟩ := encoder.foldrM_lay? hcells hplaces hphones
  exact ⟨hrun, hfull⟩

theorem transduceChecked_eq_some (source : String) :
    encoder.transduceChecked source = some (encoder.transduce source) := by
  have hreplacements := NumberedRule.forall₂_replacements encoder.encoding.patterns
  have htemplates := NumberedRule.forall₂_templates encoder.encoding.patterns
  rw [← encoder.rules_eq] at hreplacements htemplates
  obtain ⟨steps, hsteps, hcut⟩ := exists_steps hreplacements id source.toList
  obtain ⟨matched, hmatched, hfound⟩ :=
    exists_steps htemplates Prod.fst (places (encoder.cells source.toList))
  have hsegments : steps.mapM _ = some (encoder.segments source.toList) :=
    mapM_eq_some (hcut.imp fun _ _ => segment?_of_isStep hreplacements)
  have hcells : (encoder.segments source.toList).map encoder.cellOf =
      encoder.cells source.toList := rfl
  have hlaid := mapM_eq_some
    (List.forall₂_map_right_iff.mpr (hfound.imp fun _ _ => overlay?_of_isStep htemplates))
  have hoverlays : List.filterMap id (List.map overlayOf
      (Segment.segments Rule.automaton encoder.rules.templates Prod.fst
        (places (encoder.cells source.toList)))) = encoder.overlays (encoder.cells source.toList) :=
    List.filterMap_map
  have hrun := (encoder.foldrM_lay?_of_subset (List.Subset.refl
    (encoder.overlays (encoder.cells source.toList)))).1
  simp only [transduceChecked, hsteps, hsegments, hcells, hmatched, hlaid, hoverlays, hrun,
    Option.bind_eq_bind, Option.bind_some]
  rfl

/-- Every match is at least one item long and ends within the row, every access of both passes is in
range, and every cell has a phone whenever an overlay is applied: with all of this checked, and with
no more steps than there are items, the result is that of the encoder. -/
theorem transduce_within_range (source : String) :
    encoder.transduceChecked source = some (encoder.transduce source) ∧
    (∀ {α : Type} (char : α → Char) (row : List α) (rule : Rule) (length : Nat),
      Segment.longestMatch Rule.automaton encoder.rules.replacements char row =
            some (rule, length) ∨
          Segment.longestMatch Rule.automaton encoder.rules.templates char row =
            some (rule, length) →
        1 ≤ length ∧ length ≤ row.length) ∧
    ∀ pending applied,
      encoder.overlays (encoder.cells source.toList) = pending ++ applied →
        ∀ cell ∈ applied.foldr encoder.apply (encoder.cells source.toList).toArray,
          cell.phones ≠ [] := by
  refine ⟨encoder.transduceChecked_eq_some source, ?_, ?_⟩
  · rintro α char row rule length (hmatch | hmatch)
    · obtain ⟨-, hpos, hle, -⟩ := Segment.mem_and_le_of_longestMatch hmatch
      exact ⟨hpos, hle⟩
    · obtain ⟨-, hpos, hle, -⟩ := Segment.mem_and_le_of_longestMatch hmatch
      exact ⟨hpos, hle⟩
  · intro pending applied hsplit
    refine (encoder.foldrM_lay?_of_subset ?_).2
    rw [hsplit]
    exact List.subset_append_right pending applied

/-- Two overlays are meant for the only phone of a cell; after the right one there are two. -/
theorem transduce_within_range_clashing :
    Segment.longestMatch Rule.automaton clashing.rules.replacements id ['x'] =
        some (.ofPattern (.ofParts "x" [[0, 0]] (some "pqrs") none), 1) ∧
      (1 ≤ 1 ∧ 1 ≤ ['x'].length) ∧
      clashing.overlays (clashing.cells "x".toList) =
        [⟨0, 1, [[1, 0]]⟩] ++ [⟨0, 2, [[0, 1], [0, -1]]⟩] ∧
      ∀ cell ∈ [⟨0, 2, [[0, 1], [0, -1]]⟩].foldr clashing.apply
          (clashing.cells "x".toList).toArray, cell.phones ≠ [] := by
  have hmatch : Segment.longestMatch Rule.automaton clashing.rules.replacements id ['x'] =
      some (.ofPattern (.ofParts "x" [[0, 0]] (some "pqrs") none), 1) := by
    rw [rules_clashing]
    rfl
  have hoverlays : clashing.overlays (clashing.cells "x".toList) =
      [⟨0, 1, [[1, 0]]⟩] ++ [⟨0, 2, [[0, 1], [0, -1]]⟩] := by
    rw [show "x".toList = ['x'] from rfl, cells_clashing]
    exact @overlays_clashing _ (0, 0) (0, 1) (0, 2) (0, 3) rfl
  obtain ⟨-, hlength, hfull⟩ := transduce_within_range clashing "x"
  exact ⟨hmatch, hlength id _ _ _ (.inl hmatch), hoverlays, hfull _ _ hoverlays⟩

end Encoder
end PhoneticSearch

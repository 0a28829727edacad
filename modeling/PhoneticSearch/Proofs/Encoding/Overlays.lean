import PhoneticSearch.Proofs.Encoding.RuleTable
import PhoneticSearch.Proofs.Pattern.LongestMatch

/-!
# The overlays of a spelling

* `Segment.flatMap_items`, `Segment.rule_mem`: segments are the whole row, cut by the given rules.
* `Encoder.phones_ne_nil_of_mem_cells`: every cell has a phone.
* `Encoder.pairwise_overlays`: the overlays stand in the order of their places.
* `Encoder.phones_ne_nil_of_mem_overlays`: every overlay has a phone.
-/

namespace PhoneticSearch

namespace Segment

variable {ρ α : Type} (automaton : ρ → Automaton) (rules : List ρ) (char : α → Char)

theorem flatMap_items (row : List α) : (segments automaton rules char row).flatMap items = row := by
  fun_induction segments automaton rules char row with
  | case1 => rfl
  | case2 item rest rule length hmatch ih =>
    rw [longestMatch_eq, longestUpTo_eq_some_iff] at hmatch
    obtain ⟨n, rfl⟩ : ∃ n, length = n + 1 := ⟨length - 1, by omega⟩
    rw [List.flatMap_cons, ih, items, List.take_succ_cons, Nat.add_sub_cancel, List.cons_append,
      List.take_append_drop]
  | case3 item rest hmatch ih => rw [List.flatMap_cons, ih, items, List.singleton_append]

theorem rule_mem {row : List α} {rule : ρ} {covering : List α}
    (h : covered rule covering ∈ segments automaton rules char row) : rule ∈ rules := by
  fun_induction segments automaton rules char row with
  | case1 => cases h
  | case2 item rest found length hmatch ih =>
    rcases List.mem_cons.mp h with heq | hrest
    · cases heq
      rw [longestMatch_eq, longestUpTo_eq_some_iff] at hmatch
      exact List.mem_of_find?_eq_some hmatch.2.2.1
    · exact ih hrest
  | case3 item rest hmatch ih =>
    rcases List.mem_cons.mp h with heq | hrest
    · cases heq
    · exact ih hrest

end Segment

namespace Pattern

theorem phones_ne_nil {pattern : Pattern} (h : pattern.isInert = false) : pattern.phones ≠ [] := by
  intro hnil
  simp [isInert, hnil] at h

end Pattern

namespace Encoder

variable (encoder : Encoder)

theorem phones_ne_nil_of_mem_replacements {rule : Rule} (h : rule ∈ encoder.rules.replacements) :
    rule.pattern.phones ≠ [] := by
  rw [encoder.rules_eq, RuleTable.replacements_ofPatterns] at h
  simp only [List.mem_map, List.mem_filter, Bool.and_eq_true, Bool.not_eq_true'] at h
  obtain ⟨pattern, ⟨-, -, hlive⟩, rfl⟩ := h
  exact Pattern.phones_ne_nil hlive

theorem phones_ne_nil_of_mem_templates {rule : Rule} (h : rule ∈ encoder.rules.templates) :
    rule.pattern.phones ≠ [] := by
  rw [encoder.rules_eq, RuleTable.templates_ofPatterns] at h
  simp only [List.mem_map, List.mem_filter, Bool.and_eq_true, Bool.not_eq_true'] at h
  obtain ⟨pattern, ⟨-, -, hlive⟩, rfl⟩ := h
  exact Pattern.phones_ne_nil hlive

theorem phones_ne_nil_of_mem_cells {source : List Char} {cell : Cell}
    (h : cell ∈ encoder.cells source) : cell.phones ≠ [] := by
  rw [cells, List.mem_map] at h
  obtain ⟨segment, hmem, rfl⟩ := h
  cases segment with
  | covered rule items =>
    exact encoder.phones_ne_nil_of_mem_replacements (Segment.rule_mem _ _ _ hmem)
  | bare c => exact List.cons_ne_nil _ _

/-! ## The overlays -/

/-- The overlay of a match lies at one of the matched places, and has the phones of a template. -/
theorem overlayOf_eq_some {segment : Segment Rule (Char × Nat × Nat)} {overlay : Overlay}
    (h : overlayOf segment = some overlay) :
    (∃ c, (c, overlay.cell, overlay.offset) ∈ segment.items) ∧
      ∃ rule items, segment = .covered rule items ∧ overlay.phones = rule.pattern.phones := by
  cases segment with
  | bare item => cases h
  | covered rule items =>
    simp only [overlayOf, Option.bind_eq_bind, Option.bind_eq_some_iff] at h
    obtain ⟨place, hplace, ⟨c, cell, offset⟩, hitem, heq⟩ := h
    cases heq
    exact ⟨⟨c, List.mem_of_getElem? hitem⟩, rule, items, rfl, rfl⟩

theorem phones_ne_nil_of_mem_overlays {cells : List Cell} {overlay : Overlay}
    (h : overlay ∈ encoder.overlays cells) : overlay.phones ≠ [] := by
  rw [overlays, List.mem_filterMap] at h
  obtain ⟨segment, hmem, hsome⟩ := h
  obtain ⟨-, rule, items, rfl, hphones⟩ := overlayOf_eq_some hsome
  rw [hphones]
  exact encoder.phones_ne_nil_of_mem_templates (Segment.rule_mem _ _ _ hmem)

theorem exists_cell_of_mem_overlays {cells : List Cell} {overlay : Overlay}
    (h : overlay ∈ encoder.overlays cells) : ∃ cell, cells[overlay.cell]? = some cell := by
  rw [overlays, List.mem_filterMap] at h
  obtain ⟨segment, hmem, hsome⟩ := h
  obtain ⟨⟨c, hitem⟩, -⟩ := overlayOf_eq_some hsome
  have hplace : (c, overlay.cell, overlay.offset) ∈ places cells := by
    rw [← Segment.flatMap_items Rule.automaton encoder.rules.templates Prod.fst (places cells)]
    exact List.mem_flatMap.mpr ⟨segment, hmem, hitem⟩
  simp only [places, List.mem_flatMap, List.mem_map] at hplace
  obtain ⟨⟨cell, number⟩, hentry, ⟨c', offset⟩, -, heq⟩ := hplace
  cases heq
  exact ⟨cell, by simpa using List.mem_zipIdx_iff_getElem?.mp hentry⟩

/-- One place of the cells comes before another. -/
def Before (a b : Nat × Nat) : Prop := a.1 < b.1 ∨ a.1 = b.1 ∧ a.2 < b.2

theorem pairwise_zipIdx {α : Type} (items : List α) (k : Nat) :
    (items.zipIdx k).Pairwise fun a b => a.2 < b.2 := by
  have h : ((items.zipIdx k).map Prod.snd).Pairwise (· < ·) := by
    rw [List.zipIdx_map_snd]
    exact List.pairwise_lt_range'
  exact List.pairwise_map.mp h

theorem pairwise_places (cells : List Cell) :
    ((places cells).map Prod.snd).Pairwise Before := by
  rw [List.pairwise_map, places, List.pairwise_flatMap]
  constructor
  · rintro ⟨cell, number⟩ -
    rw [List.pairwise_map]
    exact (pairwise_zipIdx cell.text 0).imp fun h => .inr ⟨rfl, h⟩
  · refine (pairwise_zipIdx cells 0).imp fun {a b} h x hx y hy => ?_
    simp only [List.mem_map] at hx hy
    obtain ⟨-, -, rfl⟩ := hx
    obtain ⟨-, -, rfl⟩ := hy
    exact .inl h

/-- What is picked from each segment is a part of the row. -/
theorem places_sublist (segments : List (Segment Rule (Char × Nat × Nat))) :
    ((segments.filterMap overlayOf).map fun overlay => (overlay.cell, overlay.offset)).Sublist
      ((segments.flatMap Segment.items).map Prod.snd) := by
  induction segments with
  | nil => exact .slnil
  | cons segment rest ih =>
    rw [List.flatMap_cons, List.map_append]
    cases h : overlayOf segment with
    | none =>
      rw [List.filterMap_cons_none h]
      exact ih.trans (List.sublist_append_right _ _)
    | some overlay =>
      obtain ⟨⟨c, hmem⟩, -⟩ := overlayOf_eq_some h
      have hplace : (overlay.cell, overlay.offset) ∈ segment.items.map Prod.snd :=
        List.mem_map.mpr ⟨_, hmem, rfl⟩
      rw [List.filterMap_cons_some h, List.map_cons, ← List.singleton_append]
      exact (List.singleton_sublist.mpr hplace).append ih

/-- The overlays stand in the order of their places; no two are at one place. -/
theorem pairwise_overlays (cells : List Cell) :
    (encoder.overlays cells).Pairwise fun a b =>
      Before (a.cell, a.offset) (b.cell, b.offset) := by
  have hsub := places_sublist
    (Segment.segments Rule.automaton encoder.rules.templates Prod.fst (places cells))
  rw [Segment.flatMap_items] at hsub
  exact List.pairwise_map.mp ((pairwise_places cells).sublist hsub)

end Encoder
end PhoneticSearch

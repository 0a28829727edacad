import PhoneticSearch.Proofs.Encoding.Clash
import PhoneticSearch.Proofs.Encoding.Reading

/-!
# The template pass

* `Encoder.getElem?_foldr_apply`: the pass treats each cell by the overlays on it.
* `Encoder.resolved`: the pass as it is meant, with all phones of the overlays looked for first.
* `Encoder.Apart`: no two overlays are meant for one phone where the right one fans out.
* `Encoder.overlaid_eq_resolved_iff`: the pass does what it is meant to just if the overlays are
  apart; else it fails for some phones.
-/

namespace PhoneticSearch

/-- What an overlay is but for its phones: its place and their number. -/
def Overlay.shape (overlay : Overlay) : Nat × Nat × Nat :=
  (overlay.cell, overlay.offset, overlay.phones.length)

@[simp] theorem Overlay.shape_painted (overlay : Overlay) (phone : Phone) :
    (overlay.painted phone).shape = overlay.shape := by
  simp [Overlay.shape, Overlay.painted]

namespace Encoder

variable (encoder : Encoder)

def phoneCount (cells : List Cell) (number : Nat) : Nat :=
  (cells.map fun cell => cell.phones.length).getD number 0

/-- The cells after the template pass, when every overlay reaches all phones that come of the phone
it is meant for. -/
def resolved (features : FeatureSet) (overlays : List Overlay) (cells : List Cell) : List Cell :=
  cells.zipIdx.map fun entry =>
    entry.1.resolve features (overlays.filter fun overlay => overlay.cell == entry.2)

/-- Of two overlays that are meant for one phone the right one, which is applied first, gives one
phone. -/
def Apart (cells : List Cell) (overlays : List Overlay) : Prop :=
  overlays.Pairwise fun left right =>
    left.cell = right.cell →
      left.target (phoneCount cells left.cell) = right.target (phoneCount cells left.cell) →
        right.phones.length ≤ 1

/-! ## Cell by cell -/

/-- The overlays on one cell are applied to it in their order. -/
theorem getElem?_foldr_apply (overlays : List Overlay) (cells : Array Cell) (number : Nat) :
    (overlays.foldr encoder.apply cells)[number]? =
      cells[number]?.map
        (Cell.lay encoder.features (overlays.filter fun overlay => overlay.cell == number)) := by
  induction overlays with
  | nil =>
    change cells[number]? = cells[number]?.map id
    rw [Option.map_id, id]
  | cons overlay rest ih =>
    rw [List.foldr_cons, apply, Array.getElem?_modify, ih, List.filter_cons]
    by_cases h : overlay.cell = number
    · rw [if_pos h, if_pos (by simpa using h), Option.map_map]
      rfl
    · rw [if_neg h, if_neg (by simpa using h)]

theorem getElem?_resolved (features : FeatureSet) (overlays : List Overlay) (cells : List Cell)
    (number : Nat) :
    (resolved features overlays cells)[number]? =
      cells[number]?.map
        (Cell.resolve features (overlays.filter fun overlay => overlay.cell == number)) := by
  rw [resolved, List.getElem?_map, List.getElem?_zipIdx, Option.map_map, Nat.zero_add]
  rfl

theorem phoneCount_eq {cells : List Cell} {number : Nat} {cell : Cell}
    (h : cells[number]? = some cell) : phoneCount cells number = cell.phones.length := by
  simp [phoneCount, List.getD, h]

/-- Overlays that are apart reach all phones that they are meant for. -/
theorem foldr_apply_eq_resolved {overlays : List Overlay} {cells : List Cell}
    (hcells : ∀ cell ∈ cells, cell.phones ≠ [])
    (hphones : ∀ overlay ∈ overlays, overlay.phones ≠ [])
    (hsorted : overlays.Pairwise fun a b => Before (a.cell, a.offset) (b.cell, b.offset))
    (hapart : Apart cells overlays) :
    (overlays.foldr encoder.apply cells.toArray).toList =
      resolved encoder.features overlays cells := by
  apply List.ext_getElem?
  intro number
  rw [Array.getElem?_toList, getElem?_foldr_apply, getElem?_resolved, List.getElem?_toArray]
  cases hcell : cells[number]? with
  | none => rfl
  | some cell =>
    rw [Option.map_some, Option.map_some, Cell.lay_eq_resolve]
    · exact hcells cell (List.mem_of_getElem? hcell)
    · exact fun overlay hmem => hphones overlay (List.mem_of_mem_filter hmem)
    · rw [List.pairwise_filter]
      refine hsorted.imp fun {a b} hab ha hb => ?_
      rw [beq_iff_eq] at ha hb
      rcases hab with hlt | ⟨-, hlt⟩
      · exact absurd hlt (by rw [ha, hb]; exact Nat.lt_irrefl number)
      · exact hlt
    · rw [List.pairwise_filter]
      refine hapart.imp fun {a b} hab ha hb => ?_
      rw [beq_iff_eq] at ha hb
      rw [ha, phoneCount_eq hcell] at hab
      exact hab hb.symm

/-! ## Overlays of one shape -/

section Shape

variable {overlays overlays' : List Overlay} {cells cells' : List Cell}
  (hshape : overlays'.map Overlay.shape = overlays.map Overlay.shape)

include hshape

/-- What holds for the shapes of overlays holds for all overlays of these shapes. -/
theorem pairwise_of_shape {R : Nat × Nat × Nat → Nat × Nat × Nat → Prop}
    (h : overlays.Pairwise fun a b => R a.shape b.shape) :
    overlays'.Pairwise fun a b => R a.shape b.shape := by
  rw [← List.pairwise_map (f := Overlay.shape), hshape]
  exact List.pairwise_map.mpr h

theorem forall_of_shape {p : Nat × Nat × Nat → Prop} (h : ∀ overlay ∈ overlays, p overlay.shape) :
    ∀ overlay ∈ overlays', p overlay.shape := by
  intro overlay hmem
  have hmap : overlay.shape ∈ overlays'.map Overlay.shape := List.mem_map_of_mem hmem
  rw [hshape] at hmap
  obtain ⟨other, hother, heq⟩ := List.mem_map.mp hmap
  rw [← heq]
  exact h other hother

theorem apart_of_shape
    (hcounts : (cells'.map fun cell => cell.phones.length) =
      cells.map fun cell => cell.phones.length)
    (h : Apart cells overlays) : Apart cells' overlays' := by
  have hcount : phoneCount cells' = phoneCount cells := by
    funext number
    rw [phoneCount, phoneCount, hcounts]
  rw [Apart, hcount]
  exact pairwise_of_shape hshape (R := fun left right =>
    left.1 = right.1 →
      min left.2.1 (phoneCount cells left.1 - 1) = min right.2.1 (phoneCount cells left.1 - 1) →
        right.2.2 ≤ 1) h

end Shape

/-! ## Clashes -/

theorem exists_split_of_not_pairwise {α : Type} {R : α → α → Prop} {items : List α}
    (h : ¬ items.Pairwise R) :
    ∃ before a after b, items = before ++ a :: after ∧ b ∈ after ∧ ¬ R a b := by
  induction items with
  | nil => exact absurd List.Pairwise.nil h
  | cons a rest ih =>
    by_cases hrest : rest.Pairwise R
    · have hhead : ¬ ∀ b ∈ rest, R a b := fun hall => h (List.pairwise_cons.mpr ⟨hall, hrest⟩)
      simp only [not_forall] at hhead
      obtain ⟨b, hmem, hnot⟩ := hhead
      exact ⟨[], a, rest, b, rfl, hmem, hnot⟩
    · obtain ⟨before, a', after, b, rfl, hmem, hnot⟩ := ih hrest
      exact ⟨a :: before, a', after, b, rfl, hmem, hnot⟩

/-- Two overlays that clash lie on the last phone of their cell or behind it. -/
theorem exists_clash {overlays : List Overlay} {cells : List Cell}
    (hsorted : overlays.Pairwise fun a b => Before (a.cell, a.offset) (b.cell, b.offset))
    (h : ¬ Apart cells overlays) :
    ∃ before left after, overlays = before ++ left :: after ∧
      (∀ other ∈ after, other.cell = left.cell → left.offset < other.offset) ∧
        phoneCount cells left.cell - 1 ≤ left.offset ∧
          ∃ right ∈ after, right.cell = left.cell ∧ 2 ≤ right.phones.length := by
  obtain ⟨before, left, after, right, rfl, hright, hclash⟩ := exists_split_of_not_pairwise h
  simp only [Classical.not_imp, not_le] at hclash
  obtain ⟨hsame, htarget, hfan⟩ := hclash
  have hbehind : ∀ other ∈ after, other.cell = left.cell → left.offset < other.offset := by
    intro other hmem heq
    have hpair := (List.pairwise_cons.mp (List.pairwise_append.mp hsorted).2.1).1 other hmem
    rcases hpair with hlt | ⟨-, hlt⟩
    · exact absurd hlt (by rw [heq]; exact Nat.lt_irrefl _)
    · exact hlt
  have hlt := hbehind right hright hsame.symm
  rw [Overlay.target, Overlay.target] at htarget
  exact ⟨before, left, after, rfl, hbehind, by omega, right, hright, hsame.symm, hfan⟩

theorem map_phones_length_set {cells : List Cell} {number : Nat} {cell cell' : Cell}
    (hcell : cells[number]? = some cell) (h : cell'.phones.length = cell.phones.length) :
    ((cells.set number cell').map fun cell => cell.phones.length) =
      cells.map fun cell => cell.phones.length := by
  have hget : (cells.map fun cell => cell.phones.length)[number]? = some cell'.phones.length := by
    simp [hcell, h]
  obtain ⟨hlt, hget⟩ := List.getElem?_eq_some_iff.mp hget
  rw [List.map_set, ← hget]
  exact List.set_getElem_self hlt

/-- Overlays that clash do not reach all phones that they are meant for, at least when they have
other phones. -/
theorem exists_ne_of_not_apart {overlays : List Overlay} {cells : List Cell}
    (hnumbers : ∀ overlay ∈ overlays, ∃ cell, cells[overlay.cell]? = some cell)
    (hcells : ∀ cell ∈ cells, cell.phones ≠ [])
    (hphones : ∀ overlay ∈ overlays, overlay.phones ≠ [])
    (hsorted : overlays.Pairwise fun a b => Before (a.cell, a.offset) (b.cell, b.offset))
    (h : ¬ Apart cells overlays) :
    ∃ (overlays' : List Overlay) (cells' : List Cell),
      overlays'.map Overlay.shape = overlays.map Overlay.shape ∧
        (cells'.map fun cell => cell.phones.length) =
            (cells.map fun cell => cell.phones.length) ∧
          (overlays'.foldr encoder.apply cells'.toArray).toList ≠
            resolved encoder.features overlays' cells' := by
  obtain ⟨before, left, after, rfl, hbehind, hleft, right, hright, hsame, hfan⟩ :=
    exists_clash hsorted h
  obtain ⟨cell, hcell⟩ := hnumbers left (by simp)
  obtain ⟨n, hn⟩ : ∃ n, cell.phones.length = n + 1 :=
    Nat.exists_eq_add_one.mpr (List.length_pos_iff.mpr (hcells cell (List.mem_of_getElem? hcell)))
  rw [phoneCount_eq hcell, hn, Nat.add_sub_cancel] at hleft
  obtain ⟨x, z, hxz, hx⟩ := exists_override_eq encoder.features
  have hoffset : ∀ other ∈ left :: after.filter (fun other => other.cell == left.cell),
      n ≤ other.offset := by
    intro other hmem
    rcases List.mem_cons.mp hmem with rfl | hmem
    · exact hleft
    · rw [List.mem_filter, beq_iff_eq] at hmem
      exact hleft.trans (hbehind other hmem.1 hmem.2).le
  have hphones' : ∀ other ∈ left :: after.filter (fun other => other.cell == left.cell),
      other.phones ≠ [] := by
    intro other hmem
    rcases List.mem_cons.mp hmem with rfl | hmem
    · exact hphones other (by simp)
    · exact hphones other (by simp [List.mem_of_mem_filter hmem])
  -- all phones show the same but the last one, and nothing but the left overlay shows at all
  refine ⟨before.map Overlay.blank ++ left.painted [x] :: after.map Overlay.blank,
    cells.set left.cell ⟨cell.text, List.replicate n [x] ++ [[z]]⟩, ?_, ?_, ?_⟩
  · simp [Overlay.blank, Function.comp_def]
  · exact map_phones_length_set hcell (by simp [hn])
  · intro heq
    obtain ⟨hlt, -⟩ := List.getElem?_eq_some_iff.mp hcell
    have hcells' := congrArg (fun list : List Cell => list[left.cell]?) heq
    simp only [Array.getElem?_toList, getElem?_foldr_apply, getElem?_resolved,
      List.getElem?_toArray, List.getElem?_set_self hlt, Option.map_some,
      Option.some.injEq] at hcells'
    rw [Cell.filter_painted before after left [x] _ fun _ _ => rfl, beq_self_eq_true, if_pos rfl,
      List.singleton_append] at hcells'
    exact Cell.lay_ne_resolve encoder.features _ hx hxz rfl hphones' hoffset
      ⟨right, by simp [hright, hsame], hfan⟩ hcells'

/-- The template pass does what it is meant to if its overlays are apart. This is needed: if they
are not, then some overlays at the same places, with as many phones, on cells with as many phones,
are not given all phones that they are meant for. -/
theorem overlaid_eq_resolved_iff (source : List Char) :
    let cells := encoder.cells source
    let overlays := encoder.overlays cells
    (Apart cells overlays →
      encoder.overlaid cells = resolved encoder.features overlays cells) ∧
    (Apart cells overlays ↔
      ∀ (overlays' : List Overlay) (cells' : List Cell),
        overlays'.map Overlay.shape = overlays.map Overlay.shape →
          (cells'.map fun cell => cell.phones.length) =
              (cells.map fun cell => cell.phones.length) →
            (overlays'.foldr encoder.apply cells'.toArray).toList =
              resolved encoder.features overlays' cells') := by
  intro cells overlays
  have hcells : ∀ cell ∈ cells, cell.phones ≠ [] := fun _ => encoder.phones_ne_nil_of_mem_cells
  have hphones : ∀ overlay ∈ overlays, overlay.phones ≠ [] :=
    fun _ => encoder.phones_ne_nil_of_mem_overlays
  have hsorted : overlays.Pairwise fun a b => Before (a.cell, a.offset) (b.cell, b.offset) :=
    encoder.pairwise_overlays cells
  refine ⟨encoder.foldr_apply_eq_resolved hcells hphones hsorted, ?_, ?_⟩
  · intro hapart overlays' cells' hshape hcounts
    apply encoder.foldr_apply_eq_resolved
    · intro cell hmem
      have hmap : cell.phones.length ∈ cells'.map fun cell => cell.phones.length :=
        List.mem_map_of_mem hmem
      rw [hcounts] at hmap
      obtain ⟨other, hother, heq⟩ := List.mem_map.mp hmap
      have hpos := List.length_pos_iff.mpr (hcells other hother)
      exact List.length_pos_iff.mp (heq ▸ hpos)
    · have hpos := forall_of_shape hshape (p := fun shape => 0 < shape.2.2) fun overlay hmem =>
        List.length_pos_iff.mpr (hphones overlay hmem)
      exact fun overlay hmem => List.length_pos_iff.mp (hpos overlay hmem)
    · exact pairwise_of_shape hshape (R := fun a b => Before (a.1, a.2.1) (b.1, b.2.1)) hsorted
    · exact apart_of_shape hshape hcounts hapart
  · intro hall
    by_contra hclash
    obtain ⟨overlays', cells', hshape, hcounts, hne⟩ := encoder.exists_ne_of_not_apart
      (fun _ => encoder.exists_cell_of_mem_overlays) hcells hphones hsorted hclash
    exact hne (hall overlays' cells' hshape hcounts)

/-! ## An encoder with a clash -/

/-- Two templates, of which the one with two phones matches to the right of the other one in what
stands for `x`. -/
def clashingPatterns : List Pattern :=
  [.ofParts "p_" [[1, 0]] none none, .ofParts "_s" [[0, 1], [0, -1]] none none,
    .ofParts "x" [[0, 0]] (some "pqrs") none]

def clashing : Encoder :=
  ofPatterns "raw" (FeatureSet.ofGroups "features" ["a", "b"] 1 (-1) none) clashingPatterns

theorem rules_clashing : clashing.rules = RuleTable.ofPatterns clashingPatterns := by
  have hsorted : Encoding.byLength clashingPatterns = clashingPatterns :=
    List.mergeSort_of_pairwise (by decide)
  rw [clashing, rules_ofPatterns, hsorted]

theorem cells_clashing : clashing.cells ['x'] = [⟨['p', 'q', 'r', 's'], [[0, 0]]⟩] := by
  have hmatch : Segment.longestMatch Rule.automaton
      (RuleTable.ofPatterns clashingPatterns).replacements id ['x'] =
      some (Rule.ofPattern (.ofParts "x" [[0, 0]] (some "pqrs") none), 1) := rfl
  rw [cells, segments, rules_clashing, Segment.segments, hmatch]
  simp only [List.drop_nil]
  rw [Segment.segments]
  rfl

/-- The overlays on the characters `pqrs`, wherever they stand. -/
theorem overlays_clashing {cells : List Cell} {p q r s : Nat × Nat}
    (h : places cells = [('p', p), ('q', q), ('r', r), ('s', s)]) :
    clashing.overlays cells = [⟨q.1, q.2, [[1, 0]]⟩, ⟨r.1, r.2, [[0, 1], [0, -1]]⟩] := by
  have hleft : Segment.longestMatch Rule.automaton
      (RuleTable.ofPatterns clashingPatterns).templates Prod.fst
      [('p', p), ('q', q), ('r', r), ('s', s)] =
      some (Rule.ofPattern (.ofParts "p_" [[1, 0]] none none), 2) := rfl
  have hright : Segment.longestMatch Rule.automaton
      (RuleTable.ofPatterns clashingPatterns).templates Prod.fst [('r', r), ('s', s)] =
      some (Rule.ofPattern (.ofParts "_s" [[0, 1], [0, -1]] none none), 2) := rfl
  rw [overlays, rules_clashing, h, Segment.segments, hleft]
  simp only [Nat.reduceSub, List.drop_succ_cons, List.drop_zero]
  rw [Segment.segments, hright]
  simp only [Nat.reduceSub, List.drop_succ_cons, List.drop_zero]
  rw [Segment.segments]
  rfl

/-- The left overlay misses the first of the two phones that the right one gives. -/
theorem transduce_clashing_ne_resolved :
    let cells := clashing.cells ['x']
    let meant := phonesOf (resolved clashing.features (clashing.overlays cells) cells)
    (clashing.transduce "x").phones = [[0, 1], [1, -1]] ∧ meant = [[1, 1], [1, -1]] ∧
      (clashing.transduce "x").phones ≠ meant := by
  intro cells meant
  have hcells : cells = [⟨['p', 'q', 'r', 's'], [[0, 0]]⟩] := cells_clashing
  have hoverlays : clashing.overlays cells = [⟨0, 1, [[1, 0]]⟩, ⟨0, 2, [[0, 1], [0, -1]]⟩] := by
    rw [hcells]
    exact @overlays_clashing _ (0, 0) (0, 1) (0, 2) (0, 3) rfl
  have hphones : (clashing.transduce "x").phones = [[0, 1], [1, -1]] := by
    change phonesOf (clashing.overlaid cells) = _
    rw [overlaid, hoverlays, hcells]
    decide
  have hmeant : meant = [[1, 1], [1, -1]] := by
    simp only [meant]
    rw [hoverlays, hcells]
    decide
  refine ⟨hphones, hmeant, ?_⟩
  rw [hphones, hmeant]
  decide

/-- The same templates, each on a phone of its own. -/
theorem overlaid_clashing_apart :
    let cells := clashing.cells ['p', 'q', 'r', 's']
    Apart cells (clashing.overlays cells) ∧
      clashing.overlaid cells = resolved clashing.features (clashing.overlays cells) cells := by
  intro cells
  have hsegments : clashing.segments ['p', 'q', 'r', 's'] =
      [.bare 'p', .bare 'q', .bare 'r', .bare 's'] := by
    rw [clashing, segments_bare _ _ _ rfl, segments_bare _ _ _ rfl, segments_bare _ _ _ rfl,
      segments_bare _ _ _ rfl, segments, Segment.segments]
  have hplaces : places cells = [('p', 0, 0), ('q', 1, 0), ('r', 2, 0), ('s', 3, 0)] := by
    simp only [cells, Encoder.cells, hsegments]
    rfl
  have hapart : Apart cells (clashing.overlays cells) := by
    rw [overlays_clashing hplaces]
    simp [Apart]
  exact ⟨hapart, (overlaid_eq_resolved_iff clashing ['p', 'q', 'r', 's']).1 hapart⟩

end Encoder
end PhoneticSearch

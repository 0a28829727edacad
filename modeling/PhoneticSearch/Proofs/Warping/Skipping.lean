import PhoneticSearch.Proofs.Warping.Band
import PhoneticSearch.Proofs.Warping.SequenceDistance

/-!
# What a tolerance allows

* `FreeStart`: the places of the table that cost nothing: elements of at most one sequence lie before
  them, and no more than allowed.
* `tableAfter`: the table of what is left after some elements, when nothing may be skipped in it.
* `table_le_tableAfter`, `exists_tableAfter_eq`: a table is nowhere above those of what is left after
  a free start, and equals one of them in each place (`isLeast_table_tableAfter`).
* `sequenceDistance_isLeast_drop`: a tolerance stands for skipping a prefix of one sequence.
-/

namespace PhoneticSearch
namespace Warping

variable {κ : Type}

/-- A place of the table with the elements of one sequence before it at most, as many as allowed. -/
def FreeStart (rows columns a b : Nat) : Prop := a ≤ rows ∧ b = 0 ∨ a = 0 ∧ b ≤ columns

/-- The table of what is left after `a` elements of one sequence and `b` of the other one, of which
nothing may be skipped. -/
def tableAfter (costs : Costs κ) (element : Nat → Nat → κ) (a b : Nat) : Nat → Nat → κ :=
  table costs (fun i j => element (a + i) (b + j)) 0 0

section Equations

variable (costs : Costs κ) (element : Nat → Nat → κ) (a b i j : Nat)

theorem tableAfter_corner : tableAfter costs element a b 0 0 = costs.zero := by
  rw [tableAfter, table_zero, border, if_pos (Nat.le_refl 0)]

theorem tableAfter_upper : tableAfter costs element a b 0 (j + 1) = costs.top := by
  rw [tableAfter, table_zero, border, if_neg (Nat.not_succ_le_zero j)]

theorem tableAfter_left : tableAfter costs element a b (i + 1) 0 = costs.top := by
  rw [tableAfter, table_left, border, if_neg (Nat.not_succ_le_zero i)]

theorem tableAfter_succ :
    tableAfter costs element a b (i + 1) (j + 1) =
      cell costs (element (a + i) (b + j)) (tableAfter costs element a b i (j + 1))
        (tableAfter costs element a b (i + 1) j) (tableAfter costs element a b i j) :=
  table_succ ..

end Equations

variable {rows columns a b : Nat}

theorem table_of_freeStart (costs : Costs κ) (element : Nat → Nat → κ)
    (h : FreeStart rows columns a b) : table costs element rows columns a b = costs.zero := by
  rcases h with ⟨ha, rfl⟩ | ⟨rfl, hb⟩
  · rw [table_of_empty _ _ _ _ _ _ (.inr rfl), if_pos ⟨ha, Nat.zero_le _⟩]
  · rw [table_of_empty _ _ _ _ _ _ (.inl rfl), if_pos ⟨Nat.zero_le _, hb⟩]

/-- A path begins at a free start, and is a path through what is left from there on. -/
theorem Path.exists_after (costs : Costs κ) (element : Nat → Nat → κ) {i j : Nat}
    (path : Path rows columns i j) :
    ∃ a b i' j', FreeStart rows columns a b ∧ a + i' = i ∧ b + j' = j ∧
      ∃ rest : Path 0 0 i' j',
        rest.cost costs (fun i j => element (a + i) (b + j)) = path.cost costs element := by
  induction path with
  | upper j h => exact ⟨0, j, 0, 0, .inr ⟨rfl, h⟩, rfl, rfl, .upper 0 (Nat.le_refl 0), rfl⟩
  | left i h => exact ⟨i, 0, 0, 0, .inl ⟨h, rfl⟩, rfl, rfl, .left 0 (Nat.le_refl 0), rfl⟩
  | down path ih =>
    obtain ⟨a, b, i', j', hfree, rfl, rfl, rest, hcost⟩ := ih
    refine ⟨a, b, i' + 1, j', hfree, rfl, rfl, rest.down, ?_⟩
    rw [Path.cost_down, Path.cost_down, hcost, Nat.add_assoc]
  | right path ih =>
    obtain ⟨a, b, i', j', hfree, rfl, rfl, rest, hcost⟩ := ih
    refine ⟨a, b, i', j' + 1, hfree, rfl, rfl, rest.right, ?_⟩
    rw [Path.cost_right, Path.cost_right, hcost, Nat.add_assoc]
  | diagonal path ih =>
    obtain ⟨a, b, i', j', hfree, rfl, rfl, rest, hcost⟩ := ih
    refine ⟨a, b, i' + 1, j' + 1, hfree, rfl, rfl, rest.diagonal, ?_⟩
    rw [Path.cost_diagonal, Path.cost_diagonal, hcost, Nat.add_assoc, Nat.add_assoc]

/-- On the border there is no path: all that is left is skipped, or nothing is comparable. -/
theorem exists_tableAfter_eq_of_empty (costs : Costs κ) (element : Nat → Nat → κ) {i j : Nat}
    (h : i = 0 ∨ j = 0) :
    ∃ a b i' j', FreeStart rows columns a b ∧ a + i' = i ∧ b + j' = j ∧
      tableAfter costs element a b i' j' = table costs element rows columns i j := by
  by_cases hall : i ≤ rows ∧ j ≤ columns
  · refine ⟨i, j, 0, 0, ?_, rfl, rfl, ?_⟩
    · rcases h with rfl | rfl
      · exact .inr ⟨rfl, hall.2⟩
      · exact .inl ⟨hall.1, rfl⟩
    · rw [tableAfter_corner, table_of_empty _ _ _ _ _ _ h, if_pos hall]
  · refine ⟨0, 0, i, j, .inl ⟨Nat.zero_le _, rfl⟩, Nat.zero_add i, Nat.zero_add j, ?_⟩
    have hnone : ¬ (i ≤ 0 ∧ j ≤ 0) := by omega
    rw [tableAfter, table_of_empty _ _ _ _ _ _ h, if_neg hnone, table_of_empty _ _ _ _ _ _ h,
      if_neg hall]

section Lawful

variable [LinearOrder κ] {costs : Costs κ} (lawful : costs.Lawful) (element : Nat → Nat → κ)

include lawful

/-- Nothing is cheaper for what is skipped at a free start. -/
theorem table_le_tableAfter (h : FreeStart rows columns a b) (i j : Nat) :
    table costs element rows columns (a + i) (b + j) ≤ tableAfter costs element a b i j := by
  induction i generalizing j with
  | zero =>
    cases j with
    | zero =>
      rw [tableAfter_corner, Nat.add_zero, Nat.add_zero, table_of_freeStart _ _ h]
    | succ j =>
      rw [tableAfter_upper]
      exact table_le_top lawful element _ _
  | succ i ihi =>
    induction j with
    | zero =>
      rw [tableAfter_left]
      exact table_le_top lawful element _ _
    | succ j ihj =>
      rw [tableAfter_succ, ← Nat.add_assoc, ← Nat.add_assoc, table_succ]
      exact cell_mono lawful le_rfl (ihi (j + 1)) ihj (ihi j)

theorem exists_tableAfter_eq (i j : Nat) :
    ∃ a b i' j', FreeStart rows columns a b ∧ a + i' = i ∧ b + j' = j ∧
      tableAfter costs element a b i' j' = table costs element rows columns i j := by
  cases i with
  | zero => exact exists_tableAfter_eq_of_empty costs element (.inl rfl)
  | succ i =>
    cases j with
    | zero => exact exists_tableAfter_eq_of_empty costs element (.inr rfl)
    | succ j =>
      obtain ⟨path, hpath⟩ := @exists_cost_eq _ rows columns _ _ lawful element i j
      obtain ⟨a, b, i', j', hfree, rfl, rfl, rest, hrest⟩ := path.exists_after costs element
      refine ⟨a, b, i' + 1, j' + 1, hfree, rfl, rfl, le_antisymm ?_ ?_⟩
      · rw [← hpath, ← hrest]
        exact table_le_cost lawful _ rest
      · exact table_le_tableAfter lawful element hfree (i' + 1) (j' + 1)

/-- Each place of a table holds the least of what is left after a free start. -/
theorem isLeast_table_tableAfter (i j : Nat) :
    IsLeast
      {x | ∃ a b i' j', FreeStart rows columns a b ∧ a + i' = i ∧ b + j' = j ∧
        tableAfter costs element a b i' j' = x}
      (table costs element rows columns i j) := by
  constructor
  · exact exists_tableAfter_eq lawful element i j
  · rintro _ ⟨a, b, i', j', hfree, rfl, rfl, rfl⟩
    exact table_le_tableAfter lawful element hfree i' j'

end Lawful

section

variable {element : Nat → Nat → Float} (h : ∀ i j, 0 ≤ element i j ∨ (element i j).isNaN = true)

include h

theorem tableAfter_toFloat (a b i j : Nat) :
    tableAfter floatCosts element a b i j =
      (tableAfter magnitudeCosts (fun i j => Magnitude.ofFloat (element i j)) a b i j).toFloat :=
  table_toFloat (fun i j => h (a + i) (b + j)) i j

theorem isLeast_table_tableAfter_toFloat (i j : Nat) :
    IsLeast
      {x | ∃ a b i' j', FreeStart rows columns a b ∧ a + i' = i ∧ b + j' = j ∧
        tableAfter floatCosts element a b i' j' = x}
      (table floatCosts element rows columns i j) := by
  obtain ⟨⟨a, b, i', j', hfree, hi, hj, hequal⟩, hle⟩ :=
    @isLeast_table_tableAfter _ rows columns _ _ magnitudeCosts_lawful
      (fun i j => Magnitude.ofFloat (element i j)) i j
  constructor
  · refine ⟨a, b, i', j', hfree, hi, hj, ?_⟩
    rw [tableAfter_toFloat h, table_toFloat h, hequal]
  · rintro _ ⟨a, b, i', j', hfree, hi, hj, rfl⟩
    rw [tableAfter_toFloat h, table_toFloat h]
    exact Magnitude.toFloat_le.mpr (hle ⟨a, b, i', j', hfree, hi, hj, rfl⟩)

end

theorem elementCost_drop {α β : Type} (costs : Costs κ) (cost : α → β → κ) (s : List α) (t : List β)
    (a b i j : Nat) :
    elementCost costs cost (s.drop a) (t.drop b) i j =
      elementCost costs cost s t (a + i) (b + j) := by
  rw [elementCost, List.getElem?_drop, List.getElem?_drop, elementCost]

end Warping

section Tolerance

open Warping

variable {α β : Type} {s : List α} {t : List β} {distance : α → β → Float}

theorem sequenceDistance_drop {a b i j : Nat} (hs : a + i = s.length) (ht : b + j = t.length) :
    sequenceDistance (s.drop a) (t.drop b) distance 0 =
      tableAfter floatCosts (elementCost floatCosts distance s t) a b i j := by
  have hi : (s.drop a).length = i := by rw [List.length_drop]; omega
  have hj : (t.drop b).length = j := by rw [List.length_drop]; omega
  have helement : elementCost floatCosts distance (s.drop a) (t.drop b) =
      fun i j => elementCost floatCosts distance s t (a + i) (b + j) := by
    funext i j
    exact elementCost_drop floatCosts distance s t a b i j
  rw [sequenceDistance, distance_eq_table, bandWidth_zero, bandWidth_zero, helement, hi, hj,
    tableAfter]

/-- What is left after a free start is what is left of one sequence, and the whole other one. -/
theorem exists_freeStart_iff (s : List α) (t : List β) (distance : α → β → Float)
    (rows columns : Nat) (d : Float) :
    (∃ a b i j, FreeStart rows columns a b ∧ a + i = s.length ∧ b + j = t.length ∧
        tableAfter floatCosts (elementCost floatCosts distance s t) a b i j = d) ↔
      (∃ k ≤ min rows s.length, sequenceDistance (s.drop k) t distance 0 = d) ∨
        ∃ k ≤ min columns t.length, sequenceDistance s (t.drop k) distance 0 = d := by
  constructor
  · rintro ⟨a, b, i, j, hfree, hs, ht, rfl⟩
    rw [← sequenceDistance_drop hs ht]
    rcases hfree with ⟨ha, rfl⟩ | ⟨rfl, hb⟩
    · exact .inl ⟨a, le_min ha (by omega), rfl⟩
    · exact .inr ⟨b, le_min hb (by omega), rfl⟩
  · rintro (⟨k, hk, rfl⟩ | ⟨k, hk, rfl⟩)
    · obtain ⟨hrows, hlength⟩ := le_min_iff.mp hk
      have hs : k + (s.length - k) = s.length := Nat.add_sub_cancel' hlength
      exact ⟨k, 0, _, _, .inl ⟨hrows, rfl⟩, hs, Nat.zero_add _,
        (sequenceDistance_drop hs (Nat.zero_add _)).symm⟩
    · obtain ⟨hcolumns, hlength⟩ := le_min_iff.mp hk
      have ht : k + (t.length - k) = t.length := Nat.add_sub_cancel' hlength
      exact ⟨0, k, _, _, .inr ⟨rfl, hcolumns⟩, Nat.zero_add _, ht,
        (sequenceDistance_drop (Nat.zero_add _) ht).symm⟩

/-- A tolerance allows to skip a prefix of one of the two sequences, and nothing else: the distance
is the least of the distances without tolerance of what is left. -/
theorem sequenceDistance_isLeast_drop (h : ∀ x ∈ s, ∀ y ∈ t, 0 ≤ distance x y)
    (tolerance : Float) :
    IsLeast
      ({d | ∃ k ≤ min (bandWidth tolerance s.length) s.length,
          sequenceDistance (s.drop k) t distance 0 = d} ∪
        {d | ∃ k ≤ min (bandWidth tolerance t.length) t.length,
          sequenceDistance s (t.drop k) distance 0 = d})
      (sequenceDistance s t distance tolerance) := by
  have hnonneg : ∀ i j, 0 ≤ elementCost floatCosts distance s t i j ∨
      (elementCost floatCosts distance s t i j).isNaN = true :=
    fun i j => .inl (elementCost_nonneg h i j)
  have hleast := @isLeast_table_tableAfter_toFloat (bandWidth tolerance s.length)
    (bandWidth tolerance t.length) _ hnonneg s.length t.length
  rw [← distance_eq_table, ← sequenceDistance] at hleast
  simp only [exists_freeStart_iff] at hleast
  exact hleast

/-- Two elements of the first sequence may be skipped and one of the second one; after the `9` the
sequences differ by `1` in one place. -/
theorem sequenceDistance_isLeast_drop_leading :
    let distance : Float → Float → Float := fun x y => (x - y).abs
    (∀ x ∈ [9, 1, 2, 4], ∀ y ∈ [1, 2, 3], 0 ≤ distance x y) ∧
      IsLeast
        ({d | ∃ k ≤ min (bandWidth 0.3 4) 4,
            sequenceDistance ([9, 1, 2, 4].drop k) [1, 2, 3] distance 0 = d} ∪
          {d | ∃ k ≤ min (bandWidth 0.3 3) 3,
            sequenceDistance [9, 1, 2, 4] ([1, 2, 3].drop k) distance 0 = d})
        1 := by
  intro distance
  have h : ∀ x ∈ [9, 1, 2, 4], ∀ y ∈ [1, 2, 3], 0 ≤ distance x y := by decide
  have hone : sequenceDistance [9, 1, 2, 4] [1, 2, 3] distance 0.3 = 1 := by decide +kernel
  have hleast := sequenceDistance_isLeast_drop h 0.3
  rw [hone] at hleast
  exact ⟨h, hleast⟩

end Tolerance
end PhoneticSearch

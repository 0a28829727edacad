import PhoneticSearch.Warping

/-!
# The table behind the rows

* `table`: the recurrence for the cost of each cell, over the costs of the pairs of elements.
* `distance_eq_table`: the pass over the rows, which keeps only the last one, computes the last cell
  of the table.
-/

namespace PhoneticSearch
namespace Warping

variable {κ α β : Type}

/-- The cost of the cell below `i` elements of the first sequence and right of `j` elements of the
second one, when `element i j` is the cost of element `i` against element `j`. -/
def table (costs : Costs κ) (element : Nat → Nat → κ) (rows columns : Nat) : Nat → Nat → κ
  | 0, j => border costs columns j
  | i + 1, 0 => border costs rows (i + 1)
  | i + 1, j + 1 =>
    cell costs (element i j) (table costs element rows columns i (j + 1))
      (table costs element rows columns (i + 1) j) (table costs element rows columns i j)

section Equations

variable (costs : Costs κ) (element : Nat → Nat → κ) (rows columns i j : Nat)

@[simp] theorem table_zero : table costs element rows columns 0 j = border costs columns j := by
  rw [table]

@[simp] theorem table_left :
    table costs element rows columns (i + 1) 0 = border costs rows (i + 1) := by
  rw [table]

theorem table_succ :
    table costs element rows columns (i + 1) (j + 1) =
      cell costs (element i j) (table costs element rows columns i (j + 1))
        (table costs element rows columns (i + 1) j) (table costs element rows columns i j) := by
  rw [table]

/-- Against an empty sequence all of the other one is skipped, or nothing is comparable. -/
theorem table_of_empty (h : i = 0 ∨ j = 0) :
    table costs element rows columns i j =
      if i ≤ rows ∧ j ≤ columns then costs.zero else costs.top := by
  rcases h with rfl | rfl
  · simp [border]
  · cases i with
    | zero => simp [border]
    | succ i => simp [border]

end Equations

def elementCost (costs : Costs κ) (cost : α → β → κ) (s : List α) (t : List β) (i j : Nat) : κ :=
  match s[i]?, t[j]? with
  | some x, some y => cost x y
  | _, _ => costs.top

theorem elementCost_eq {costs : Costs κ} {cost : α → β → κ} {s : List α} {t : List β} {i j : Nat}
    {x : α} {y : β} (hx : s[i]? = some x) (hy : t[j]? = some y) :
    elementCost costs cost s t i j = cost x y := by
  simp [elementCost, hx, hy]

/-- The columns `k` to `k + n` of row `i`. -/
def tableRow (costs : Costs κ) (element : Nat → Nat → κ) (rows columns i k n : Nat) : List κ :=
  (List.range' k (n + 1)).map (table costs element rows columns i)

theorem tableRow_succ (costs : Costs κ) (element : Nat → Nat → κ) (rows columns i k n : Nat) :
    tableRow costs element rows columns i k (n + 1) =
      table costs element rows columns i k ::
        tableRow costs element rows columns i (k + 1) n := by
  simp [tableRow, List.range'_succ]

theorem tableRow_zero (costs : Costs κ) (element : Nat → Nat → κ) (rows columns i k : Nat) :
    tableRow costs element rows columns i k 0 = [table costs element rows columns i k] := by
  simp [tableRow]

theorem getLastD_tableRow (costs : Costs κ) (element : Nat → Nat → κ) (rows columns i k n : Nat)
    (default : κ) :
    (tableRow costs element rows columns i k n).getLastD default =
      table costs element rows columns i (k + n) := by
  simp [tableRow, List.range'_concat]

/-- One row of the pass: from a row of the table it computes the next one. -/
theorem row_tableRow (costs : Costs κ) (element : Nat → Nat → κ) (rows columns i : Nat)
    (cost : β → κ) (t : List β) (k : Nat)
    (h : ∀ j y, t[j]? = some y → element i (k + j) = cost y) :
    row costs cost t (tableRow costs element rows columns i k t.length)
      (table costs element rows columns (i + 1) k) =
      tableRow costs element rows columns (i + 1) k t.length := by
  induction t generalizing k with
  | nil => simp [tableRow_zero, row]
  | cons y ys ih =>
    have hy : element i k = cost y := h 0 y rfl
    have hys : ∀ j z, ys[j]? = some z → element i (k + 1 + j) = cost z := by
      intro j z hz
      rw [Nat.add_assoc, Nat.add_comm 1 j]
      exact h (j + 1) z (by simpa using hz)
    have hrest := ih (k + 1) hys
    rw [List.length_cons, tableRow_succ, tableRow_succ]
    -- the row above has at least two cells left, the second of which opens what is left of it
    obtain ⟨rest, hrow⟩ : ∃ rest, tableRow costs element rows columns i (k + 1) ys.length =
        table costs element rows columns i (k + 1) :: rest :=
      ⟨_, by rw [tableRow, List.range'_succ, List.map_cons]⟩
    rw [hrow] at hrest ⊢
    rw [row, ← hy, ← table_succ, hrest]

/-- The whole pass, from any row of the table on. -/
theorem lastRow_tableRow (costs : Costs κ) (element : Nat → Nat → κ) (rows columns : Nat)
    (cost : α → β → κ) (t : List β) (s : List α) (k : Nat)
    (h : ∀ i j x y, s[i]? = some x → t[j]? = some y → element (k + i) j = cost x y) :
    lastRow costs cost rows t s k (tableRow costs element rows columns k 0 t.length) =
      tableRow costs element rows columns (k + s.length) 0 t.length := by
  induction s generalizing k with
  | nil => simp [lastRow]
  | cons x xs ih =>
    have hrow : row costs (cost x) t (tableRow costs element rows columns k 0 t.length)
        (table costs element rows columns (k + 1) 0) =
        tableRow costs element rows columns (k + 1) 0 t.length := by
      apply row_tableRow
      intro j y hy
      rw [Nat.zero_add]
      exact h 0 j x y rfl hy
    rw [table_left] at hrow
    rw [lastRow, hrow, ih (k + 1), List.length_cons, Nat.add_assoc k 1, Nat.add_comm 1]
    intro i j x' y hx' hy
    rw [Nat.add_assoc, Nat.add_comm 1 i]
    exact h (i + 1) j x' y (by simpa using hx') hy

theorem upperBorder_eq (costs : Costs κ) (element : Nat → Nat → κ) (rows columns n : Nat) :
    upperBorder costs columns n = tableRow costs element rows columns 0 0 n := by
  rw [upperBorder, tableRow, List.range_eq_range']
  exact List.map_congr_left fun j _ => (table_zero costs element rows columns j).symm

theorem distance_eq_table (costs : Costs κ) (cost : α → β → κ) (rows columns : Nat) (s : List α)
    (t : List β) :
    distance costs cost rows columns s t =
      table costs (elementCost costs cost s t) rows columns s.length t.length := by
  rw [distance, upperBorder_eq costs (elementCost costs cost s t) rows, lastRow_tableRow,
    getLastD_tableRow, Nat.zero_add, Nat.zero_add]
  intro i j x y hx hy
  rw [Nat.zero_add]
  exact elementCost_eq hx hy

/-- The one cell of the table of two single elements. -/
theorem distance_singleton (costs : Costs κ) (cost : α → β → κ) (rows columns : Nat) (x : α)
    (y : β) :
    distance costs cost rows columns [x] [y] =
      cell costs (cost x y) (border costs columns 1) (border costs rows 1) costs.zero := rfl

end Warping
end PhoneticSearch

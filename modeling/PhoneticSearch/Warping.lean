/-!
# Warping

Elastic comparison of two sequences. A warping path goes through the table of element costs from
the border to the last cell, one step right, down or diagonally at a time, and costs what its
cells cost together.

* `Costs`: zero, a greatest cost, sum and minimum.
* `Warping.distance`: the cost of the cheapest path, computed row by row. A path may start
  without cost in the first `rows` places of the left border or the first `columns` places of the
  upper one, that is, skip as much of the start of one sequence.
-/

namespace PhoneticSearch

structure Costs (κ : Type) where
  zero : κ
  /-- The greatest cost, at which sums stop and which no path is allowed to start from. -/
  top : κ
  add : κ → κ → κ
  min : κ → κ → κ

namespace Warping

variable {κ α β : Type}

/-- The cost of starting after `skipped` elements when `allowed` may be skipped. -/
@[inline]
def border (costs : Costs κ) (allowed skipped : Nat) : κ :=
  if skipped ≤ allowed then costs.zero else costs.top

/-- The row above the table: the border of each prefix of the second sequence. -/
@[specialize costs]
def upperBorder (costs : Costs κ) (columns length : Nat) : List κ :=
  (List.range (length + 1)).map (border costs columns)

/-- The cost of a cell from those above it, to its left and diagonally before it. -/
@[inline]
def cell (costs : Costs κ) (cost above left before : κ) : κ :=
  costs.min (costs.add cost (costs.min (costs.min above left) before)) costs.top

/-- The row below `above`, from the cell `left` on: a cell for each element of the second
sequence. -/
@[specialize costs cost]
def row (costs : Costs κ) (cost : β → κ) : List β → List κ → κ → List κ
  | y :: ys, before :: above :: rest, left =>
    left :: row costs cost ys (above :: rest) (cell costs (cost y) above left before)
  | _, _, left => [left]

/-- The last row, from the row `above` the elements that are left of the first sequence;
`skipped` of it lie above. -/
@[specialize costs cost]
def lastRow (costs : Costs κ) (cost : α → β → κ) (rows : Nat) (t : List β) :
    List α → Nat → List κ → List κ
  | [], _, above => above
  | x :: xs, skipped, above =>
    lastRow costs cost rows t xs (skipped + 1)
      (row costs (cost x) t above (border costs rows (skipped + 1)))

@[specialize costs cost]
def distance (costs : Costs κ) (cost : α → β → κ) (rows columns : Nat) (s : List α) (t : List β) :
    κ :=
  (lastRow costs cost rows t s 0 (upperBorder costs columns t.length)).getLastD costs.top

end Warping

end PhoneticSearch

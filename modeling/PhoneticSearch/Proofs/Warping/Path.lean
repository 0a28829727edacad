import Mathlib.Order.Bounds.Defs
import Mathlib.Order.MinMax
import PhoneticSearch.Proofs.Warping.Table

/-!
# Warping paths

* `Path`: the ways through the table, from a free start on its border.
* `Costs.Lawful`: what sums and minima of costs have to keep to.
* `table_le_cost`, `exists_cost_eq`: no path is cheaper than the table says, and one path is as
  cheap; so the last cell is the least cost of a path (`isLeast_table`).
-/

namespace PhoneticSearch

/-- Costs whose sums grow in both parts, and never fall below the second one. -/
structure Costs.Lawful {κ : Type} [LinearOrder κ] (costs : Costs κ) : Prop where
  min_eq : ∀ x y, costs.min x y = Min.min x y
  zero_le : ∀ x, costs.zero ≤ x
  add_le_add : ∀ {x x' y y'}, x ≤ x' → y ≤ y' → costs.add x y ≤ costs.add x' y'
  le_add : ∀ x y, y ≤ costs.add x y

namespace Warping

/-- A path to the cell of elements `i` and `j`. It starts in the first row or column, where no more
than `columns` or `rows` elements are skipped. -/
inductive Path (rows columns : Nat) : Nat → Nat → Type
  | upper (j : Nat) : j ≤ columns → Path rows columns 0 j
  | left (i : Nat) : i ≤ rows → Path rows columns i 0
  | down {i j : Nat} : Path rows columns i j → Path rows columns (i + 1) j
  | right {i j : Nat} : Path rows columns i j → Path rows columns i (j + 1)
  | diagonal {i j : Nat} : Path rows columns i j → Path rows columns (i + 1) (j + 1)

variable {κ : Type} {rows columns : Nat}

/-- The sum with one more element cost, up to the greatest cost. -/
def step (costs : Costs κ) (cost sum : κ) : κ := costs.min (costs.add cost sum) costs.top

namespace Path

def cells {i j : Nat} : Path rows columns i j → List (Nat × Nat)
  | upper j _ => [(0, j)]
  | left i _ => [(i, 0)]
  | @down _ _ i j path => path.cells ++ [(i + 1, j)]
  | @right _ _ i j path => path.cells ++ [(i, j + 1)]
  | @diagonal _ _ i j path => path.cells ++ [(i + 1, j + 1)]

def cost (costs : Costs κ) (element : Nat → Nat → κ) {i j : Nat} (path : Path rows columns i j) :
    κ :=
  path.cells.foldl (fun sum place => step costs (element place.1 place.2) sum) costs.zero

section Equations

variable (costs : Costs κ) (element : Nat → Nat → κ) {i j : Nat} (path : Path rows columns i j)

@[simp] theorem cost_upper (h : j ≤ columns) :
    (upper j h : Path rows columns 0 j).cost costs element =
      step costs (element 0 j) costs.zero := rfl

@[simp] theorem cost_left (h : i ≤ rows) :
    (left i h : Path rows columns i 0).cost costs element =
      step costs (element i 0) costs.zero := rfl

@[simp] theorem cost_down :
    path.down.cost costs element = step costs (element (i + 1) j) (path.cost costs element) := by
  simp [cost, cells]

@[simp] theorem cost_right :
    path.right.cost costs element = step costs (element i (j + 1)) (path.cost costs element) := by
  simp [cost, cells]

@[simp] theorem cost_diagonal :
    path.diagonal.cost costs element =
      step costs (element (i + 1) (j + 1)) (path.cost costs element) := by
  simp [cost, cells]

end Equations

theorem nonempty (i j : Nat) : Nonempty (Path rows columns i j) := by
  induction i with
  | zero =>
    induction j with
    | zero => exact ⟨upper 0 (Nat.zero_le _)⟩
    | succ j ih => exact ih.elim fun path => ⟨right path⟩
  | succ i ih => exact ih.elim fun path => ⟨down path⟩

end Path

/-! ## The least cost -/

variable (rows columns) in
/-- A cost before the last cell that a path to the cell realizes, unless it is the greatest one. -/
def Realized (costs : Costs κ) (element : Nat → Nat → κ) (i j : Nat) (before : κ) : Prop :=
  before = costs.top ∨
    ∃ path : Path rows columns i j, path.cost costs element = step costs (element i j) before

theorem realized_border_upper {costs : Costs κ} (element : Nat → Nat → κ) {j skipped : Nat}
    (h : j ≤ skipped) :
    Realized rows columns costs element 0 j (border costs columns skipped) := by
  rw [border]
  split
  · exact .inr ⟨.upper j (by omega), rfl⟩
  · exact .inl rfl

theorem realized_border_left {costs : Costs κ} (element : Nat → Nat → κ) {i skipped : Nat}
    (h : i ≤ skipped) :
    Realized rows columns costs element i 0 (border costs rows skipped) := by
  rw [border]
  split
  · exact .inr ⟨.left i (by omega), rfl⟩
  · exact .inl rfl

section Lawful

variable [LinearOrder κ] {costs : Costs κ} (lawful : costs.Lawful) (element : Nat → Nat → κ)

include lawful

theorem step_mono {cost cost' x y : κ} (hcost : cost ≤ cost') (h : x ≤ y) :
    step costs cost x ≤ step costs cost' y := by
  rw [step, step, lawful.min_eq, lawful.min_eq]
  exact min_le_min_right _ (lawful.add_le_add hcost h)

theorem step_le_step {x y : κ} (cost : κ) (h : x ≤ y) : step costs cost x ≤ step costs cost y :=
  step_mono lawful le_rfl h

theorem step_le_top (cost sum : κ) : step costs cost sum ≤ costs.top := by
  rw [step, lawful.min_eq]
  exact min_le_right _ _

theorem step_top (cost : κ) : step costs cost costs.top = costs.top := by
  rw [step, lawful.min_eq]
  exact min_eq_right (lawful.le_add cost costs.top)

theorem cell_eq (cost above left before : κ) :
    cell costs cost above left before = step costs cost (min (min above left) before) := by
  simp only [cell, step, lawful.min_eq]

theorem cell_mono {cost cost' above above' left left' before before' : κ} (hcost : cost ≤ cost')
    (habove : above ≤ above') (hleft : left ≤ left') (hbefore : before ≤ before') :
    cell costs cost above left before ≤ cell costs cost' above' left' before' := by
  rw [cell_eq lawful, cell_eq lawful]
  exact step_mono lawful hcost (min_le_min (min_le_min habove hleft) hbefore)

theorem le_step {x : κ} (h : x ≤ costs.top) (cost : κ) : x ≤ step costs cost x := by
  rw [step, lawful.min_eq]
  exact le_min (lawful.le_add cost x) h

/-- A cell costs one step after the cheapest of the three before it. -/
theorem cell_cases (cost above left before : κ) :
    cell costs cost above left before = step costs cost above ∨
      cell costs cost above left before = step costs cost left ∨
      cell costs cost above left before = step costs cost before := by
  rw [cell_eq lawful]
  rcases min_choice (min above left) before with h | h
  · rcases min_choice above left with h' | h'
    · exact .inl (by rw [h, h'])
    · exact .inr (.inl (by rw [h, h']))
  · exact .inr (.inr (by rw [h]))

theorem cell_le_step (cost above left before : κ) :
    cell costs cost above left before ≤ step costs cost above ∧
      cell costs cost above left before ≤ step costs cost left ∧
      cell costs cost above left before ≤ step costs cost before := by
  rw [cell_eq lawful]
  refine ⟨?_, ?_, ?_⟩
  · exact step_le_step lawful cost ((min_le_left _ _).trans (min_le_left _ _))
  · exact step_le_step lawful cost ((min_le_left _ _).trans (min_le_right _ _))
  · exact step_le_step lawful cost (min_le_right _ _)

theorem border_le_top (allowed skipped : Nat) : border costs allowed skipped ≤ costs.top := by
  rw [border]
  split
  · exact lawful.zero_le _
  · exact le_rfl

theorem table_le_top (i j : Nat) : table costs element rows columns i j ≤ costs.top := by
  cases i with
  | zero =>
    rw [table_zero]
    exact border_le_top lawful _ _
  | succ i =>
    cases j with
    | zero =>
      rw [table_left]
      exact border_le_top lawful _ _
    | succ j =>
      rw [table_succ, cell_eq lawful]
      exact step_le_top lawful _ _

theorem cost_le_top {i j : Nat} (path : Path rows columns i j) :
    path.cost costs element ≤ costs.top := by
  cases path with
  | upper j h => exact step_le_top lawful _ _
  | left i h => exact step_le_top lawful _ _
  | down path => rw [Path.cost_down]; exact step_le_top lawful _ _
  | right path => rw [Path.cost_right]; exact step_le_top lawful _ _
  | diagonal path => rw [Path.cost_diagonal]; exact step_le_top lawful _ _

/-- No path is cheaper than the table says. -/
theorem table_le_cost {i j : Nat} (path : Path rows columns i j) :
    table costs element rows columns (i + 1) (j + 1) ≤ path.cost costs element := by
  induction path with
  | upper j h =>
    have hborder : table costs element rows columns 0 j = costs.zero := by
      rw [table_zero, border, if_pos h]
    rw [table_succ, Path.cost_upper, hborder]
    exact (cell_le_step lawful _ _ _ _).2.2
  | left i h =>
    have hborder : table costs element rows columns i 0 = costs.zero := by
      cases i with
      | zero => rw [table_zero, border, if_pos (Nat.zero_le _)]
      | succ i => rw [table_left, border, if_pos h]
    rw [table_succ, Path.cost_left, hborder]
    exact (cell_le_step lawful _ _ _ _).2.2
  | down path ih =>
    rw [table_succ, Path.cost_down]
    exact (cell_le_step lawful _ _ _ _).1.trans (step_le_step lawful _ ih)
  | right path ih =>
    rw [table_succ, Path.cost_right]
    exact (cell_le_step lawful _ _ _ _).2.1.trans (step_le_step lawful _ ih)
  | diagonal path ih =>
    rw [table_succ, Path.cost_diagonal]
    exact (cell_le_step lawful _ _ _ _).2.2.trans (step_le_step lawful _ ih)

theorem exists_cost_eq_of_top {i j : Nat}
    (h : table costs element rows columns (i + 1) (j + 1) = costs.top) :
    ∃ path : Path rows columns i j,
      path.cost costs element = table costs element rows columns (i + 1) (j + 1) := by
  obtain ⟨path⟩ := @Path.nonempty rows columns i j
  refine ⟨path, le_antisymm ?_ (table_le_cost lawful element path)⟩
  rw [h]
  exact cost_le_top lawful element path

omit lawful in
theorem Realized.min {i j : Nat} {x y : κ} (hx : Realized rows columns costs element i j x)
    (hy : Realized rows columns costs element i j y) :
    Realized rows columns costs element i j (min x y) := by
  rcases min_choice x y with h | h <;> rw [h]
  · exact hx
  · exact hy

/-- The cheapest of the three cells before a cell leads to a path. -/
theorem exists_cost_eq_of_realized {i j : Nat}
    (above : Realized rows columns costs element i j (table costs element rows columns i (j + 1)))
    (left : Realized rows columns costs element i j (table costs element rows columns (i + 1) j))
    (before : Realized rows columns costs element i j (table costs element rows columns i j)) :
    ∃ path : Path rows columns i j,
      path.cost costs element = table costs element rows columns (i + 1) (j + 1) := by
  have hcell := table_succ costs element rows columns i j
  rw [cell_eq lawful] at hcell
  rcases (above.min element left).min element before with htop | ⟨path, hpath⟩
  · rw [htop, step_top lawful] at hcell
    exact exists_cost_eq_of_top lawful element hcell
  · exact ⟨path, hpath.trans hcell.symm⟩

/-- Some path is as cheap as the table says. -/
theorem exists_cost_eq (i j : Nat) :
    ∃ path : Path rows columns i j,
      path.cost costs element = table costs element rows columns (i + 1) (j + 1) := by
  induction i generalizing j with
  | zero =>
    induction j with
    | zero =>
      apply exists_cost_eq_of_realized lawful
      · rw [table_zero]; exact realized_border_upper element (Nat.zero_le _)
      · rw [table_left]; exact realized_border_left element (Nat.zero_le _)
      · rw [table_zero]; exact realized_border_upper element (Nat.zero_le _)
    | succ j ih =>
      obtain ⟨path, hpath⟩ := ih
      apply exists_cost_eq_of_realized lawful
      · rw [table_zero]; exact realized_border_upper element (Nat.le_succ _)
      · exact .inr ⟨path.right, by rw [Path.cost_right, hpath]⟩
      · rw [table_zero]; exact realized_border_upper element (Nat.le_refl _)
  | succ i ihi =>
    induction j with
    | zero =>
      obtain ⟨path, hpath⟩ := ihi 0
      apply exists_cost_eq_of_realized lawful
      · exact .inr ⟨path.down, by rw [Path.cost_down, hpath]⟩
      · rw [table_left]; exact realized_border_left element (Nat.le_succ _)
      · rw [table_left]; exact realized_border_left element (Nat.le_refl _)
    | succ j ihj =>
      obtain ⟨above, habove⟩ := ihi (j + 1)
      obtain ⟨left, hleft⟩ := ihj
      obtain ⟨before, hbefore⟩ := ihi j
      apply exists_cost_eq_of_realized lawful
      · exact .inr ⟨above.down, by rw [Path.cost_down, habove]⟩
      · exact .inr ⟨left.right, by rw [Path.cost_right, hleft]⟩
      · exact .inr ⟨before.diagonal, by rw [Path.cost_diagonal, hbefore]⟩

/-- A cell of the table is the least cost of a path to it. -/
theorem isLeast_table (i j : Nat) :
    IsLeast (Set.range fun path : Path rows columns i j => path.cost costs element)
      (table costs element rows columns (i + 1) (j + 1)) := by
  constructor
  · exact exists_cost_eq lawful element i j
  · rintro _ ⟨path, rfl⟩
    exact table_le_cost lawful element path

end Lawful

end Warping
end PhoneticSearch

import PhoneticSearch.Proofs.Binary64.Magnitude
import PhoneticSearch.Proofs.Warping.Path

/-!
# The distance of two sequences

* `magnitudeCosts`: the costs of `floatCosts` as magnitudes, which are lawful.
* `table_toFloat`, `cost_toFloat`: the table and the paths over numbers from zero on are those over
  magnitudes.
* `sequenceDistance_isLeast`: the warping distance is the least cost of a warping path.
-/

namespace PhoneticSearch
namespace Warping

open Magnitude

def magnitudeCosts : Costs Magnitude := ⟨0, top, (· + ·), min⟩

theorem magnitudeCosts_lawful : magnitudeCosts.Lawful where
  min_eq _ _ := rfl
  zero_le := zero_le
  add_le_add {x x' y y'} hx hy := by
    calc x + y ≤ x + y' := add_le_add_left hy x
      _ = y' + x := add_comm _ _
      _ ≤ y' + x' := add_le_add_left hx y'
      _ = x' + y' := add_comm _ _
  le_add := le_add

@[simp] theorem border_toFloat (allowed skipped : Nat) :
    border floatCosts allowed skipped = (border magnitudeCosts allowed skipped).toFloat := by
  rw [border, border]
  split <;> rfl

theorem step_toFloat {d : Float} (h : 0 ≤ d ∨ d.isNaN = true) (x : Magnitude) :
    step floatCosts d x.toFloat = (step magnitudeCosts (ofFloat d) x).toFloat := by
  change lesser (d + x.toFloat) top.toFloat = (min (ofFloat d + x) top).toFloat
  rcases h with h | h
  · rw [toFloat_ofFloat_add h, lesser_toFloat]
  · rw [ofFloat_of_isNaN h, min_eq_right, lesser, isNaN_add h, if_pos rfl]
    rw [add_comm]
    exact le_add _ _

theorem cell_toFloat {d : Float} (h : 0 ≤ d ∨ d.isNaN = true) (above left before : Magnitude) :
    cell floatCosts d above.toFloat left.toFloat before.toFloat =
      (cell magnitudeCosts (ofFloat d) above left before).toFloat := by
  have hmin : lesser (lesser above.toFloat left.toFloat) before.toFloat =
      (min (min above left) before).toFloat := by
    rw [lesser_toFloat, lesser_toFloat]
  change step floatCosts d (lesser (lesser above.toFloat left.toFloat) before.toFloat) = _
  rw [hmin, step_toFloat h]
  rfl

section

variable {element : Nat → Nat → Float} (h : ∀ i j, 0 ≤ element i j ∨ (element i j).isNaN = true)
  {rows columns : Nat}

include h

theorem table_toFloat (i j : Nat) :
    table floatCosts element rows columns i j =
      (table magnitudeCosts (fun i j => ofFloat (element i j)) rows columns i j).toFloat := by
  induction i generalizing j with
  | zero => rw [table_zero, table_zero, border_toFloat]
  | succ i ihi =>
    induction j with
    | zero => rw [table_left, table_left, border_toFloat]
    | succ j ihj => rw [table_succ, table_succ, ihi, ihj, ihi, cell_toFloat (h i j)]

theorem cost_toFloat {i j : Nat} (path : Path rows columns i j) :
    path.cost floatCosts element =
      (path.cost magnitudeCosts fun i j => ofFloat (element i j)).toFloat := by
  induction path with
  | upper j _ => exact step_toFloat (h 0 j) 0
  | left i _ => exact step_toFloat (h i 0) 0
  | @down i j path ih => rw [Path.cost_down, Path.cost_down, ih, step_toFloat (h (i + 1) j)]
  | @right i j path ih => rw [Path.cost_right, Path.cost_right, ih, step_toFloat (h i (j + 1))]
  | @diagonal i j path ih =>
    rw [Path.cost_diagonal, Path.cost_diagonal, ih, step_toFloat (h (i + 1) (j + 1))]

theorem isLeast_table_toFloat (i j : Nat) :
    IsLeast (Set.range fun path : Path rows columns i j => path.cost floatCosts element)
      (table floatCosts element rows columns (i + 1) (j + 1)) := by
  have hleast : IsLeast
      (Set.range fun path : Path rows columns i j =>
        path.cost magnitudeCosts fun i j => ofFloat (element i j)) _ :=
    isLeast_table magnitudeCosts_lawful _ i j
  obtain ⟨⟨path, hpath⟩, hle⟩ := hleast
  constructor
  · exact ⟨path, by simp only [cost_toFloat h, table_toFloat h, hpath]⟩
  · rintro _ ⟨path, rfl⟩
    simp only [cost_toFloat h, table_toFloat h]
    exact toFloat_le.mpr (hle ⟨path, rfl⟩)

end

end Warping

section SequenceDistance

open Warping

variable {α β : Type} {s : List α} {t : List β} {distance : α → β → Float}

theorem elementCost_nonneg (h : ∀ x ∈ s, ∀ y ∈ t, 0 ≤ distance x y) (i j : Nat) :
    0 ≤ elementCost floatCosts distance s t i j := by
  unfold elementCost
  split
  · next x y hx hy => exact h x (List.mem_of_getElem? hx) y (List.mem_of_getElem? hy)
  · change (0 : Float) ≤ maxFloat
    decide

/-- The warping distance is the least cost of a path from a free start to the last cell. If a
sequence is empty there is no path, and the whole of the other one has to be skipped. -/
theorem sequenceDistance_isLeast (h : ∀ x ∈ s, ∀ y ∈ t, 0 ≤ distance x y) (tolerance : Float) :
    (s ≠ [] → t ≠ [] →
      IsLeast
        (Set.range fun path :
            Path (bandWidth tolerance s.length) (bandWidth tolerance t.length) (s.length - 1)
              (t.length - 1) =>
          path.cost floatCosts (elementCost floatCosts distance s t))
        (sequenceDistance s t distance tolerance)) ∧
    (s = [] ∨ t = [] →
      sequenceDistance s t distance tolerance =
        if s.length ≤ bandWidth tolerance s.length ∧ t.length ≤ bandWidth tolerance t.length then 0
        else maxFloat) := by
  rw [sequenceDistance, distance_eq_table]
  constructor
  · intro hs ht
    have hnonneg : ∀ i j, 0 ≤ elementCost floatCosts distance s t i j ∨
        (elementCost floatCosts distance s t i j).isNaN = true :=
      fun i j => .inl (elementCost_nonneg h i j)
    have hcell : IsLeast (Set.range fun path : Path (bandWidth tolerance s.length)
        (bandWidth tolerance t.length) (s.length - 1) (t.length - 1) => _) _ :=
      isLeast_table_toFloat hnonneg _ _
    rwa [Nat.sub_add_cancel (List.length_pos_iff.mpr hs),
      Nat.sub_add_cancel (List.length_pos_iff.mpr ht)] at hcell
  · intro hempty
    exact table_of_empty _ _ _ _ _ _ (hempty.imp List.length_eq_zero_iff.mpr
      List.length_eq_zero_iff.mpr)

/-- The `0` may be skipped, but nothing equals the `2`. -/
theorem sequenceDistance_isLeast_two_three :
    let distance : Nat → Nat → Float := fun x y => if x = y then 0 else 1
    (∀ x ∈ [1, 2], ∀ y ∈ [0, 1, 1], 0 ≤ distance x y) ∧
    IsLeast
      (Set.range fun path : Path (bandWidth 0.5 2) (bandWidth 0.5 3) 1 2 =>
        path.cost floatCosts (elementCost floatCosts distance [1, 2] [0, 1, 1]))
      1 := by
  intro distance
  have h : ∀ x ∈ [1, 2], ∀ y ∈ [0, 1, 1], 0 ≤ distance x y := by decide
  have hone : sequenceDistance [1, 2] [0, 1, 1] distance 0.5 = 1 := by decide +kernel
  have hleast := (sequenceDistance_isLeast h 0.5).1 (by decide) (by decide)
  rw [hone] at hleast
  exact ⟨h, hleast⟩

end SequenceDistance
end PhoneticSearch

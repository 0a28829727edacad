import PhoneticSearch.Proofs.Binary64.Square

/-!
# Phones of different lengths

A missing component counts as an extreme number, so that a difference in length is not passed over.
This fails for the component that is itself the extreme number.

* `FillsUp`: all components beyond the length of the other phone are those numbers.
* `squaredDifferences_of_fillsUp`: such components add nothing to the distance.
* `isFinite_squaredDifferences`: any other one makes the sum infinite or no number.
* `phoneDistance_mismatch`: so two phones of different lengths are as far from each other as can be,
  in one order at least.
-/

namespace PhoneticSearch

open Binary64

/-- Each component beyond the length of the other phone is the number that stands for the one
missing there. -/
structure FillsUp (a b : Phone) : Prop where
  left : ∀ x ∈ a.drop b.length, x = maxFloat
  right : ∀ y ∈ b.drop a.length, y = -maxFloat

section FillsUp

variable {x y : Float} {a b : Phone}

theorem fillsUp_nil : FillsUp [] [] := ⟨by simp, by simp⟩

theorem fillsUp_cons : FillsUp (x :: a) (y :: b) ↔ FillsUp a b := by
  constructor
  · rintro ⟨hleft, hright⟩
    exact ⟨hleft, hright⟩
  · rintro ⟨hleft, hright⟩
    exact ⟨hleft, hright⟩

theorem fillsUp_left : FillsUp (x :: a) [] ↔ x = maxFloat ∧ FillsUp a [] := by
  constructor
  · rintro ⟨hleft, -⟩
    exact ⟨hleft x List.mem_cons_self, fun z hz => hleft z (List.mem_cons_of_mem x hz), by simp⟩
  · rintro ⟨rfl, hleft, -⟩
    exact ⟨List.forall_mem_cons.mpr ⟨rfl, hleft⟩, by simp⟩

theorem fillsUp_right : FillsUp [] (y :: b) ↔ y = -maxFloat ∧ FillsUp [] b := by
  constructor
  · rintro ⟨-, hright⟩
    exact ⟨hright y List.mem_cons_self, by simp, fun z hz => hright z (List.mem_cons_of_mem y hz)⟩
  · rintro ⟨rfl, -, hright⟩
    exact ⟨by simp, List.forall_mem_cons.mpr ⟨rfl, hright⟩⟩

end FillsUp

/-! ## The sum of the squares -/

section SquaredDifferences

open squaredDifferences

variable {sum x y : Float} {a b : Phone}

theorem unsigned_square (h : Unsigned sum) (x y : Float) : Unsigned (square sum x y) :=
  h.add (unsigned_mul_self (x - y))

theorem isFinite_square (h : Unsigned sum)
    (hfinite : sum.isFinite = false ∨ ((x - y) * (x - y)).isFinite = false) :
    (square sum x y).isFinite = false :=
  h.isFinite_add (unsigned_mul_self (x - y)) hfinite

theorem square_of_eq_zero (h : Unsigned sum) (hzero : (x - y) * (x - y) = 0) :
    square sum x y = sum := by
  rw [square, hzero, h.add_zero]

/-- What one more square preserves, all of them preserve. -/
theorem squaredDifferences_preserves {P : Float → Prop}
    (hstep : ∀ sum x y, P sum → P (square sum x y)) (h : P sum) : P (squaredDifferences sum a b) := by
  fun_induction squaredDifferences sum a b with
  | case1 sum => exact h
  | case2 sum x xs ih => exact ih (hstep sum x maxFloat h)
  | case3 sum y ys ih => exact ih (hstep sum (-maxFloat) y h)
  | case4 sum x xs y ys ih => exact ih (hstep sum x y h)

theorem unsigned_squaredDifferences (h : Unsigned sum) : Unsigned (squaredDifferences sum a b) :=
  squaredDifferences_preserves (fun _ x y hsum => unsigned_square hsum x y) h

/-- A sum that is not finite stays so. -/
theorem isFinite_squaredDifferences_of_sum (h : Unsigned sum) (hfinite : sum.isFinite = false) :
    (squaredDifferences sum a b).isFinite = false := by
  have hboth : Unsigned (squaredDifferences sum a b) ∧
      (squaredDifferences sum a b).isFinite = false := by
    apply squaredDifferences_preserves (P := fun sum => Unsigned sum ∧ sum.isFinite = false)
    · rintro sum x y ⟨hsum, hinfinite⟩
      exact ⟨unsigned_square hsum x y, isFinite_square hsum (.inl hinfinite)⟩
    · exact ⟨h, hfinite⟩
  exact hboth.2

/-- One component that a missing one is not equal to is enough. -/
theorem isFinite_squaredDifferences (h : Unsigned sum) (hfills : ¬ FillsUp a b) :
    (squaredDifferences sum a b).isFinite = false := by
  fun_induction squaredDifferences sum a b with
  | case1 sum => exact absurd fillsUp_nil hfills
  | case2 sum x xs ih =>
    by_cases hx : x = maxFloat
    · exact ih (unsigned_square h x maxFloat) fun hrest => hfills (fillsUp_left.mpr ⟨hx, hrest⟩)
    · exact isFinite_squaredDifferences_of_sum (unsigned_square h x maxFloat)
        (isFinite_square h (.inr (isFinite_square_sub_max hx)))
  | case3 sum y ys ih =>
    by_cases hy : y = -maxFloat
    · exact ih (unsigned_square h (-maxFloat) y) fun hrest => hfills (fillsUp_right.mpr ⟨hy, hrest⟩)
    · exact isFinite_squaredDifferences_of_sum (unsigned_square h (-maxFloat) y)
        (isFinite_square h (.inr (isFinite_square_min_sub hy)))
  | case4 sum x xs y ys ih =>
    exact ih (unsigned_square h x y) fun hrest => hfills (fillsUp_cons.mpr hrest)

theorem max_sub_max : (maxFloat - maxFloat) * (maxFloat - maxFloat) = 0 :=
  Magnitude.float_ext (by decide)

theorem min_sub_min : (-maxFloat - -maxFloat) * (-maxFloat - -maxFloat) = 0 :=
  Magnitude.float_ext (by decide)

/-- Components that are equal to what stands for the missing ones add nothing. -/
theorem squaredDifferences_of_fillsUp (h : Unsigned sum) (hfills : FillsUp a b) :
    squaredDifferences sum a b =
      squaredDifferences sum (a.take b.length) (b.take a.length) := by
  fun_induction squaredDifferences sum a b with
  | case1 sum => simp [squaredDifferences]
  | case2 sum x xs ih =>
    obtain ⟨rfl, hrest⟩ := fillsUp_left.mp hfills
    rw [ih (unsigned_square h _ _) hrest, square_of_eq_zero h max_sub_max]
    simp
  | case3 sum y ys ih =>
    obtain ⟨rfl, hrest⟩ := fillsUp_right.mp hfills
    rw [ih (unsigned_square h _ _) hrest, square_of_eq_zero h min_sub_min]
    simp
  | case4 sum x xs y ys ih =>
    rw [ih (unsigned_square h x y) (fillsUp_cons.mp hfills), List.length_cons, List.length_cons,
      List.take_succ_cons, List.take_succ_cons, squaredDifferences]

end SquaredDifferences

/-! ## The distance -/

theorem unsigned_zero : Unsigned 0 := .inr ⟨0, rfl⟩

theorem phoneDistance_of_not_fillsUp {a b : Phone} (h : ¬ FillsUp a b) :
    phoneDistance a b = maxFloat := by
  have hsqrt : (squaredDifferences 0 a b).sqrt.isFinite = false :=
    (unsigned_squaredDifferences unsigned_zero).isFinite_sqrt
      (isFinite_squaredDifferences unsigned_zero h)
  rw [phoneDistance, hsqrt]
  rfl

theorem maxFloat_ne_neg : maxFloat ≠ -maxFloat :=
  fun h => absurd (congrArg Float.toBits h) (by decide)

/-- No component of a phone that is too long is both of the extreme numbers. -/
theorem length_le_of_fillsUp {a b : Phone} (h : FillsUp a b) (h' : FillsUp b a) :
    a.length ≤ b.length := by
  rw [← List.drop_eq_nil_iff, List.eq_nil_iff_forall_not_mem]
  intro x hx
  have hmax : x = maxFloat := h.left x hx
  have hmin : x = -maxFloat := h'.right x hx
  exact maxFloat_ne_neg (hmax.symm.trans hmin)

/-- If the components that one of two phones has too many are all equal to what stands for the
missing ones, they are passed over; if not, the distance is the greatest one, whatever the other
components are. Phones of different lengths have this distance in one order at least. -/
theorem phoneDistance_mismatch (a b : Phone) :
    (FillsUp a b → phoneDistance a b = phoneDistance (a.take b.length) (b.take a.length)) ∧
      (¬ FillsUp a b → phoneDistance a b = maxFloat) ∧
      (a.length ≠ b.length → phoneDistance a b = maxFloat ∨ phoneDistance b a = maxFloat) := by
  refine ⟨fun h => ?_, phoneDistance_of_not_fillsUp, fun hlength => ?_⟩
  · rw [phoneDistance, phoneDistance, squaredDifferences_of_fillsUp unsigned_zero h]
  · by_cases h : FillsUp a b
    · refine .inr (phoneDistance_of_not_fillsUp fun h' => hlength ?_)
      exact Nat.le_antisymm (length_le_of_fillsUp h h') (length_le_of_fillsUp h' h)
    · exact .inl (phoneDistance_of_not_fillsUp h)

/-- The same extreme component on the one side and on the other, and one that is not extreme. -/
theorem phoneDistance_mismatch_extreme :
    FillsUp [0] [3, -maxFloat] ∧
      phoneDistance [0] [3, -maxFloat] = phoneDistance [0] [3] ∧
      ¬ FillsUp [3, -maxFloat] [0] ∧ phoneDistance [3, -maxFloat] [0] = maxFloat ∧
      ([0] : Phone).length ≠ ([3, 1] : Phone).length ∧
        (phoneDistance [0] [3, 1] = maxFloat ∨ phoneDistance [3, 1] [0] = maxFloat) := by
  have hfills : FillsUp [0] [3, -maxFloat] :=
    fillsUp_cons.mpr (fillsUp_right.mpr ⟨rfl, fillsUp_nil⟩)
  have hnot : ¬ FillsUp [3, -maxFloat] [0] := by
    intro h
    have heq : -maxFloat = maxFloat := (fillsUp_left.mp (fillsUp_cons.mp h)).1
    exact maxFloat_ne_neg heq.symm
  have hlength : ([0] : Phone).length ≠ ([3, 1] : Phone).length := by decide
  exact ⟨hfills, (phoneDistance_mismatch _ _).1 hfills, hnot, (phoneDistance_mismatch _ _).2.1 hnot,
    hlength, (phoneDistance_mismatch _ _).2.2 hlength⟩

/-- Finite phones of different lengths that are not told apart: the second component is what stands
for the missing one. -/
theorem phoneDistance_extreme_eq_zero :
    let a : Phone := [0]
    let b : Phone := [0, -maxFloat]
    (∀ x ∈ a, x.isFinite = true) ∧ (∀ y ∈ b, y.isFinite = true) ∧ a.length ≠ b.length ∧
      phoneDistance a b = 0 ∧ phoneDistance b a = maxFloat ∧ (0 : Float) ≠ maxFloat := by
  intro a b
  have hzero : (0 + (0 - 0) * (0 - 0) + (-maxFloat - -maxFloat) * (-maxFloat - -maxFloat)).sqrt =
      0 := Magnitude.float_ext (by decide)
  have hne : (0 : Float) ≠ maxFloat := fun h => absurd (congrArg Float.toBits h) (by decide)
  refine ⟨by decide, by decide, by decide, ?_, ?_, hne⟩
  · simp only [a, b, phoneDistance, squaredDifferences, squaredDifferences.square, hzero]
    rfl
  · apply phoneDistance_of_not_fillsUp
    intro h
    exact maxFloat_ne_neg (fillsUp_left.mp (fillsUp_cons.mp h)).1.symm

end PhoneticSearch

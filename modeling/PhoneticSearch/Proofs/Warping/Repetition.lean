import PhoneticSearch.Proofs.Warping.Monotone

/-!
# Distance zero

Two sequences are equal up to repetition if they agree once each run of equal elements is one
element.

* `destutter_concat_eq_iff`: when sequences with last elements are, in terms of what lies before
  these.
* `distance_eq_zero_iff`: if only equal elements are at distance zero, so are just the sequences
  that are equal up to repetition.
* `sequenceDistance_zero`: the same for the distance of two sequences under a tolerance.
-/

namespace PhoneticSearch

section Runs

variable {α : Type} [DecidableEq α]

theorem destutter'_concat (a : α) (l : List α) (x : α) :
    (l ++ [x]).destutter' (· ≠ ·) a =
      if (a :: l).getLast? = some x then l.destutter' (· ≠ ·) a
      else l.destutter' (· ≠ ·) a ++ [x] := by
  induction l generalizing a with
  | nil => by_cases h : a = x <;> simp [h]
  | cons b l ih =>
    by_cases h : a = b
    · subst h
      simp [ih]
    · by_cases hlast : (b :: l).getLast? = some x <;> simp [h, ih, hlast]

/-- A last element that repeats the one before it adds nothing. -/
theorem destutter_concat (l : List α) (x : α) :
    (l ++ [x]).destutter (· ≠ ·) =
      if l.getLast? = some x then l.destutter (· ≠ ·) else l.destutter (· ≠ ·) ++ [x] := by
  cases l with
  | nil => simp
  | cons a l => exact destutter'_concat a l x

theorem getLast?_destutter (l : List α) : (l.destutter (· ≠ ·)).getLast? = l.getLast? := by
  induction l using List.reverseRecOn with
  | nil => rfl
  | append_singleton l x ih =>
    rw [destutter_concat]
    split_ifs with h
    · rw [ih, h, List.getLast?_concat]
    · rw [List.getLast?_concat, List.getLast?_concat]

theorem destutter_concat_eq_iff (s t : List α) (x y : α) :
    (s ++ [x]).destutter (· ≠ ·) = (t ++ [y]).destutter (· ≠ ·) ↔
      x = y ∧
        (s.destutter (· ≠ ·) = (t ++ [y]).destutter (· ≠ ·) ∨
          (s ++ [x]).destutter (· ≠ ·) = t.destutter (· ≠ ·) ∨
          s.destutter (· ≠ ·) = t.destutter (· ≠ ·)) := by
  constructor
  · intro h
    have hlast := congrArg List.getLast? h
    rw [getLast?_destutter, getLast?_destutter, List.getLast?_concat, List.getLast?_concat,
      Option.some.injEq] at hlast
    subst hlast
    refine ⟨rfl, ?_⟩
    -- a last element that repeats the one before it can be left out, on either side
    by_cases hs : s.getLast? = some x
    · rw [destutter_concat s, if_pos hs] at h
      exact .inl h
    · by_cases ht : t.getLast? = some x
      · rw [destutter_concat t, if_pos ht] at h
        exact .inr (.inl h)
      · rw [destutter_concat s, if_neg hs, destutter_concat t, if_neg ht] at h
        exact .inr (.inr (List.append_cancel_right h))
  · rintro ⟨rfl, h | h | h⟩
    · have hs : s.getLast? = some x := by
        rw [← getLast?_destutter, h, getLast?_destutter, List.getLast?_concat]
      rw [destutter_concat s, if_pos hs, h]
    · have ht : t.getLast? = some x := by
        rw [← getLast?_destutter, ← h, getLast?_destutter, List.getLast?_concat]
      rw [destutter_concat t, if_pos ht, h]
    · have hlast : s.getLast? = t.getLast? := by
        rw [← getLast?_destutter, h, getLast?_destutter]
      rw [destutter_concat, destutter_concat, h, hlast]

end Runs

namespace Warping

open Magnitude

variable {α : Type}

theorem magnitude_add_eq_zero_iff (x y : Magnitude) : x + y = 0 ↔ x = 0 ∧ y = 0 := by
  constructor
  · intro h
    have hx : x ≤ x + y := by
      rw [add_comm]
      exact le_add y x
    rw [h] at hx
    have hy : y ≤ 0 := h ▸ le_add x y
    exact ⟨le_antisymm hx (zero_le x), le_antisymm hy (zero_le y)⟩
  · rintro ⟨rfl, rfl⟩
    exact zero_add 0

theorem top_ne_zero : top ≠ 0 := by
  intro h
  have hcode : top.code ≠ (0 : Magnitude).code := by decide
  exact hcode (congrArg code h)

theorem min_eq_zero_iff (x y : Magnitude) : min x y = 0 ↔ x = 0 ∨ y = 0 := by
  constructor
  · intro h
    rcases min_choice x y with hmin | hmin
    · exact .inl (hmin ▸ h)
    · exact .inr (hmin ▸ h)
  · rintro (rfl | rfl)
    · exact min_eq_left (zero_le y)
    · exact min_eq_right (zero_le x)

/-- Nothing costs nothing but a cell without cost after one. -/
theorem cell_eq_zero_iff (cost above left before : Magnitude) :
    cell magnitudeCosts cost above left before = 0 ↔
      cost = 0 ∧ (above = 0 ∨ left = 0 ∨ before = 0) := by
  change min (cost + min (min above left) before) top = 0 ↔ _
  rw [min_eq_zero_iff, magnitude_add_eq_zero_iff, min_eq_zero_iff, min_eq_zero_iff]
  simp only [top_ne_zero, or_false, or_assoc]

theorem border_eq_zero_iff (skipped : Nat) : border magnitudeCosts 0 skipped = 0 ↔ skipped = 0 := by
  cases skipped with
  | zero => simp [border, magnitudeCosts]
  | succ skipped => simp [border, magnitudeCosts, top_ne_zero]

theorem distance_eq_zero_iff [DecidableEq α] {cost : α → α → Magnitude} {s t : List α}
    (h : ∀ x ∈ s, ∀ y ∈ t, cost x y = 0 ↔ x = y) :
    distance magnitudeCosts cost 0 0 s t = 0 ↔
      s.destutter (· ≠ ·) = t.destutter (· ≠ ·) := by
  refine pairs_induction ?nil_left ?nil_right ?concat s t h
  case nil_left =>
    intro t
    rw [distance_nil_left, border_eq_zero_iff, List.length_eq_zero_iff, List.destutter_nil]
    constructor
    · rintro rfl
      rfl
    · intro h
      exact (List.destutter_eq_nil _).mp h.symm
  case nil_right =>
    intro s
    rw [distance_nil_right, border_eq_zero_iff, List.length_eq_zero_iff, List.destutter_nil,
      List.destutter_eq_nil]
  case concat =>
    intro s x t y hxy above left before
    rw [distance_concat, cell_eq_zero_iff, hxy, above, left, before, destutter_concat_eq_iff]

end Warping

section Repetition

open Magnitude

variable {α : Type} {s t : List α} {distance : α → α → Float}

theorem sequenceDistance_eq_zero_iff [DecidableEq α] (h : ∀ x ∈ s, ∀ y ∈ t, 0 ≤ distance x y)
    (hzero : ∀ x ∈ s, ∀ y ∈ t, (distance x y == 0) = true ↔ x = y) :
    sequenceDistance s t distance 0 = 0 ↔
      s.destutter (· ≠ ·) = t.destutter (· ≠ ·) := by
  have hcost : ∀ x ∈ s, ∀ y ∈ t, ofFloat (distance x y) = 0 ↔ x = y := by
    intro x hx y hy
    have hofZero : ofFloat 0 = 0 := ofFloat_toFloat 0
    rw [← hzero x hx y hy, ← ofFloat_eq (h x hx y hy) (by decide), hofZero]
  rw [sequenceDistance_toFloat_of_nonneg h, bandWidth_zero, bandWidth_zero,
    ← Warping.distance_eq_zero_iff hcost]
  exact toFloat_injective.eq_iff' rfl

theorem sequenceDistance_eq_zero_of_strict (h : ∀ x ∈ s, ∀ y ∈ t, 0 ≤ distance x y)
    (hstrict : sequenceDistance s t distance 0 = 0) (tolerance : Float) :
    sequenceDistance s t distance tolerance = 0 := by
  rw [sequenceDistance_toFloat_of_nonneg h] at hstrict ⊢
  have hzero := toFloat_injective (hstrict.trans toFloat_zero.symm)
  rw [bandWidth_zero, bandWidth_zero] at hzero
  have hle : Warping.distance Warping.magnitudeCosts (fun x y => ofFloat (distance x y))
      (bandWidth tolerance s.length) (bandWidth tolerance t.length) s t ≤ 0 :=
    hzero ▸ Warping.distance_mono Warping.magnitudeCosts_lawful (Nat.zero_le _) (Nat.zero_le _)
      fun _ _ _ _ => le_rfl
  rw [le_antisymm hle (zero_le _), toFloat_zero]

/-- If just equal elements are at distance zero, then so are just the sequences that are equal up to
repetition, and a tolerance keeps them there. -/
theorem sequenceDistance_zero [DecidableEq α] (h : ∀ x ∈ s, ∀ y ∈ t, 0 ≤ distance x y)
    (hzero : ∀ x ∈ s, ∀ y ∈ t, (distance x y == 0) = true ↔ x = y) :
    (sequenceDistance s t distance 0 = 0 ↔
      s.destutter (· ≠ ·) = t.destutter (· ≠ ·)) ∧
    (s.destutter (· ≠ ·) = t.destutter (· ≠ ·) →
      ∀ tolerance, sequenceDistance s t distance tolerance = 0) ∧
    (s = t → ∀ tolerance, sequenceDistance s t distance tolerance = 0) ∧
    (s = [] ∨ t = [] → (sequenceDistance s t distance 0 = 0 ↔ s = t)) := by
  have hstrict := sequenceDistance_eq_zero_iff h hzero
  have htolerant : s.destutter (· ≠ ·) = t.destutter (· ≠ ·) →
      ∀ tolerance, sequenceDistance s t distance tolerance = 0 :=
    fun hruns => sequenceDistance_eq_zero_of_strict h (hstrict.mpr hruns)
  refine ⟨hstrict, htolerant, ?_, ?_⟩
  · rintro rfl
    exact htolerant rfl
  · rintro (rfl | rfl)
    · rw [hstrict, List.destutter_nil, eq_comm, List.destutter_eq_nil, eq_comm]
    · rw [hstrict, List.destutter_nil, List.destutter_eq_nil]

/-- The runs have different lengths on the two sides; without the last element the `2` is left. -/
theorem sequenceDistance_zero_stretched :
    let distance : Nat → Nat → Float := fun x y => if x = y then 0 else 1
    let s := [1, 1, 1, 2, 1]
    let t := [1, 2, 2, 1, 1]
    ((∀ x ∈ s, ∀ y ∈ t, 0 ≤ distance x y) ∧
      (∀ x ∈ s, ∀ y ∈ t, (distance x y == 0) = true ↔ x = y) ∧
      sequenceDistance s t distance 0.5 = 0) ∧
    ¬ sequenceDistance s [1, 2, 2] distance 0 = 0 := by
  intro distance s t
  have h : ∀ x ∈ s, ∀ y ∈ t, 0 ≤ distance x y := by decide
  have hzero : ∀ x ∈ s, ∀ y ∈ t, (distance x y == 0) = true ↔ x = y := by decide
  have hruns : s.destutter (· ≠ ·) = t.destutter (· ≠ ·) := by decide
  have h' : ∀ x ∈ s, ∀ y ∈ [1, 2, 2], 0 ≤ distance x y := by decide
  have hzero' : ∀ x ∈ s, ∀ y ∈ [1, 2, 2], (distance x y == 0) = true ↔ x = y := by decide
  refine ⟨⟨h, hzero, (sequenceDistance_zero h hzero).2.1 hruns 0.5⟩, ?_⟩
  rw [(sequenceDistance_zero h' hzero').1]
  decide

end Repetition
end PhoneticSearch

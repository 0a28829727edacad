import PhoneticSearch.Proofs.Warping.Band
import PhoneticSearch.Proofs.Warping.Recurrence

/-!
# Distances grow with their costs

* `distance_mono`: with greater element costs and less to be skipped a distance is no less.
* `sequenceDistance_mono`: the same for the distance of two sequences under two tolerances.
-/

namespace PhoneticSearch
namespace Warping

variable {κ α β : Type} {s : List α} {t : List β}

section Lawful

variable [LinearOrder κ] {costs : Costs κ} (lawful : costs.Lawful)

include lawful

theorem border_mono {allowed allowed' : Nat} (h : allowed ≤ allowed') (skipped : Nat) :
    border costs allowed' skipped ≤ border costs allowed skipped := by
  unfold border
  split_ifs with hwide hnarrow
  · exact le_rfl
  · exact lawful.zero_le _
  · omega
  · exact le_rfl

theorem distance_mono {cost cost' : α → β → κ} {rows rows' columns columns' : Nat}
    (hrows : rows ≤ rows') (hcolumns : columns ≤ columns')
    (h : ∀ x ∈ s, ∀ y ∈ t, cost x y ≤ cost' x y) :
    distance costs cost rows' columns' s t ≤ distance costs cost' rows columns s t := by
  refine pairs_induction ?nil_left ?nil_right ?concat s t h
  case nil_left =>
    intro t
    rw [distance_nil_left, distance_nil_left]
    exact border_mono lawful hcolumns _
  case nil_right =>
    intro s
    rw [distance_nil_right, distance_nil_right]
    exact border_mono lawful hrows _
  case concat =>
    intro s x t y hxy above left before
    rw [distance_concat, distance_concat]
    exact cell_mono lawful hxy above left before

end Lawful

end Warping

section Monotone

open Warping

variable {α β : Type} {s : List α} {t : List β} {distance distance' : α → β → Float}

/-- A wider tolerance and lesser element distances never make two sequences farther apart. -/
theorem sequenceDistance_mono {a b : Float} (hab : clampTolerance a ≤ clampTolerance b)
    (h : ∀ x ∈ s, ∀ y ∈ t, 0 ≤ distance x y) (h' : ∀ x ∈ s, ∀ y ∈ t, 0 ≤ distance' x y)
    (hle : ∀ x ∈ s, ∀ y ∈ t, distance x y ≤ distance' x y) :
    sequenceDistance s t distance b ≤ sequenceDistance s t distance' a := by
  rw [sequenceDistance_toFloat_of_nonneg h, sequenceDistance_toFloat_of_nonneg h',
    Magnitude.toFloat_le]
  apply distance_mono magnitudeCosts_lawful (bandWidth_mono hab _) (bandWidth_mono hab _)
  intro x hx y hy
  exact (Magnitude.ofFloat_le (h x hx y hy) (h' x hx y hy)).mpr (hle x hx y hy)

/-- A tolerance that is no number allows nothing; half of the second sequence is enough to skip the
`9`. The greater distance counts a difference twice. -/
theorem sequenceDistance_mono_skipped :
    let distance : Float → Float → Float := fun x y => (x - y).abs
    let distance' : Float → Float → Float := fun x y => (x - y).abs + (x - y).abs
    let none : Float := 0 / 0
    clampTolerance none ≤ clampTolerance 0.5 ∧
      (∀ x ∈ [1, 2], ∀ y ∈ [9, 1, 4], 0 ≤ distance x y) ∧
      (∀ x ∈ [1, 2], ∀ y ∈ [9, 1, 4], 0 ≤ distance' x y) ∧
      (∀ x ∈ [1, 2], ∀ y ∈ [9, 1, 4], distance x y ≤ distance' x y) ∧
      sequenceDistance [1, 2] [9, 1, 4] distance 0.5 ≤
        sequenceDistance [1, 2] [9, 1, 4] distance' none := by
  intro distance distance' none
  have hab : clampTolerance none ≤ clampTolerance 0.5 := by decide
  have h : ∀ x ∈ [1, 2], ∀ y ∈ [9, 1, 4], 0 ≤ distance x y := by decide
  have h' : ∀ x ∈ [1, 2], ∀ y ∈ [9, 1, 4], 0 ≤ distance' x y := by decide
  have hle : ∀ x ∈ [1, 2], ∀ y ∈ [9, 1, 4], distance x y ≤ distance' x y := by decide
  exact ⟨hab, h, h', hle, sequenceDistance_mono hab h h' hle⟩

end Monotone
end PhoneticSearch

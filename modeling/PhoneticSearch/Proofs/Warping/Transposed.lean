import PhoneticSearch.Proofs.Warping.Recurrence

/-!
# Transposition

* `distance_flip`: a distance stays when the two sequences change places, with their borders and the
  sides of the element costs.
* `sequenceDistance_flip`: so the distance of two sequences is symmetric if that of elements is.
-/

namespace PhoneticSearch
namespace Warping

variable {κ α β : Type} [LinearOrder κ] {costs : Costs κ} (lawful : costs.Lawful)

include lawful

theorem cell_comm (cost above left before : κ) :
    cell costs cost above left before = cell costs cost left above before := by
  rw [cell_eq lawful, cell_eq lawful, min_comm above left]

theorem distance_flip (cost : α → β → κ) (rows columns : Nat) (s : List α) (t : List β) :
    distance costs (flip cost) columns rows t s = distance costs cost rows columns s t := by
  induction s, t using concat_induction with
  | nil_left t => rw [distance_nil_left, distance_nil_right]
  | nil_right s => rw [distance_nil_left, distance_nil_right]
  | concat s x t y above left before =>
    rw [distance_concat, distance_concat, above, left, before]
    -- what lies above on one side lies to the left on the other
    exact cell_comm lawful _ _ _ _

end Warping

section Transposition

open Warping

variable {α : Type} {s t : List α} {distance : α → α → Float}

/-- The distance of two sequences is that of the second one from the first one, with the element
distance taken from the other side; so it is symmetric if the element distance is. -/
theorem sequenceDistance_flip
    (h : ∀ x ∈ s, ∀ y ∈ t, 0 ≤ distance x y ∨ (distance x y).isNaN = true) (tolerance : Float) :
    sequenceDistance s t distance tolerance = sequenceDistance t s (flip distance) tolerance ∧
      ((∀ x ∈ s, ∀ y ∈ t, distance x y = distance y x) →
        sequenceDistance s t distance tolerance = sequenceDistance t s distance tolerance) := by
  have hflip : ∀ y ∈ t, ∀ x ∈ s, 0 ≤ flip distance y x ∨ (flip distance y x).isNaN = true :=
    fun y hy x hx => h x hx y hy
  have hequal : sequenceDistance s t distance tolerance =
      sequenceDistance t s (flip distance) tolerance := by
    rw [sequenceDistance_toFloat h, sequenceDistance_toFloat hflip,
      ← distance_flip magnitudeCosts_lawful]
    rfl
  refine ⟨hequal, fun hsymm => ?_⟩
  rw [hequal, sequenceDistance, sequenceDistance]
  exact distance_congr floatCosts _ _ fun y hy x hx => hsymm x hx y hy

/-- An element of the first sequence is no number, and neither are its distances. -/
theorem sequenceDistance_flip_missing :
    let distance : Float → Float → Float := fun x y => (x - y).abs
    let s : List Float := [1, 0 / 0, 2]
    let t : List Float := [1, 3]
    (∀ x ∈ s, ∀ y ∈ t, 0 ≤ distance x y ∨ (distance x y).isNaN = true) ∧
      (∀ x ∈ s, ∀ y ∈ t, distance x y = distance y x) ∧
      sequenceDistance s t distance 0.3 = sequenceDistance t s distance 0.3 := by
  intro distance s t
  have h : ∀ x ∈ s, ∀ y ∈ t, 0 ≤ distance x y ∨ (distance x y).isNaN = true := by decide
  have hsymm : ∀ x ∈ s, ∀ y ∈ t, distance x y = distance y x := by decide +kernel
  exact ⟨h, hsymm, (sequenceDistance_flip h 0.3).2 hsymm⟩

end Transposition
end PhoneticSearch

import PhoneticSearch.Matching.Expansion
import PhoneticSearch.Proofs.PhoneDistance
import PhoneticSearch.Proofs.Warping.Band
import PhoneticSearch.Proofs.Warping.Stretched

/-!
# Expanded queries

An expansion stretches a query, so it never brings an entry nearer, and moves it away by a bounded
factor.

* `expand_eq`: which phones an expansion repeats, and how often.
* `sequenceDistance_le_expand`: rounded distances never fall.
* `distance_expand`: and without rounding they rise by a factor of at most one more than the copies.
-/

namespace PhoneticSearch
namespace Expansion

open Warping
open scoped ENNReal

variable (expansion : Expansion) (query phones : List Phone)

theorem replicate_weight (phone : Phone) :
    List.replicate (expansion.weight phone) phone =
      phone :: List.replicate (if expansion.isConsonantal phone then expansion.copies else 0)
        phone := by
  unfold weight
  split
  · rw [Nat.add_comm, List.replicate_succ]
  · rfl

/-- Copies follow the phones that have the value in the dimension, and no others. -/
theorem expand_eq :
    expansion.expand query = query.flatMap fun phone =>
      phone :: List.replicate
        (if phone[expansion.dimension]?.any (· == expansion.plus) then expansion.copies else 0)
        phone := by
  have hconsonantal : ∀ phone : Phone,
      expansion.isConsonantal phone = phone[expansion.dimension]?.any (· == expansion.plus) := by
    intro phone
    unfold isConsonantal
    cases phone[expansion.dimension]? <;> rfl
  simp only [expand, replicate_weight, hconsonantal]

theorem expand_eq_stretch : expansion.expand query = stretch expansion.weight query := rfl

variable {query phones}

/-- Rounding does not bring an entry nearer to an expanded query. -/
theorem sequenceDistance_le_expand {distance : Phone → Phone → Float}
    (h : ∀ x ∈ query, ∀ y ∈ phones, 0 ≤ distance x y) :
    sequenceDistance query phones distance 0 ≤
      sequenceDistance (expansion.expand query) phones distance 0 := by
  have hexpand : ∀ x ∈ expansion.expand query, ∀ y ∈ phones, 0 ≤ distance x y := by
    intro x hx
    obtain ⟨phone, hphone, hx⟩ := List.mem_flatMap.mp hx
    exact (List.mem_replicate.mp hx).2 ▸ h phone hphone
  rw [sequenceDistance_toFloat_of_nonneg h, sequenceDistance_toFloat_of_nonneg hexpand,
    Magnitude.toFloat_le]
  simp only [bandWidth_zero, expand_eq_stretch]
  exact distance_le_distance_stretch magnitudeCosts_lawful expansion.weight_pos query phones

/-- Copies of consonants only push an entry away, by a factor of at most one more than the copies
and never beyond the greatest finite number. That they do not bring it nearer is true of the rounded
distance as well. -/
theorem distance_expand (query phones : List Phone) (distance : Phone → Phone → ℝ≥0∞) :
    (expansion.expand query = query.flatMap fun phone =>
      phone :: List.replicate
        (if phone[expansion.dimension]?.any (· == expansion.plus) then expansion.copies else 0)
        phone) ∧
      exactDistance query phones distance 0 ≤
        exactDistance (expansion.expand query) phones distance 0 ∧
      exactDistance (expansion.expand query) phones distance 0 ≤
        min ((1 + expansion.copies) * exactDistance query phones distance 0) exactCosts.top ∧
      sequenceDistance query phones phoneDistance 0 ≤
        sequenceDistance (expansion.expand query) phones phoneDistance 0 := by
  have hfactor : 1 + (expansion.copies : ℝ≥0∞) = (1 + expansion.copies : Nat) := by push_cast; rfl
  refine ⟨expansion.expand_eq query, ?_, ?_,
    expansion.sequenceDistance_le_expand fun x _ y _ => phoneDistance_nonneg x y⟩
  all_goals simp only [exactDistance, bandWidth_zero, expand_eq_stretch]
  · exact distance_le_distance_stretch exactCosts_lawful expansion.weight_pos query phones
  · apply le_min
    · rw [hfactor]
      exact distance_stretch_le (by omega) expansion.weight_pos expansion.weight_le query phones
    · exact distance_le_top exactCosts_lawful _ _ _ _ _

end Expansion
end PhoneticSearch

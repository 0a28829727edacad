import PhoneticSearch.Bounds
import PhoneticSearch.FeatureSet

/-!
# Consonant expansion

Copies of the consonantal phones of a query give consonants more weight in a comparison.
-/

namespace PhoneticSearch

structure Expansion where
  /-- The dimension that marks a phone as consonantal. -/
  dimension : Nat
  /-- The value by which it does. -/
  plus : Float
  copies : Nat

namespace Expansion

/-- The expansion by a feature, if the feature set knows it. -/
def ofFeature? (features : FeatureSet) (feature : String) (copies : Nat) : Option Expansion :=
  (features.dimension? feature).map fun dimension =>
    ⟨dimension, features.plus, min copies maxCopies⟩

def isConsonantal (expansion : Expansion) (phone : Phone) : Bool :=
  match phone[expansion.dimension]? with
  | some value => value == expansion.plus
  | none => false

def weight (expansion : Expansion) (phone : Phone) : Nat :=
  if expansion.isConsonantal phone then 1 + expansion.copies else 1

theorem weight_pos (expansion : Expansion) (phone : Phone) : 0 < expansion.weight phone := by
  unfold weight
  split <;> omega

theorem weight_le (expansion : Expansion) (phone : Phone) :
    expansion.weight phone ≤ 1 + expansion.copies := by
  unfold weight
  split <;> omega

/-- Each phone as often as its weight, in place. -/
def expand (expansion : Expansion) (phones : List Phone) : List Phone :=
  phones.flatMap fun phone => List.replicate (expansion.weight phone) phone

end Expansion

end PhoneticSearch

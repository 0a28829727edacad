import PhoneticSearch.Bounds
import PhoneticSearch.Decimal.Binary
import PhoneticSearch.FeatureSet
import PhoneticSearch.Warping

/-!
# Distances of phones

* `phoneDistance`: the Euclidean distance of two phones, the greatest finite number if their
  lengths differ.
* `bandWidth`: how many elements of a sequence may be skipped under a tolerance.
* `sequenceDistance`: the warping distance of two sequences under a tolerance.
-/

namespace PhoneticSearch

def maxFloat : Float := Float.ofBits 0x7FEFFFFFFFFFFFFF

/-- The sum of the squared differences, added to `sum` in order. A missing component counts as an
extreme number, the least one on the left and the greatest one on the right. -/
def squaredDifferences (sum : Float) : Phone → Phone → Float
  | [], [] => sum
  | x :: xs, [] => squaredDifferences (square sum x maxFloat) xs []
  | [], y :: ys => squaredDifferences (square sum (-maxFloat) y) [] ys
  | x :: xs, y :: ys => squaredDifferences (square sum x y) xs ys
where
  square (sum x y : Float) : Float := sum + (x - y) * (x - y)

/-- The Euclidean distance; what is no finite number counts as the greatest one. -/
def phoneDistance (a b : Phone) : Float :=
  let distance := (squaredDifferences 0 a b).sqrt
  if distance.isFinite then distance else maxFloat

def maxCount : Nat := Nat.pow 2 64 - 1

/-- The share `tolerance` of a length, rounded up. -/
def bandWidth (tolerance : Float) (length : Nat) : Nat :=
  match Binary.ofFloat? (clampTolerance tolerance * Float.ofNat length) with
  | some share => min share.ceil maxCount
  | none => 0

/-- The lesser of two numbers; what is not a number never is the lesser one. -/
def lesser (x y : Float) : Float :=
  if x.isNaN then y
  else if y.isNaN then x
  else if y < x then y
  else x

/-- Costs are finite numbers from zero on. -/
@[inline]
def floatCosts : Costs Float where
  zero := 0
  top := maxFloat
  add := (· + ·)
  min := lesser

/-- The warping distance of two sequences when a share `tolerance` of the start of either may be
skipped. -/
@[specialize distance]
def sequenceDistance {α β : Type} (s : List α) (t : List β) (distance : α → β → Float)
    (tolerance : Float) : Float :=
  Warping.distance floatCosts distance (bandWidth tolerance s.length) (bandWidth tolerance t.length)
    s t

end PhoneticSearch

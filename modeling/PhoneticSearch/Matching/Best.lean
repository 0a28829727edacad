import PhoneticSearch.PhoneDistance

/-!
# The best few

The items at the least distances, found in one pass over all items.

* `distanceKey`: the total order of numbers by which items are sorted.
* `Selection.offer`: one more item to choose from; items at one distance stay in order.
-/

namespace PhoneticSearch

/-- The place of a number among all numbers, by its bits: from zero on, the order of the bits is
the order of the numbers. -/
def distanceKey (x : Float) : Int :=
  let bits := x.toBits.toNat
  if bits < Nat.pow 2 63 then bits else (Nat.pow 2 63 : Int) - 1 - bits

structure Ranked (α : Type) where
  distance : Float
  item : α

def Ranked.key {α : Type} (ranked : Ranked α) : Int := distanceKey ranked.distance

/-- The best few items so far, the nearest first, and the distance of the last of them. -/
structure Selection (α : Type) where
  kept : List (Ranked α)
  worst : Float

namespace Selection

variable {α : Type}

def empty : Selection α := ⟨[], maxFloat⟩

/-- The best few with one more item to choose from. It is looked at if it is nearer than the last of
them or there is room for it. -/
def offer (count : Nat) (selection : Selection α) (ranked : Ranked α) : Selection α :=
  if ranked.distance < selection.worst || selection.kept.length < count then
    let sorted := (selection.kept ++ [ranked]).mergeSort fun a b => decide (a.key ≤ b.key)
    let kept := sorted.take count
    ⟨kept, kept.getLast?.elim maxFloat (·.distance)⟩
  else selection

end Selection

end PhoneticSearch

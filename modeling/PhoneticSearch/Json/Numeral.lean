import PhoneticSearch.Json.Tree

/-!
# Numerals

The numerals of a JSON text and their values. A whole number of at most 64 bits is exact. Any
other numeral is read as a whole number of 64 bits, made of its leading digits, times or over a
power of ten; digits that no longer fit are dropped.
-/

namespace PhoneticSearch.Json

structure Numeral where
  negative : Bool
  whole : List Char
  fraction : List Char
  /-- The sign (`true` for minus) and the digits of the exponent, if there is one. -/
  power : Option (Bool × List Char)
deriving Repr, DecidableEq

namespace Numeral

def digit (c : Char) : Nat := c.toNat - '0'.toNat

def maxWord : Nat := Nat.pow 2 64 - 1

/-- Leading digits and the power of ten that they are to be multiplied by. -/
structure Scaled where
  digits : Nat
  exponent : Int
  /-- Whether a digit has been dropped, after which no digit of the same part counts. -/
  full : Bool
deriving Repr, DecidableEq

/-- One more digit before the point; a dropped one raises the power of ten. -/
def Scaled.pushWhole (s : Scaled) (c : Char) : Scaled :=
  let digits := s.digits * 10 + digit c
  if s.full || maxWord < digits then { s with exponent := s.exponent + 1, full := true }
  else { s with digits }

/-- One more digit after the point; a dropped one changes nothing. -/
def Scaled.pushFraction (s : Scaled) (c : Char) : Scaled :=
  let digits := s.digits * 10 + digit c
  if s.full || maxWord < digits then { s with full := true }
  else { s with digits, exponent := s.exponent - 1 }

def powerOfTen (exponent : Nat) : Float := Float.ofScientific 1 false exponent

/-- The number `x * 10 ^ exponent`, in steps of at most 308 places; `none` if it is beyond every
`Float`. A number below `2 ^ 64` has become zero after two steps down. -/
def scale (x : Float) (exponent : Int) : Nat → Option Float
  | 0 => some x
  | steps + 1 =>
    if exponent.natAbs ≤ 308 then
      if 0 ≤ exponent then
        let y := x * powerOfTen exponent.natAbs
        if y.isInf then none else some y
      else some (x / powerOfTen exponent.natAbs)
    else if x == 0 then some x
    else if 0 ≤ exponent then none
    else scale (x / powerOfTen 308) (exponent + 308) steps

def maxPower : Nat := Nat.pow 2 31 - 1

/-- The magnitude of a numeral that is not a whole number of 64 bits. -/
def magnitude (numeral : Numeral) : Option Float :=
  let whole := numeral.whole.foldl Scaled.pushWhole ⟨0, 0, false⟩
  let scaled := numeral.fraction.foldl Scaled.pushFraction { whole with full := false }
  let x := Float.ofNat scaled.digits
  match numeral.power with
  | none => scale x scaled.exponent 5
  | some (down, digits) =>
    let power := digits.foldl (fun n c => n * 10 + digit c) 0
    if maxPower < power then
      if scaled.digits ≠ 0 && !down then none else some 0
    else scale x (if down then scaled.exponent - power else scaled.exponent + power) 5

/-- The value of a numeral; minus zero and whole numbers beyond 64 bits are floating. -/
def value (numeral : Numeral) : Option Number :=
  let whole := numeral.whole.foldl (fun n c => n * 10 + digit c) 0
  let isWhole := numeral.fraction.isEmpty && numeral.power.isNone
  if isWhole && !numeral.negative && whole ≤ maxWord then some (.integer whole)
  else if isWhole && numeral.negative && 0 < whole && whole ≤ Nat.pow 2 63 then
    some (.integer (-(whole : Int)))
  else numeral.magnitude.map fun x => .real (if numeral.negative then -x else x)

end Numeral

end PhoneticSearch.Json

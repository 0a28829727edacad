import PhoneticSearch.Decimal.Binary

/-!
# Shortest decimals

* `Decimal`: the number `digits * 10 ^ exponent`.
* `Tie`: which of two equally near neighbours is taken.
* `Decimal.shortest`: the decimal of the fewest digits that lies nearer to a given binary fraction
  than to its neighbours, and of these the nearest to it; a tie goes by the given rule.
* `roundDiv`: a quotient rounded to a whole number, a half by the given rule.
-/

namespace PhoneticSearch

/-- The number `digits * 10 ^ exponent`. -/
structure Decimal where
  digits : Nat
  exponent : Int
deriving Repr, DecidableEq

/-- The rule for a value halfway between two neighbours. -/
inductive Tie where
  | toEven
  | up
deriving Repr, DecidableEq

/-- Whether a value halfway between `below` and `below + 1` goes to the upper one. -/
def Tie.goesUp (tie : Tie) (below : Nat) : Bool :=
  match tie with
  | .toEven => below % 2 == 1
  | .up => true

/-- The quotient `num / den` rounded to the nearest whole number, a half by the rule `tie`. -/
def roundDiv (tie : Tie) (num den : Nat) : Nat :=
  let low := num / den
  let rest := 2 * (num % den)
  if rest < den then low
  else if den < rest then low + 1
  else if tie.goesUp low then low + 1
  else low

namespace Decimal

/-- The texts that read back as a binary fraction, in quarters of its last place: from `low` to
`high`, the ends included if `closed`. -/
structure Span where
  low : Nat
  value : Nat
  high : Nat
  exponent : Int
  closed : Bool

/-- The gap below a power of two is half the gap above it. -/
def Span.ofBinary (b : Binary) : Span where
  low := 4 * b.mantissa -
    (if b.mantissa = Binary.hiddenBit && b.exponent ≠ Binary.minExponent then 1 else 2)
  value := 4 * b.mantissa
  high := 4 * b.mantissa + 2
  exponent := b.exponent - 2
  closed := b.mantissa % 2 == 0

def powerRatio (base : Nat) (exponent : Int) : Nat × Nat :=
  if 0 ≤ exponent then (Nat.pow base exponent.toNat, 1) else (1, Nat.pow base (-exponent).toNat)

/-- The multiple of `10 ^ exponent` next to the value that lies inside the span: the one below,
the one above, or the nearer one if both do, and the one that `tie` names if both are as near. -/
def Span.onGrid? (span : Span) (tie : Tie) (exponent : Int) : Option Nat :=
  let two := powerRatio 2 span.exponent
  let ten := powerRatio 10 exponent
  -- `count * ten` and `quarters * two` on one scale
  let step := ten.1 * two.2
  let scale := two.1 * ten.2
  let inside (count : Nat) : Bool :=
    let here := count * step
    if span.closed then span.low * scale ≤ here && here ≤ span.high * scale
    else span.low * scale < here && here < span.high * scale
  let below := span.value * scale / step
  let above := below + 1
  match inside below, inside above with
  | true, true =>
    let toBelow := span.value * scale - below * step
    let toAbove := above * step - span.value * scale
    some (if toAbove < toBelow || (toAbove == toBelow && tie.goesUp below) then above else below)
  | true, false => some below
  | false, true => some above
  | false, false => none

/-- The exponent of the leading digit of a positive span's value. -/
def Span.leading (span : Span) : Int :=
  let shift : Nat := 400
  let two := powerRatio 2 span.exponent
  ((Nat.toDigits 10 (span.value * two.1 * Nat.pow 10 shift / two.2)).length : Int) - 1 - shift

/-- The first grid, from coarse to fine, that has a point in the span. -/
def Span.search (span : Span) (tie : Tie) (exponent : Int) : Nat → Decimal
  | 0 => ⟨(span.onGrid? tie exponent).getD 0, exponent⟩
  | finer + 1 =>
    match span.onGrid? tie exponent with
    | some digits => ⟨digits, exponent⟩
    | none => span.search tie (exponent - 1) finer

/-- Without the zeros at the end of the digits; `fuel` bounds their number. -/
def dropZeros (d : Decimal) : Nat → Decimal
  | 0 => d
  | fuel + 1 =>
    if d.digits % 10 = 0 && d.digits ≠ 0 then dropZeros ⟨d.digits / 10, d.exponent + 1⟩ fuel else d

/-- The shortest decimal that reads back as the magnitude; seventeen digits always suffice. Of two
equally near ones `tie` names the digits. -/
def shortest (tie : Tie) (b : Binary) : Decimal :=
  if b.mantissa = 0 then ⟨0, 0⟩
  else
    let span := Span.ofBinary b
    dropZeros (span.search tie span.leading 16) 20

end Decimal

end PhoneticSearch

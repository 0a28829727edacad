/-!
# Binary fractions

A finite `Float` is a sign, a mantissa and a power of two. Everything that is exact about a
number, its ceiling and its decimal texts, is computed on this form in whole numbers.
-/

namespace PhoneticSearch

/-- The number `mantissa * 2 ^ exponent`, with its sign. -/
structure Binary where
  negative : Bool
  mantissa : Nat
  exponent : Int
deriving Repr, DecidableEq

namespace Binary

/-- The least exponent, that of the subnormal numbers. -/
def minExponent : Int := -1074

/-- The mantissa of a power of two among the normal numbers. -/
def hiddenBit : Nat := Nat.pow 2 52

/-- The binary fraction that a `Float` is, unless it is infinite or not a number. -/
def ofFloat? (x : Float) : Option Binary :=
  let bits := x.toBits.toNat
  let field := bits / hiddenBit % Nat.pow 2 11
  let fraction := bits % hiddenBit
  let negative := decide (Nat.pow 2 63 ≤ bits)
  if field = Nat.pow 2 11 - 1 then none
  else if field = 0 then some ⟨negative, fraction, minExponent⟩
  else some ⟨negative, hiddenBit + fraction, minExponent + (field - 1 : Nat)⟩

/-- The least whole number that is not below the magnitude. -/
def ceil (b : Binary) : Nat :=
  if b.mantissa = 0 then 0
  else if 0 ≤ b.exponent then b.mantissa * Nat.pow 2 b.exponent.toNat
  else
    let unit := Nat.pow 2 (-b.exponent).toNat
    (b.mantissa + (unit - 1)) / unit

end Binary

end PhoneticSearch

import PhoneticSearch.Decimal.Shortest

/-!
# Decimal texts of numbers

The three ways in which this library writes a number:

* `Decimal.plain`: the shortest digits, a tie going up, always positional, no point after a whole
  number;
* `Decimal.general`: the shortest digits, a tie going to the even neighbour, with a point or an
  exponent, positional from `1e-5` to below `1e16`;
* `Decimal.fixed`: a given number of places, a half going to the even neighbour.
-/

namespace PhoneticSearch.Decimal

def digitChars (n : Nat) : List Char := Nat.toDigits 10 n

def zeros (n : Nat) : List Char := List.replicate n '0'

/-- Digits with the point before the last `places` of them, filled up with zeros. -/
def pointed (digits : List Char) (places : Nat) : List Char :=
  let filled := zeros (places + 1 - digits.length) ++ digits
  filled.take (filled.length - places) ++ '.' :: filled.drop (filled.length - places)

def positional (d : Decimal) : List Char :=
  if 0 ≤ d.exponent then digitChars d.digits ++ zeros d.exponent.toNat
  else pointed (digitChars d.digits) (-d.exponent).toNat

def signedChars (n : Int) : List Char := (if n < 0 then '-' else '+') :: digitChars n.natAbs

/-- Positional where the point falls at most sixteen digits to the right of the first one and at
most five to its left, and with a signed exponent elsewhere; a whole number ends in `.0`. -/
def generalForm (d : Decimal) : List Char :=
  let digits := digitChars d.digits
  let point : Int := digits.length + d.exponent
  if 0 ≤ d.exponent && point ≤ 16 then digits ++ zeros d.exponent.toNat ++ ['.', '0']
  else if -5 < point && point ≤ 16 then positional d
  else
    let mantissa :=
      match digits with
      | [] => []
      | [c] => [c]
      | c :: rest => c :: '.' :: rest
    mantissa ++ 'e' :: signedChars (point - 1)

def withSign (form : Binary → List Char) (x : Float) : String :=
  match Binary.ofFloat? x with
  | some b => String.ofList ((if b.negative then ['-'] else []) ++ form b)
  | none => if x.isNaN then "NaN" else if x < 0 then "-inf" else "inf"

/-- The shortest positional text; of two equally near ones the one of the greater magnitude. -/
def plain (x : Float) : String := withSign (fun b => positional (shortest .up b)) x

/-- The shortest text with a point or an exponent; of two equally near ones the even one. -/
def general (x : Float) : String :=
  withSign (fun b => if b.mantissa = 0 then ['0', '.', '0'] else generalForm (shortest .toEven b)) x

def fixed (places : Nat) (x : Float) : String :=
  withSign
    (fun b =>
      let two := powerRatio 2 b.exponent
      pointed (digitChars (roundDiv .toEven (b.mantissa * two.1 * Nat.pow 10 places) two.2)) places)
    x

example : general 1e16 = "1e+16" ∧ general 9.99e-6 = "9.99e-6" ∧
    general 4e15 = "4000000000000000.0" ∧ plain 1e16 = "10000000000000000" ∧
    fixed 3 0.3125 = "0.312" := by
  decide +kernel

-- a value halfway between the two decimals of sixteen digits next to it
example : plain 562949953421312.25 = "562949953421312.3" ∧
    plain (-562949953421312.25) = "-562949953421312.3" ∧
    general 562949953421312.25 = "562949953421312.2" ∧
    plain 2.98023223876953125e-8 = "0.000000029802322387695313" := by
  decide +kernel

end PhoneticSearch.Decimal

/-!
# Bounds

The numbers that a matcher can be set to, and how numbers beyond them are read.
-/

namespace PhoneticSearch

def defaultOptionCount : Nat := 6

def maxOptionCount : Nat := 20

/-- The greatest number of copies of a consonantal phone. -/
def maxCopies : Nat := 2

def clampOptions (count : Nat) : Nat := max 1 (min count maxOptionCount)

/-- A tolerance within its bounds; what is not a number counts as zero. -/
def clampTolerance (tolerance : Float) : Float :=
  if tolerance.isNaN then 0
  else if tolerance < 0 then 0
  else if 1 < tolerance then 1
  else tolerance

end PhoneticSearch

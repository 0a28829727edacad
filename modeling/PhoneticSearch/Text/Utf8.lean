/-!
# Text from bytes

The bytes of a file are read as UTF-8 by a machine that takes one byte at a time.

* `decode`: the characters of a byte sequence, with `none` for each maximal stretch that begins
  no character.
* `decode?`: the text, if every byte belongs to a character.
* `decodeLossy`: the text with a replacement character for each broken stretch.
-/

namespace PhoneticSearch.Utf8

inductive Stage where
  | ready
  /-- Inside a character: the bytes that are still to come after the next one, the least and the
  greatest value of the next one, and the bits read so far. -/
  | inside (owed : Nat) (low high : UInt8) (code : Nat)

def begin (b : UInt8) : Option Stage :=
  if b < 0xC2 then none
  else if b < 0xE0 then some (.inside 0 0x80 0xBF (b.toNat % 0x20))
  else if b < 0xF0 then
    let low := if b = 0xE0 then 0xA0 else 0x80
    let high := if b = 0xED then 0x9F else 0xBF
    some (.inside 1 low high (b.toNat % 0x10))
  else if b < 0xF5 then
    let low := if b = 0xF0 then 0x90 else 0x80
    let high := if b = 0xF4 then 0x8F else 0xBF
    some (.inside 2 low high (b.toNat % 0x08))
  else none

/-- The characters of the bytes; `none` stands for a stretch that is no character. -/
def decodeFrom : Stage → List UInt8 → List (Option Char)
  | .ready, [] => []
  | .inside .., [] => [none]
  | .ready, b :: rest => enter b rest
  | .inside owed low high code, b :: rest =>
    if low ≤ b && b ≤ high then
      let code := code * 0x40 + b.toNat % 0x40
      match owed with
      | 0 => some (Char.ofNat code) :: decodeFrom .ready rest
      | owed + 1 => decodeFrom (.inside owed 0x80 0xBF code) rest
    else none :: enter b rest
where
  enter (b : UInt8) (rest : List UInt8) : List (Option Char) :=
    if b < 0x80 then some (Char.ofNat b.toNat) :: decodeFrom .ready rest
    else
      match begin b with
      | some stage => decodeFrom stage rest
      | none => none :: decodeFrom .ready rest

def decode (bytes : List UInt8) : List (Option Char) := decodeFrom .ready bytes

/-- The text of the bytes, if they are UTF-8 throughout. -/
def decode? (bytes : List UInt8) : Option String :=
  ((decode bytes).mapM id).map String.ofList

/-- The text of the bytes, with U+FFFD for each stretch that is no character. -/
def decodeLossy (bytes : List UInt8) : String :=
  String.ofList ((decode bytes).map fun c => c.getD '\uFFFD')

end PhoneticSearch.Utf8

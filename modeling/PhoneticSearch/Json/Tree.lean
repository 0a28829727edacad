/-!
# Trees of JSON texts

A JSON text is read into a tree even if it is malformed: the tree then ends where the text went
wrong. Whoever reads a value out of the tree walks it in document order and so meets the first
problem of the text first, whether the text is broken there or of the wrong shape.

* `Break`: how a text can go wrong; `Fault`: a break, or a value of the wrong shape.
* `Literal`: the content of a string, its `\u` units not yet joined.
* `Tree`: the values of a text.
-/

namespace PhoneticSearch.Json

/-- How a text goes wrong. -/
inductive Break where
  | malformed
  | truncated
deriving Repr, DecidableEq

inductive Fault where
  | text (cause : Break)
  /-- The text is well formed so far, but the value is not of the shape asked for. -/
  | shape (message : String)
deriving Repr, DecidableEq

/-- A piece of a string: a character, or a UTF-16 unit written by number. -/
inductive Piece where
  | char (c : Char)
  | unit (code : Nat)
deriving Repr, DecidableEq

/-- The content of a string, up to the break if it has one. -/
structure Literal where
  pieces : List Piece
  stop : Option Break
deriving Repr, DecidableEq

/-- A number, as a whole number of at most 64 bits if it is written as one. -/
inductive Number where
  | integer (n : Int)
  | real (x : Float)

inductive Tree where
  | null
  | bool (b : Bool)
  /-- A number; `none` stands for one beyond every `Float`. -/
  | number (value : Option Number)
  | string (content : Literal)
  /-- The items, and the break that ends them early. -/
  | list (items : List Tree) (stop : Option Break)
  /-- The members in document order, and the break that ends them early. -/
  | object (members : List (Literal × Tree)) (stop : Option Break)
  /-- A list or object inside too many others. -/
  | deep (value : Tree)
  /-- A numeral that breaks. Where values are skipped, any end of it counts as a wrong character. -/
  | brokenNumeral (cause : Break)
  | broken (cause : Break)

/-- A list or object that opens inside this many others is too deep to be read. -/
def depthLimit : Nat := 127

namespace Literal

def isHigh (code : Nat) : Bool := 0xD800 ≤ code && code ≤ 0xDBFF

def isLow (code : Nat) : Bool := 0xDC00 ≤ code && code ≤ 0xDFFF

def joined (high low : Nat) : Char :=
  Char.ofNat ((high - 0xD800) * 0x400 + (low - 0xDC00) + 0x10000)

/-- The characters of a literal: each high unit must be followed by a low one. -/
def charsOf (stop : Option Break) : List Piece → Except Break (List Char)
  | [] =>
    match stop with
    | none => .ok []
    | some cause => .error cause
  | .char c :: rest => (charsOf stop rest).map (c :: ·)
  | .unit code :: rest =>
    if isLow code then .error .malformed
    else if isHigh code then
      match rest with
      | .unit low :: rest =>
        if isLow low then (charsOf stop rest).map (joined code low :: ·) else .error .malformed
      | [] => .error (if stop = some .truncated then .truncated else .malformed)
      | .char _ :: _ => .error .malformed
    else (charsOf stop rest).map (Char.ofNat code :: ·)

def text (content : Literal) : Except Break String :=
  (charsOf content.stop content.pieces).map String.ofList

def ofText (text : String) : Literal := ⟨text.toList.map .char, none⟩

theorem charsOf_map_char (chars : List Char) : charsOf none (chars.map .char) = .ok chars := by
  induction chars with
  | nil => rfl
  | cons c rest ih => simp [charsOf, ih, Except.map]

@[simp]
theorem text_ofText (text : String) : (ofText text).text = .ok text := by
  simp [ofText, Literal.text, charsOf_map_char, Except.map]

def break? (content : Literal) : Option Break :=
  match content.text with
  | .ok _ => none
  | .error cause => some cause

@[simp]
theorem break?_ofText (text : String) : (ofText text).break? = none := by simp [break?]

end Literal

namespace Tree

def ofText (text : String) : Tree := .string (.ofText text)

mutual

/-- The first break in document order that a reader of the whole value meets. -/
def break? : Tree → Option Break
  | null => none
  | bool _ => none
  | number (some _) => none
  | number none => some .malformed
  | string content => content.break?
  | list items stop => (itemsBreak? items).or stop
  | object members stop => (membersBreak? members).or stop
  | deep _ => some .malformed
  | brokenNumeral cause => some cause
  | broken cause => some cause

def itemsBreak? : List Tree → Option Break
  | [] => none
  | item :: rest => (break? item).or (itemsBreak? rest)

def membersBreak? : List (Literal × Tree) → Option Break
  | [] => none
  | (name, value) :: rest => (name.break?.or (break? value)).or (membersBreak? rest)

end

mutual

/-- The first break met when the value is skipped: neither the pairing of units nor the size of
numbers nor the depth is looked at. -/
def skipBreak? : Tree → Option Break
  | null => none
  | bool _ => none
  | number _ => none
  | string content => content.stop
  | list items stop => (itemsSkipBreak? items).or stop
  | object members stop => (membersSkipBreak? members).or stop
  | deep value => skipBreak? value
  | brokenNumeral _ => some .malformed
  | broken cause => some cause

def itemsSkipBreak? : List Tree → Option Break
  | [] => none
  | item :: rest => (skipBreak? item).or (itemsSkipBreak? rest)

def membersSkipBreak? : List (Literal × Tree) → Option Break
  | [] => none
  | (name, value) :: rest => (name.stop.or (skipBreak? value)).or (membersSkipBreak? rest)

end

end Tree

end PhoneticSearch.Json

import PhoneticSearch.Json.Numeral

/-!
# Reading JSON texts

`Document.ofText` reads any text into a tree. Each reader takes the characters that are left and
gives back those it has not used; where the text breaks, nothing is left.
-/

namespace PhoneticSearch.Json

structure Document where
  root : Tree
  /-- The break that a second value, or anything else after the first one, makes. -/
  trailing : Option Break

namespace Reader

def isSpace (c : Char) : Bool := c == ' ' || c == '\n' || c == '\t' || c == '\r'

def skipSpace (text : List Char) : List Char := text.dropWhile isSpace

def hexDigit? (c : Char) : Option Nat :=
  if '0' ≤ c && c ≤ '9' then some (c.toNat - '0'.toNat)
  else if 'a' ≤ c && c ≤ 'f' then some (c.toNat - 'a'.toNat + 10)
  else if 'A' ≤ c && c ≤ 'F' then some (c.toNat - 'A'.toNat + 10)
  else none

def unit? (a b c d : Char) : Option Nat := do
  let a ← hexDigit? a
  let b ← hexDigit? b
  let c ← hexDigit? c
  let d ← hexDigit? d
  return ((a * 16 + b) * 16 + c) * 16 + d

def escape? : Char → Option Char
  | '"' => some '"'
  | '\\' => some '\\'
  | '/' => some '/'
  | 'b' => some '\x08'
  | 'f' => some '\x0c'
  | 'n' => some '\n'
  | 'r' => some '\r'
  | 't' => some '\t'
  | _ => none

/-- How an escape by number breaks when fewer than four characters are left: the text counts as
truncated if fewer than four bytes are left. -/
def shortEscape (text : List Char) : Break :=
  if (String.ofList text).utf8ByteSize < 4 then .truncated else .malformed

/-- The rest of a string after its opening quote; `seen` holds its pieces, the last one first. -/
def literal (seen : List Piece) : List Char → Literal × List Char
  | [] => (⟨seen.reverse, some .truncated⟩, [])
  | '"' :: rest => (⟨seen.reverse, none⟩, rest)
  | '\\' :: 'u' :: a :: b :: c :: d :: rest =>
    match unit? a b c d with
    | some code => literal (.unit code :: seen) rest
    | none => (⟨seen.reverse, some .malformed⟩, [])
  | '\\' :: 'u' :: rest => (⟨seen.reverse, some (shortEscape rest)⟩, [])
  | '\\' :: c :: rest =>
    match escape? c with
    | some escaped => literal (.char escaped :: seen) rest
    | none => (⟨seen.reverse, some .malformed⟩, [])
  | ['\\'] => (⟨seen.reverse, some .truncated⟩, [])
  | c :: rest =>
    if c.toNat < 0x20 then (⟨seen.reverse, some .malformed⟩, [])
    else literal (.char c :: seen) rest

/-- The break before a character that cannot stand here, or at the end of the text. -/
def breakAt (text : List Char) : Break := if text.isEmpty then .truncated else .malformed

def power (text : List Char) : Except Break (Option (Bool × List Char) × List Char) :=
  match text with
  | c :: rest =>
    if c == 'e' || c == 'E' then
      let (down, rest) :=
        match rest with
        | '+' :: rest => (false, rest)
        | '-' :: rest => (true, rest)
        | _ => (false, rest)
      let digits := rest.takeWhile Char.isDigit
      if digits.isEmpty then .error (breakAt rest)
      else .ok (some (down, digits), rest.dropWhile Char.isDigit)
    else .ok (none, text)
  | [] => .ok (none, text)

def fraction (text : List Char) : Except Break (List Char × List Char) :=
  match text with
  | '.' :: rest =>
    let digits := rest.takeWhile Char.isDigit
    if digits.isEmpty then .error (breakAt rest) else .ok (digits, rest.dropWhile Char.isDigit)
  | _ => .ok ([], text)

/-- The digits before the point of a numeral; more than one may not begin with zero. -/
def whole (text : List Char) : Except Break (List Char × List Char) :=
  let digits := text.takeWhile Char.isDigit
  match digits with
  | [] => .error (breakAt text)
  | '0' :: _ :: _ => .error .malformed
  | _ => .ok (digits, text.dropWhile Char.isDigit)

def numeral (text : List Char) : Except Break (Numeral × List Char) := do
  let (negative, text) :=
    match text with
    | '-' :: rest => (true, rest)
    | _ => (false, text)
  let (whole, text) ← whole text
  let (fraction, text) ← fraction text
  let (power, text) ← power text
  return (⟨negative, whole, fraction, power⟩, text)

def word (value : Tree) : List Char → List Char → Tree × List Char
  | [], text => (value, text)
  | _ :: _, [] => (.broken .truncated, [])
  | expected :: more, c :: rest =>
    if c = expected then word value more rest else (.broken .malformed, [])

def atDepth (depth : Nat) (value : Tree) : Tree := if depthLimit ≤ depth then .deep value else value

mutual

/-- A value inside `depth` lists and objects; `fuel` bounds the steps left. -/
def value (depth : Nat) (text : List Char) : Nat → Tree × List Char
  | 0 => (.broken .truncated, [])
  | fuel + 1 =>
    match skipSpace text with
    | [] => (.broken .truncated, [])
    | 'n' :: rest => word .null ['u', 'l', 'l'] rest
    | 't' :: rest => word (.bool true) ['r', 'u', 'e'] rest
    | 'f' :: rest => word (.bool false) ['a', 'l', 's', 'e'] rest
    | '"' :: rest =>
      let (content, rest) := literal [] rest
      (.string content, rest)
    | '[' :: rest =>
      let (items, stop, rest) := items (depth + 1) [] rest fuel
      (atDepth depth (.list items stop), rest)
    | '\x7b' :: rest =>
      let (members, stop, rest) := members (depth + 1) [] rest fuel
      (atDepth depth (.object members stop), rest)
    | c :: rest =>
      if c == '-' || c.isDigit then
        match numeral (c :: rest) with
        | .ok (numeral, rest) => (.number numeral.value, rest)
        | .error cause => (.brokenNumeral cause, [])
      else (.broken .malformed, [])

/-- The items of a list from the next one on; `seen` holds those before it, the last one first. An
item must follow each comma, so a text that ends after one ends inside an item. -/
def items (depth : Nat) (seen : List Tree) (text : List Char) :
    Nat → List Tree × Option Break × List Char
  | 0 => (seen.reverse, some .truncated, [])
  | fuel + 1 =>
    match skipSpace text with
    | ']' :: rest => if seen.isEmpty then ([], none, rest) else (seen.reverse, some .malformed, [])
    | [] =>
      if seen.isEmpty then ([], some .truncated, [])
      else ((.broken .truncated :: seen).reverse, none, [])
    | text =>
      let (item, rest) := value depth text fuel
      let seen := item :: seen
      match skipSpace rest with
      | ']' :: rest => (seen.reverse, none, rest)
      | ',' :: rest => items depth seen rest fuel
      | [] => (seen.reverse, some .truncated, [])
      | _ => (seen.reverse, some .malformed, [])

def members (depth : Nat) (seen : List (Literal × Tree)) (text : List Char) :
    Nat → List (Literal × Tree) × Option Break × List Char
  | 0 => (seen.reverse, some .truncated, [])
  | fuel + 1 =>
    match skipSpace text with
    | '\x7d' :: rest =>
      if seen.isEmpty then ([], none, rest) else (seen.reverse, some .malformed, [])
    | [] => (seen.reverse, some .truncated, [])
    | '"' :: rest =>
      let (name, rest) := literal [] rest
      let (item, rest) :=
        match skipSpace rest with
        | ':' :: rest => value depth rest fuel
        | text => (.broken (breakAt text), [])
      let seen := (name, item) :: seen
      match skipSpace rest with
      | '\x7d' :: rest => (seen.reverse, none, rest)
      | ',' :: rest => members depth seen rest fuel
      | [] => (seen.reverse, some .truncated, [])
      | _ => (seen.reverse, some .malformed, [])
    | _ => (seen.reverse, some .malformed, [])

end

end Reader

/-- The tree of a text. Each step uses up a character or opens a value, so the fuel suffices. -/
def Document.ofText (text : String) : Document :=
  let chars := text.toList
  let (root, rest) := Reader.value 0 chars (2 * chars.length + 2)
  ⟨root, if (Reader.skipSpace rest).isEmpty then none else some .malformed⟩

end PhoneticSearch.Json

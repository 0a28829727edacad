import PhoneticSearch.Text.Unprintable

/-!
# Quoted texts

A text between double quotes, in which the quote, the backslash and all that has no picture of
its own are escaped, so that the text can be read off a message.
-/

namespace PhoneticSearch.Text

def hexDigits (n : Nat) : List Char := Nat.toDigits 16 n

def quoteChar (c : Char) : List Char :=
  match c with
  | '\x00' => ['\\', '0']
  | '\t' => ['\\', 't']
  | '\n' => ['\\', 'n']
  | '\r' => ['\\', 'r']
  | '"' => ['\\', '"']
  | '\\' => ['\\', '\\']
  | _ =>
    if 0x20 ≤ c.toNat && c.toNat < 0x7F then [c]
    else if isExtending c || isUnprintable c then
      ['\\', 'u', '\x7b'] ++ hexDigits c.toNat ++ ['\x7d']
    else [c]

def quoted (text : String) : String :=
  String.ofList ('"' :: text.toList.flatMap quoteChar ++ ['"'])

example : quoted "a\"b\u0301\n" = "\"a\\\"b\\u\x7b301\x7d\\n\"" := by decide +kernel

example : quoted "\uff9e\u3164" = "\"\uff9e\\u\x7b3164\x7d\"" := by decide +kernel

end PhoneticSearch.Text

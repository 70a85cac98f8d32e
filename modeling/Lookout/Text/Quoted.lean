import Lookout.Text.Hidden

/-!
# Quoted text in messages

A message that cites a text puts it between quotes.  Quotes, backslashes and everything that would
not be seen are escaped.

## Main definitions

* `Text.quoted` — a text between quotes.
-/

namespace Lookout.Text

/-- A code point in hexadecimal, as an escape. -/
def codePoint (c : Char) : String :=
  "\\u\x7b" ++ String.ofList (Nat.toDigits 16 c.toNat) ++ "\x7d"

/-- A character inside a quoted text. -/
def cite (c : Char) : String :=
  match c with
  | '"' => "\\\""
  | '\\' => "\\\\"
  | '\n' => "\\n"
  | '\r' => "\\r"
  | '\t' => "\\t"
  | c =>
    if c.toNat = 0 then "\\0"
    else if c.toNat < 32 || c.toNat = 127 || (127 < c.toNat && isHidden c) then codePoint c
    else c.toString

/-- A text between quotes. -/
def quoted (s : String) : String :=
  "\"" ++ String.join (s.toList.map cite) ++ "\""

end Lookout.Text

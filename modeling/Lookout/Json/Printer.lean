import Lookout.Decimal.Layout
import Lookout.Json.Basic

/-!
# JSON text

Writes values without blanks.  Only the quote, the backslash and the control characters of a
string are escaped; everything else stands for itself.

## Main definitions

* `Json.quote` — a string between quotes.
* `Json.print` — the text of a value.
-/

namespace Lookout.Json

/-- The digit of a number below sixteen, in lower case. -/
def hexDigit (n : Nat) : Char := Nat.digitChar n

/-- A character inside a quoted string. -/
def escape (c : Char) : List Char :=
  match c with
  | '"' => ['\\', '"']
  | '\\' => ['\\', '\\']
  | '\n' => ['\\', 'n']
  | '\r' => ['\\', 'r']
  | '\t' => ['\\', 't']
  | c =>
    if c.toNat = 8 then ['\\', 'b']
    else if c.toNat = 12 then ['\\', 'f']
    else if c.toNat < 32 then
      ['\\', 'u', '0', '0', hexDigit (c.toNat / 16), hexDigit (c.toNat % 16)]
    else [c]

/-- A string between quotes. -/
def quote (s : String) : String := "\"" ++ String.ofList (s.toList.flatMap escape) ++ "\""

/-- The text of a number. -/
def Number.print : Number → String
  | .whole n => toString n
  | .float x => Layout.json.write x

/-- Joins texts with commas between them. -/
def commas (texts : List String) : String := ",".intercalate texts

mutual

/-- The text of a value. -/
def print : Json → String
  | .null => "null"
  | .bool b => if b then "true" else "false"
  | .number n => n.print
  | .string s => quote s
  | .array items => "[" ++ commas (printItems items) ++ "]"
  | .object members => "\x7b" ++ commas (printMembers members) ++ "\x7d"

/-- The texts of the values of an array. -/
def printItems : List Json → List String
  | [] => []
  | v :: rest => print v :: printItems rest

/-- The texts of the members of an object. -/
def printMembers : List (String × Json) → List String
  | [] => []
  | (name, v) :: rest => (quote name ++ ":" ++ print v) :: printMembers rest

end

end Lookout.Json

import Lookout.Decimal.Scaled

/-!
# Plain scalars

A scalar without quotes may be nothing, a whole number or a float, by its spelling.  Whole numbers
are decimal, hexadecimal, octal or binary; a decimal with a needless zero in front is no number.

## Main definitions

* `Yaml.isNull`, `Yaml.whole?`, `Yaml.float?`.
-/

namespace Lookout.Yaml

/-- The spellings of nothing. -/
def isNull (s : String) : Bool := ["null", "Null", "NULL", "~"].contains s

/-- The value of a digit, whatever the base. -/
def digit? (base : Nat) (c : Char) : Option Nat :=
  let value :=
    if c.isDigit then some (c.toNat - '0'.toNat)
    else if 'a' ≤ c ∧ c ≤ 'z' then some (c.toNat - 'a'.toNat + 10)
    else if 'A' ≤ c ∧ c ≤ 'Z' then some (c.toNat - 'A'.toNat + 10)
    else none
  value.filter (· < base)

/-- The number that digits stand for; there must be one at least. -/
def ofDigits? (base : Nat) (cs : List Char) : Option Nat :=
  if cs.isEmpty then none
  else cs.foldlM (fun n c => (digit? base c).map (n * base + ·)) 0

/-- Drops a plus sign. -/
def dropPlus : List Char → List Char
  | '+' :: rest => rest
  | cs => cs

/-- Whether digits start with a needless zero. -/
def hasLeadingZero : List Char → Bool
  | '0' :: rest => !rest.isEmpty && rest.all Char.isDigit
  | _ => false

/-- Drops a sign. -/
def dropSign : List Char → List Char
  | '+' :: rest | '-' :: rest => rest
  | cs => cs

/-- The natural number that a scalar spells, if it fits sixty-four bits. -/
def whole? (s : String) : Option Nat :=
  let cs := s.toList
  let value := match dropPlus cs with
    | '0' :: 'x' :: rest => ofDigits? 16 rest
    | '0' :: 'o' :: rest => ofDigits? 8 rest
    | '0' :: 'b' :: rest => ofDigits? 2 rest
    | digits => if hasLeadingZero (dropSign cs) then none else ofDigits? 10 digits
  value.filter (· < UInt64.size)

/-- The digits at the front, and what follows them. -/
def splitDigits (cs : List Char) : List Char × List Char :=
  (cs.takeWhile Char.isDigit, cs.dropWhile Char.isDigit)

/-- The exponent that ends a number. -/
def exponent? : List Char → Option Int
  | [] => some 0
  | c :: rest =>
    if c = 'e' ∨ c = 'E' then
      match rest with
      | '-' :: digits => (ofDigits? 10 digits).map fun n => -(n : Int)
      | digits => (ofDigits? 10 (dropPlus digits)).map fun n => (n : Int)
    else none

/-- The float nearest to `significand * 10 ^ exponent`, where `digits` is how many digits the
significand has; nothing if it is infinite. -/
def nearestFloat? (significand digits : Nat) (exponent : Int) : Option Float :=
  if significand = 0 || digits + exponent < -400 then some 0.0
  else if 400 < exponent then none
  else
    let x := Float.ofScientific significand (decide (exponent < 0)) exponent.natAbs
    if x.isFinite then some x else none

/-- The number that a decimal without sign spells. -/
def decimal? (cs : List Char) : Option Float := do
  let (whole, rest) := splitDigits cs
  let (fraction, rest) := match rest with
    | '.' :: rest => splitDigits rest
    | rest => ([], rest)
  let digits := whole ++ fraction
  let significand ← ofDigits? 10 digits
  let exponent ← exponent? rest
  nearestFloat? significand digits.length (exponent - fraction.length)

/-- The float that a scalar spells. -/
def float? (s : String) : Option Float :=
  if [".inf", ".Inf", ".INF", "+.inf", "+.Inf", "+.INF"].contains s then some (1.0 / 0.0)
  else if ["-.inf", "-.Inf", "-.INF"].contains s then some (-1.0 / 0.0)
  else if [".nan", ".NaN", ".NAN"].contains s then some (0.0 / 0.0)
  else
    match s.toList with
    | '+' :: rest => decimal? rest
    | '-' :: rest => (decimal? rest).map (- ·)
    | cs => decimal? cs

end Lookout.Yaml

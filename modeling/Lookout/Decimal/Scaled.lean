/-!
# Reading a decimal by scaling

A JSON number is read as the float of its digits, scaled by powers of ten in float arithmetic.
Each of the two operations rounds, so a long number may come out one unit beside the nearest
float; what is too large to be a float is no number at all.

## Main definitions

* `gather` — as many digits as fit sixty-four bits.
* `scaled` — a significand times a power of ten.
-/

namespace Lookout.Decimal

/-- The float nearest to `10 ^ power`. -/
def tenTo (power : Nat) : Float := Float.ofScientific 1 false power

/-- Multiplies a non-negative float by `10 ^ power`, in steps of at most `10 ^ 308`. -/
def scale (x : Float) (power : Int) : Option Float :=
  if 308 < power then
    if x == 0 then some x else none
  else if 0 ≤ power then
    let y := x * tenTo power.toNat
    if y == 1.0 / 0.0 then none else some y
  else if -308 ≤ power then
    some (x / tenTo (-power).toNat)
  else if x == 0 then
    some x
  else
    scale (x / tenTo 308) (power + 308)
termination_by (-power).toNat

/-- The float read for `significand * 10 ^ power`, if it is not too large. -/
def scaled (significand : Nat) (power : Int) : Option Float :=
  scale (UInt64.ofNat significand).toFloat power

/-- The value of a decimal digit. -/
def digitValue (c : Char) : Nat := c.toNat - '0'.toNat

/-- Appends digits to a significand as long as it stays below `2 ^ 64`, and gives back the digits
that no longer fit. -/
def gather (significand : Nat) : List Char → Nat × List Char
  | [] => (significand, [])
  | c :: rest =>
    let next := significand * 10 + digitValue c
    if next < UInt64.size then gather next rest else (significand, c :: rest)

end Lookout.Decimal

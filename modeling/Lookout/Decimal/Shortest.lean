import Lookout.Binary

/-!
# The fewest digits that read back

A float stands for every real number that rounds to it.  Its shortest decimal is the one with the
fewest digits among these numbers, and of two with equally few the one nearer to the float itself.
The search walks over the decimal grids, coarsest first, and tests the two neighbours of the value
on each, in exact arithmetic.

## Main definitions

* `Decimal` — digits and a power of ten.
* `Interval` — the reals that round to a float.
* `Interval.shortest` — the shortest decimal inside.
-/

namespace Lookout

/-- The number `digits * 10 ^ exponent`. -/
structure Decimal where
  digits : Nat
  exponent : Int
deriving Repr, DecidableEq

/-- Which of two equally near neighbours is taken. -/
inductive Tie where
  | toEven
  | upward
deriving Repr, DecidableEq

/-- The reals that round to a positive float, as multiples of `2 ^ exponent`: all between `low`
and `high`, and the ends too when `closed`. -/
structure Interval where
  low : Nat
  middle : Nat
  high : Nat
  exponent : Int
  closed : Bool
deriving Repr, DecidableEq

namespace Interval

/-- The reals that round to `significand * 2 ^ exponent`.  Below a power of two the next float is
only half as far away, except among the smallest numbers. -/
def around (f : Format) (significand : Nat) (exponent : Int) : Interval where
  low := 4 * significand -
    (if significand = Nat.pow 2 f.fraction ∧ f.minExponent < exponent then 1 else 2)
  middle := 4 * significand
  high := 4 * significand + 2
  exponent := exponent - 2
  closed := significand % 2 == 0

/-- The factor that turns decimals with this power of ten into whole numbers, in the scale in
which `binaryScale` turns the interval's ends into whole numbers. -/
def decimalScale (i : Interval) (power : Int) : Nat := 
  Nat.pow 10 power.toNat * Nat.pow 2 (-i.exponent).toNat

@[inherit_doc decimalScale]
def binaryScale (i : Interval) (power : Int) : Nat := 
  Nat.pow 10 (-power).toNat * Nat.pow 2 i.exponent.toNat

/-- Whether `digits * 10 ^ power` rounds to the float. -/
def contains (i : Interval) (digits : Nat) (power : Int) : Bool :=
  let point := digits * i.decimalScale power
  let low := i.low * i.binaryScale power
  let high := i.high * i.binaryScale power
  (low < point || i.closed && low == point) && (point < high || i.closed && point == high)

/-- The least power of ten above the float: the position of its leading digit. -/
def scale (i : Interval) : Int :=
  let guess := ((i.middle.log2 + i.exponent) * 30103).fdiv 100000 - 1
  let above (power : Int) : Bool := i.middle * i.binaryScale power < i.decimalScale power
  ((List.range 5).map fun (step : Nat) => guess + step).find? above |>.getD (guess + 5)

/-- The neighbour of the float on the grid of `10 ^ power` that reads back, the nearer of the two
if both do. -/
def onGrid (i : Interval) (tie : Tie) (power : Int) : Option Nat :=
  let value := i.middle * i.binaryScale power
  let unit := i.decimalScale power
  let down := value / unit
  match i.contains down power, i.contains (down + 1) power with
  | false, false => none
  | true, false => some down
  | false, true => some (down + 1)
  | true, true =>
    match compare (2 * value) ((2 * down + 1) * unit), tie with
    | .lt, _ => some down
    | .gt, _ => some (down + 1)
    | .eq, .toEven => some (down + down % 2)
    | .eq, .upward => some (down + 1)

/-- The same number with no zero at the end of its digits. -/
def strip : Nat → Nat → Int → Decimal
  | 0, digits, power => ⟨digits, power⟩
  | fuel + 1, digits, power =>
    if digits % 10 = 0 then strip fuel (digits / 10) (power + 1) else ⟨digits, power⟩

/-- The shortest decimal inside the interval.  Seventeen digits always suffice for a double; were
they not to, the exact value would be taken. -/
def shortest (i : Interval) (tie : Tie) : Decimal :=
  let scale := i.scale
  let grids := (List.range 17).map fun (n : Nat) => scale - (n + 1 : Nat)
  match grids.findSome? fun power => (i.onGrid tie power).map (·, power) with
  | some (digits, power) => strip 17 digits power
  | none =>
    ⟨i.middle * Nat.pow 2 i.exponent.toNat * Nat.pow 5 (-i.exponent).toNat, -(-i.exponent).toNat⟩

end Interval

end Lookout

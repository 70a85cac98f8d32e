import Lookout.Decimal.Shortest

/-!
# How a float is written

Which digits stand for a float is the matter of `Lookout.Decimal.Shortest`; where the point and
the exponent go is decided here, by one record per kind of output.

## Main definitions

* `Layout` — the decisions of one kind of output, and `Layout.json`, `Layout.jsonSingle`,
  `Layout.plain`.
* `Layout.write`, `Layout.writeSingle` — the text of a float.
-/

namespace Lookout

/-- The decisions of one kind of float text. -/
structure Layout where
  /-- the powers of ten of the leading digit that are written without an exponent; all of them
  when absent -/
  positional : Option (Int × Int)
  /-- whether whole numbers end in a point and a zero -/
  pointZero : Bool
  /-- which of two equally near decimals is taken -/
  tie : Tie
  undefined : String
  infinity : String
  minusInfinity : String
deriving Repr, DecidableEq

namespace Layout

/-- Numbers in JSON: an exponent below `1e-5` and from `1e16` on, with its sign, and a point in
every other number.  JSON has no text for what is not finite. -/
def json : Layout := ⟨some (-5, 16), true, .toEven, "null", "null", "null"⟩

/-- Single-precision numbers in JSON: the exponent starts at `1e13` and ends at `1e-6`. -/
def jsonSingle : Layout := { json with positional := some (-6, 13) }

/-- Numbers inside messages: never an exponent, and no point in whole numbers. -/
def plain : Layout := ⟨none, false, .upward, "NaN", "inf", "-inf"⟩

/-- A run of zeros. -/
def zeros (n : Nat) : String := String.ofList (List.replicate n '0')

/-- Digits with the point after the first `before` of them. -/
def insertPoint (layout : Layout) (digits : List Char) (before : Int) : String :=
  if before ≤ 0 then
    "0." ++ zeros (-before).toNat ++ String.ofList digits
  else if before < digits.length then
    String.ofList (digits.take before.toNat) ++ "." ++ String.ofList (digits.drop before.toNat)
  else
    String.ofList digits ++ zeros (before.toNat - digits.length) ++
      (if layout.pointZero then ".0" else "")

/-- One digit, the others after a point, and the power of ten of the first with its sign. -/
def scientific (digits : List Char) (leading : Int) : String :=
  let fraction := digits.drop 1
  String.ofList (digits.take 1) ++
    (if fraction.isEmpty then "" else "." ++ String.ofList fraction) ++
    "e" ++ (if leading < 0 then "-" else "+") ++ toString leading.natAbs

/-- Lays out a positive decimal. -/
def decimal (layout : Layout) (d : Decimal) : String :=
  let digits := Nat.toDigits 10 d.digits
  let leading : Int := d.exponent + (digits.length : Int) - 1
  match layout.positional with
  | none => layout.insertPoint digits (leading + 1)
  | some (first, last) =>
    if first ≤ leading && leading < last then layout.insertPoint digits (leading + 1)
    else scientific digits leading

/-- The text of a value of the given format. -/
def value (layout : Layout) (f : Format) : Value → String
  | .undefined => layout.undefined
  | .infinite negative => if negative then layout.minusInfinity else layout.infinity
  | .finite negative significand exponent =>
    (if negative then "-" else "") ++
      if significand = 0 then (if layout.pointZero then "0.0" else "0")
      else layout.decimal ((Interval.around f significand exponent).shortest layout.tie)

/-- The text of a double. -/
def write (layout : Layout) (x : Float) : String :=
  layout.value .double (Format.double.unpack x.toBits.toNat)

/-- The text of a single. -/
def writeSingle (layout : Layout) (x : Float32) : String :=
  layout.value .single (Format.single.unpack x.toBits.toNat)

end Layout

end Lookout

import Lookout.Decimal.Rounding

/-!
# Binary floating-point formats

A float is a sign, a significand and a power of two packed into bits.  This module unpacks the
bits into an exact value and rounds an exact quotient back to the nearest value of a format, so
that everything said about float text and about narrowing is arithmetic on natural numbers.

## Main definitions

* `Format`, with `Format.single` and `Format.double`.
* `Format.unpack` — the exact value of a bit pattern.
* `Format.nearest` — the bits of the magnitude nearest to a quotient.
* `narrow`, `narrowInt` — the single-precision float nearest to a double or to an integer.
-/

namespace Lookout

/-- How many bits of fraction and of exponent follow the sign bit. -/
structure Format where
  fraction : Nat
  exponent : Nat
deriving Repr, DecidableEq

/-- What a bit pattern stands for. -/
inductive Value where
  /-- `significand * 2 ^ exponent`, with its sign -/
  | finite (negative : Bool) (significand : Nat) (exponent : Int)
  | infinite (negative : Bool)
  | undefined
deriving Repr, DecidableEq

namespace Format

/-- The format of `Float32`. -/
def single : Format := ⟨23, 8⟩

/-- The format of `Float`. -/
def double : Format := ⟨52, 11⟩

/-- The power of two that the last bit of the smallest numbers stands for. -/
def minExponent (f : Format) : Int := 2 - Nat.pow 2 (f.exponent - 1) - f.fraction

/-- The bits of positive infinity; every larger magnitude is no number. -/
def infinity (f : Format) : Nat := (Nat.pow 2 f.exponent - 1) * Nat.pow 2 f.fraction

/-- The sign bit. -/
def signBit (f : Format) : Nat := Nat.pow 2 (f.fraction + f.exponent)

/-- The exact value of a bit pattern. -/
def unpack (f : Format) (bits : Nat) : Value :=
  let fraction := bits % Nat.pow 2 f.fraction
  let biased := bits / Nat.pow 2 f.fraction % Nat.pow 2 f.exponent
  let negative := bits / f.signBit % 2 == 1
  if biased = Nat.pow 2 f.exponent - 1 then
    if fraction = 0 then .infinite negative else .undefined
  else if biased = 0 then
    .finite negative fraction f.minExponent
  else
    .finite negative (Nat.pow 2 f.fraction + fraction) (f.minExponent + (biased - 1 : Nat))

/-- The exponent at which the quotient has as many bits as the format holds, unless the
format has none so small. -/
def exponentFor (f : Format) (num den : Nat) : Int :=
  let below : Int := (num.log2 : Int) - den.log2 - 1 - f.fraction
  let whole := num * Nat.pow 2 (-below).toNat / (den * Nat.pow 2 below.toNat)
  max f.minExponent (if whole < Nat.pow 2 (f.fraction + 1) then below else below + 1)

/-- The bits of the magnitude nearest to `num / den`; what is too large becomes infinity. -/
def nearest (f : Format) (num den : Nat) : Nat :=
  if num = 0 then 0 else
  let exponent := f.exponentFor num den
  let significand :=
    nearestEven (num * Nat.pow 2 (-exponent).toNat) (den * Nat.pow 2 exponent.toNat)
  let bits :=
    if significand < Nat.pow 2 f.fraction then significand
    else
      (exponent - f.minExponent + 1).toNat * Nat.pow 2 f.fraction +
        (significand - Nat.pow 2 f.fraction)
  min bits f.infinity

end Format

/-- The single-precision bits of a magnitude with its sign. -/
private def withSign (negative : Bool) (magnitude : Nat) : Float32 :=
  .ofBits (UInt32.ofNat (if negative then Format.single.signBit + magnitude else magnitude))

/-- The single-precision float nearest to `x`. -/
def narrow (x : Float) : Float32 :=
  match Format.double.unpack x.toBits.toNat with
  | .undefined => .ofBits 0x7fc00000
  | .infinite negative => withSign negative Format.single.infinity
  | .finite negative significand exponent =>
    withSign negative
      (Format.single.nearest (significand * Nat.pow 2 exponent.toNat) (Nat.pow 2 (-exponent).toNat))

/-- The single-precision float nearest to an integer. -/
def narrowInt (n : Int) : Float32 :=
  withSign (decide (n < 0)) (Format.single.nearest n.natAbs 1)

end Lookout

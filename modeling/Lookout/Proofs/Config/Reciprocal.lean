import Lookout.Config.Basic
import Mathlib

/-!
# The reciprocal of a float

A positive double-precision float is a significand of fifty-three bits, or of fewer if it is as
small as can be, and a power of two (`exists_isNumber`); such floats are compared by their exponents
first.  The quotient of one and such a float is the exact quotient with its significand rounded to
nearest, ties to even, and a carry moved to the exponent (`divCore_one`, `roundWithAccuracy_eq`).
What `nanoseconds?` makes of it is therefore arithmetic on natural numbers
(`nanoseconds?_reciprocal`).

## Main definitions

* `Double.Canonical`, `Double.IsNumber` — the numbers that floats stand for.
* `Double.reciprocalDividend`, `Double.reciprocalExponent` — the quotient before it is rounded.
* `Double.scaledNanoseconds?` — the nanoseconds in a number of seconds.
-/

namespace Lookout

/-! ## Rounding a quotient -/

theorem le_two_mul_nearestEven (num : Nat) {den : Nat} (h : 0 < den) :
    2 * num ≤ 2 * (nearestEven num den * den) + den := by
  have hdiv := Nat.div_add_mod num den
  have hcomm : num / den * den = den * (num / den) := Nat.mul_comm ..
  unfold nearestEven
  dsimp only
  split
  · next hc =>
    rw [Nat.compare_eq_lt] at hc
    rw [hcomm]
    omega
  · have hmod := Nat.mod_lt num h
    rw [Nat.add_mul, hcomm]
    omega
  · next hc =>
    rw [Nat.compare_eq_eq] at hc
    rw [Nat.add_mul, hcomm]
    omega

theorem nearestEven_eq_zero_iff {num den : Nat} (h : 0 < den) :
    nearestEven num den = 0 ↔ 2 * num ≤ den := by
  have lower := le_two_mul_nearestEven num h
  constructor
  · intro zero
    rw [zero] at lower
    omega
  · intro small
    rw [nearestEven, Nat.div_eq_of_lt (by omega), Nat.mod_eq_of_lt (by omega)]
    split
    · rfl
    · next hc =>
      rw [Nat.compare_eq_gt] at hc
      omega
    · rfl

theorem nearestEven_mul_right (num den : Nat) {c : Nat} (h : 0 < c) :
    nearestEven (num * c) (den * c) = nearestEven num den := by
  have same : compare (2 * (num % den * c)) (den * c) = compare (2 * (num % den)) den := by
    rw [← Nat.mul_assoc]
    rcases Nat.lt_trichotomy (2 * (num % den)) den with less | equal | more
    · rw [Nat.compare_eq_lt.2 less, Nat.compare_eq_lt]
      exact Nat.mul_lt_mul_of_pos_right less h
    · rw [Nat.compare_eq_eq.2 equal, Nat.compare_eq_eq, equal]
    · rw [Nat.compare_eq_gt.2 more, Nat.compare_eq_gt]
      exact Nat.mul_lt_mul_of_pos_right more h
  rw [nearestEven, nearestEven, Nat.mul_div_mul_right _ _ h, Nat.mul_mod_mul_right, same]

theorem nearestEven_bounds (num den : Nat) :
    num / den ≤ nearestEven num den ∧ nearestEven num den ≤ num / den + 1 := by
  rw [nearestEven]
  split <;> omega

namespace Double

open Float.Model.UnpackedFloat

/-! ## Rounding in binary -/

theorem roundToNearestEven_accuracyOfFraction (num : Nat) {den : Nat} (h : 0 < den) :
    (accuracyOfFraction (num % den) den).roundToNearestEven (num / den) = nearestEven num den := by
  rw [accuracyOfFraction, nearestEven]
  split
  · next zero =>
    rw [zero, Nat.mul_zero, Nat.compare_eq_lt.2 h]
    rfl
  · cases compare (2 * (num % den)) den <;> rfl

theorem roundedMantissa_ofMantissaAndAccuracy (mantissa : Nat) (accuracy : Accuracy) :
    (ExtendedMantissa.ofMantissaAndAccuracy mantissa accuracy).roundedMantissa =
      accuracy.roundToNearestEven mantissa := by
  rcases accuracy with _ | (_ | _ | _) <;> rfl

/-- What has at most fifty-three bits and no smaller exponent than the least one stays. -/
theorem shiftToTargetExponent_of_lt {mantissa : Nat} {exponent : Int} (small : mantissa < 2 ^ 53)
    (least : -1074 ≤ exponent) (accuracy : Accuracy) :
    shiftToTargetExponent .binary64 mantissa exponent accuracy =
      (.ofMantissaAndAccuracy mantissa accuracy, exponent) := by
  have bits : mantissa.log2 ≤ 52 := by
    by_cases zero : mantissa = 0
    · simp [zero]
    · have := (Nat.log2_lt zero).2 small
      omega
  have still : (Float.Model.Format.binary64.targetExponent
      (Float.Model.totalExponent mantissa exponent) - exponent).toNat = 0 := by
    simp only [Float.Model.Format.targetExponent, Float.Model.totalExponent,
      Float.Model.Format.mantissaBits, Float.Model.Format.minExponent]
    omega
  rw [shiftToTargetExponent, shiftToExponent, still]
  simp [HShiftRight.hShiftRight, Nat.repeat]

/-- One bit too many is shifted out. -/
theorem shiftToTargetExponent_two_pow {exponent : Int} (least : -1074 ≤ exponent) :
    shiftToTargetExponent .binary64 (2 ^ 53) exponent .exact =
      (⟨2 ^ 52, false, false⟩, exponent + 1) := by
  have once : (Float.Model.Format.binary64.targetExponent
      (Float.Model.totalExponent (2 ^ 53) exponent) - exponent).toNat = 1 := by
    simp only [Float.Model.Format.targetExponent, Float.Model.totalExponent, Nat.log2_two_pow,
      Float.Model.Format.mantissaBits, Float.Model.Format.minExponent]
    omega
  rw [shiftToTargetExponent, shiftToExponent, once]
  rfl

/-- A significand and an exponent as a float keeps them: with fifty-three bits, or with the least
exponent. -/
structure Canonical (significand : Nat) (exponent : Int) : Prop where
  pos : 0 < significand
  lt : significand < 2 ^ 53
  least : -1074 ≤ exponent
  full : 2 ^ 52 ≤ significand ∨ exponent = -1074

/-- Rounding a quotient gives the nearest significand, or half of it where that has one bit too
many. -/
theorem roundWithAccuracy_eq {num den : Nat} {exponent : Int} (positive : 0 < den)
    (nonzero : 0 < num / den) (most : num ≤ 2 ^ 53 * den) (least : -1074 ≤ exponent)
    (full : 2 ^ 52 ≤ num / den ∨ exponent = -1074) :
    ∃ (significand : Nat) (exponent' : Int) (canonical : Canonical significand exponent'),
      roundWithAccuracy .binary64 .positive (num / den) exponent
          (accuracyOfFraction (num % den) den) =
        .finite .positive significand exponent' canonical.pos ∧
      (nearestEven num den = significand ∧ exponent' = exponent ∨
        nearestEven num den = 2 ^ 53 ∧ significand = 2 ^ 52 ∧ exponent' = exponent + 1) := by
  have quotient : num / den ≤ 2 ^ 53 := Nat.div_le_of_le_mul (by rwa [Nat.mul_comm])
  have carried : Canonical (2 ^ 52) (exponent + 1) := ⟨by decide, by decide, by omega, .inl le_rfl⟩
  rw [roundWithAccuracy]
  by_cases whole : num / den = 2 ^ 53
  · have product : num = 2 ^ 53 * den :=
      Nat.le_antisymm most (whole ▸ Nat.div_mul_le_self num den)
    refine ⟨_, _, carried, ?_, .inr ⟨?_, rfl, rfl⟩⟩
    · rw [whole, product, Nat.mul_mod_left, accuracyOfFraction, if_pos rfl,
        shiftToTargetExponent_two_pow least]
      dsimp only
      rw [show ExtendedMantissa.roundedMantissa ⟨2 ^ 52, false, false⟩ = 2 ^ 52 from rfl,
        shiftToTargetExponent_of_lt carried.lt carried.least]
      rfl
    · rw [product, nearestEven_mul_self _ _ positive]
  · have bounds := nearestEven_bounds num den
    rw [shiftToTargetExponent_of_lt (by omega) least]
    dsimp only
    rw [roundedMantissa_ofMantissaAndAccuracy, roundToNearestEven_accuracyOfFraction num positive]
    by_cases more : nearestEven num den = 2 ^ 53
    · refine ⟨_, _, carried, ?_, .inr ⟨more, rfl, rfl⟩⟩
      rw [more, shiftToTargetExponent_two_pow least]
      rfl
    · have canonical : Canonical (nearestEven num den) exponent :=
        ⟨by omega, by omega, least, full.imp_left fun enough => enough.trans bounds.1⟩
      refine ⟨_, _, canonical, ?_, .inl ⟨rfl, rfl⟩⟩
      rw [shiftToTargetExponent_of_lt canonical.lt least]
      exact dif_neg canonical.pos.ne'

/-! ## The bits of a float -/

theorem toNat_packComponents (biased : BitVec 11) (fraction : BitVec 52) :
    (packComponents .binary64 .positive biased fraction).toNat =
      biased.toNat * 2 ^ 52 + fraction.toNat := by
  have zero : Sign.positive.toBitVec = 0#1 := rfl
  rw [packComponents, zero, BitVec.toNat_append, BitVec.toNat_append,
    ← Nat.shiftLeft_add_eq_or_of_lt fraction.isLt, Nat.shiftLeft_eq]
  simp

theorem unpack_double_eq {biased fraction : Nat} (finite : biased < 2047)
    (short : fraction < 2 ^ 52) :
    Format.double.unpack (biased * 2 ^ 52 + fraction) =
      if biased = 0 then .finite false fraction (-1074)
      else .finite false (2 ^ 52 + fraction) (-1074 + (biased - 1 : Nat)) := by
  have low : (biased * 2 ^ 52 + fraction) % Nat.pow 2 Format.double.fraction = fraction := by
    change (biased * 2 ^ 52 + fraction) % 2 ^ 52 = fraction
    omega
  have high : (biased * 2 ^ 52 + fraction) / Nat.pow 2 Format.double.fraction %
      Nat.pow 2 Format.double.exponent = biased := by
    change (biased * 2 ^ 52 + fraction) / 2 ^ 52 % 2 ^ 11 = biased
    omega
  have sign : (biased * 2 ^ 52 + fraction) / Format.double.signBit % 2 = 0 := by
    change (biased * 2 ^ 52 + fraction) / 2 ^ 63 % 2 = 0
    omega
  have ordinary : biased ≠ Nat.pow 2 Format.double.exponent - 1 := Nat.ne_of_lt finite
  rw [Format.unpack, low, high, sign, if_neg ordinary]
  rfl

theorem unpack_pack {significand : Nat} {exponent : Int}
    (canonical : Canonical significand exponent) :
    Format.double.unpack
        (pack .binary64 (.finite .positive significand exponent canonical.pos)).toNat =
      if 972 ≤ exponent then .infinite false else .finite false significand exponent := by
  obtain ⟨positive, lt, least, full⟩ := canonical
  have biased : (exponent + (Float.Model.Format.binary64.exponentBias : Nat) + (52 : Nat)).toNat =
      (exponent + 1075).toNat := by
    congr 1
    change exponent + 1023 + 52 = exponent + 1075
    omega
  rw [pack]
  dsimp only
  rw [biased]
  by_cases large : 972 ≤ exponent
  · rw [if_pos large, if_pos (by omega)]
    rfl
  rw [if_neg large, if_neg (by omega)]
  by_cases normal : 2 ^ 52 ≤ significand
  · have bits : significand.log2 = 52 := (Nat.log2_eq_iff positive.ne').2 ⟨normal, lt⟩
    rw [if_pos (by rw [bits]; rfl), toNat_packComponents, BitVec.toNat_ofNat, BitVec.toNat_ofNat,
      Nat.mod_eq_of_lt (by omega), unpack_double_eq (by omega) (by omega), if_neg (by omega)]
    congr 1 <;> omega
  · have least : exponent = -1074 := full.resolve_left normal
    have bits : significand.log2 < 52 := (Nat.log2_lt positive.ne').2 (by omega)
    have fraction : (BitVec.ofNat 52 significand).toNat = significand := by
      rw [BitVec.toNat_ofNat, Nat.mod_eq_of_lt (by omega)]
    rw [if_neg (by change ¬ significand.log2 + 1 = 53; omega), toNat_packComponents, fraction]
    rw [unpack_double_eq (by decide) (by omega), least]
    rfl

/-! ## Positive floats -/

/-- The float is the positive number `significand * 2 ^ exponent`. -/
structure IsNumber (x : Float) (significand : Nat) (exponent : Int) : Prop where
  canonical : Canonical significand exponent
  most : exponent ≤ 971
  unpack_eq : x.toModel.unpack = .finite .positive significand exponent canonical.pos

theorem canonical_of_unpack {bits : BitVec 64} {sign : Sign} {significand : Nat} {exponent : Int}
    {pos : 0 < significand}
    (unpacked : unpack .binary64 bits = .finite sign significand exponent pos) :
    Canonical significand exponent ∧ exponent ≤ 971 := by
  have short : (@unpackMantissa .binary64 bits).toNat < 2 ^ 52 := BitVec.isLt _
  have biased : (@unpackExponent .binary64 bits).toNat < 2 ^ 11 := BitVec.isLt _
  rw [unpack] at unpacked
  split at unpacked
  · split at unpacked <;> cases unpacked
  · next finite =>
    have finite : (@unpackExponent .binary64 bits).toNat ≠ 2047 :=
      fun same => finite (BitVec.eq_of_toNat_eq same)
    split at unpacked
    · next zero =>
      split at unpacked
      · cases unpacked
      · cases unpacked
        rw [zero]
        exact ⟨⟨pos, by omega, by decide, .inr rfl⟩, by decide⟩
    · next normal =>
      have normal : (@unpackExponent .binary64 bits).toNat ≠ 0 :=
        fun same => normal (BitVec.eq_of_toNat_eq same)
      cases unpacked
      have implicit : (1#1 ++ @unpackMantissa .binary64 bits).toNat =
          2 ^ 52 + (@unpackMantissa .binary64 bits).toNat := by
        rw [BitVec.toNat_append, ← Nat.shiftLeft_add_eq_or_of_lt short]
        rfl
      have bias : (Float.Model.Format.binary64.exponentBias : Int) +
          Float.Model.Format.binary64.mantissaBitsWithoutImplicit = 1075 := rfl
      rw [bias]
      exact ⟨⟨pos, by omega, by omega, .inl (by omega)⟩, by omega⟩

theorem lt_iff_unpack (x y : Float) : x < y ↔ x.toModel.unpack.lt y.toModel.unpack = true :=
  decide_eq_true_iff

theorem le_iff_unpack (x y : Float) : x ≤ y ↔ x.toModel.unpack.le y.toModel.unpack = true :=
  decide_eq_true_iff

theorem exists_isNumber {x : Float} (positive : isPositive x = true) :
    ∃ significand exponent, IsNumber x significand exponent := by
  obtain ⟨finite, above⟩ := Bool.and_eq_true_iff.1 positive
  have above := (lt_iff_unpack 0 x).1 (of_decide_eq_true above)
  have zero : (0 : Float).toModel.unpack = .zero .positive := rfl
  have finite : x.toModel.unpack.isFinite = true := finite
  rw [zero] at above
  cases unpacked : x.toModel.unpack with
  | infinity sign =>
    rw [unpacked] at finite
    cases finite
  | notANumber =>
    rw [unpacked] at finite
    cases finite
  | zero sign =>
    rw [unpacked] at above
    cases above
  | finite sign significand exponent pos =>
    cases sign with
    | negative =>
      rw [unpacked] at above
      cases above
    | positive =>
      obtain ⟨canonical, most⟩ := canonical_of_unpack unpacked
      exact ⟨significand, exponent, canonical, most, unpacked⟩

variable {x y : Float} {m n : Nat} {e f : Int}

/-- Numbers are compared by their exponents first. -/
theorem IsNumber.lt_iff (hx : IsNumber x m e) (hy : IsNumber y n f) :
    x < y ↔ e < f ∨ e = f ∧ m < n := by
  rw [lt_iff_unpack, hx.unpack_eq, hy.unpack_eq, Float.Model.UnpackedFloat.lt, beq_iff_eq,
    Float.Model.UnpackedFloat.compare, Option.some_inj, Ordering.then_eq_lt, Int.compare_eq_lt,
    Int.compare_eq_eq, Nat.compare_eq_lt]

theorem IsNumber.le_iff (hx : IsNumber x m e) (hy : IsNumber y n f) :
    x ≤ y ↔ e < f ∨ e = f ∧ m ≤ n := by
  rw [le_iff_unpack, hx.unpack_eq, hy.unpack_eq, Float.Model.UnpackedFloat.le,
    Float.Model.UnpackedFloat.compare, Option.any_some, Ordering.isLE_then_iff_or,
    Int.compare_eq_lt, Int.compare_eq_eq, Nat.isLE_compare]

theorem IsNumber.le_iff_not_lt (hx : IsNumber x m e) (hy : IsNumber y n f) :
    x ≤ y ↔ ¬ y < x := by
  rw [hx.le_iff hy, hy.lt_iff hx]
  omega

theorem IsNumber.lt_iff_not_le (hx : IsNumber x m e) (hy : IsNumber y n f) :
    x < y ↔ ¬ y ≤ x := by
  rw [hx.lt_iff hy, hy.le_iff hx]
  omega

/-! ## The reciprocal -/

/-- The exponent of a reciprocal before it is rounded. -/
def reciprocalExponent (m : Nat) (e : Int) : Int := max (-(m.log2 + e) - 53) (-1074)

/-- The dividend that, divided by the significand, gives the significand of the reciprocal. -/
def reciprocalDividend (m : Nat) (e : Int) : Nat :=
  2 ^ (52 + (-52 - e - reciprocalExponent m e).toNat)

theorem divCore_one (most : e ≤ 971) :
    divCore .binary64 (2 ^ 52) (-52) m e =
      (reciprocalDividend m e / m, reciprocalExponent m e,
        accuracyOfFraction (reciprocalDividend m e % m) m) := by
  have target : min (-52 - e) (Float.Model.Format.binary64.targetExponent
      (Float.Model.totalExponent (2 ^ 52) (-52) - Float.Model.totalExponent m e)) =
      reciprocalExponent m e := by
    simp only [Float.Model.Format.targetExponent, Float.Model.totalExponent, Nat.log2_two_pow,
      Float.Model.Format.mantissaBits, Float.Model.Format.minExponent, reciprocalExponent]
    omega
  rw [divCore, target]
  simp only [Nat.shiftLeft_eq, ← Nat.pow_add]
  rfl

theorem reciprocalDividend_bounds (canonical : Canonical m e) (most : e ≤ 971) :
    reciprocalDividend m e ≤ 2 ^ 53 * m ∧ 0 < reciprocalDividend m e / m ∧
      (2 ^ 52 ≤ reciprocalDividend m e / m ∨ reciprocalExponent m e = -1074) := by
  obtain ⟨positive, lt, least, full⟩ := canonical
  have low : 2 ^ m.log2 ≤ m := Nat.log2_self_le positive.ne'
  have high : m < 2 ^ (m.log2 + 1) := Nat.lt_log2_self
  have bits : m.log2 < 53 := (Nat.log2_lt positive.ne').2 lt
  rw [reciprocalDividend]
  by_cases normal : m.log2 + e ≤ 1021
  · have exponent : reciprocalExponent m e = -(m.log2 + e) - 53 := max_eq_left (by omega)
    have shift : (-52 - e - reciprocalExponent m e).toNat = m.log2 + 1 := by omega
    rw [shift]
    have enough : 2 ^ 52 ≤ 2 ^ (52 + (m.log2 + 1)) / m := by
      rw [Nat.le_div_iff_mul_le positive, Nat.pow_add]
      exact Nat.mul_le_mul_left _ high.le
    refine ⟨?_, (by decide : 0 < 2 ^ 52).trans_le enough, .inl enough⟩
    calc 2 ^ (52 + (m.log2 + 1)) = 2 ^ 53 * 2 ^ m.log2 := by rw [← Nat.pow_add]; congr 1; omega
      _ ≤ 2 ^ 53 * m := Nat.mul_le_mul_left _ low
  · have exponent : reciprocalExponent m e = -1074 := max_eq_right (by omega)
    have large : 2 ^ 52 ≤ m := full.resolve_right (by omega)
    refine ⟨?_, Nat.div_pos ?_ positive, .inr exponent⟩
    · calc 2 ^ (52 + (-52 - e - reciprocalExponent m e).toNat) ≤ 2 ^ 105 :=
            Nat.pow_le_pow_right (by decide) (by omega)
        _ = 2 ^ 53 * 2 ^ 52 := by rw [← Nat.pow_add]
        _ ≤ 2 ^ 53 * m := Nat.mul_le_mul_left _ large
    · calc m ≤ 2 ^ 53 := lt.le
        _ ≤ 2 ^ (52 + (-52 - e - reciprocalExponent m e).toNat) :=
          Nat.pow_le_pow_right (by decide) (by omega)

theorem nearestEven_reciprocalDividend (canonical : Canonical m e) (most : e ≤ 971) :
    nearestEven (reciprocalDividend m e) m ≤ 2 ^ 53 ∧
      (2 ^ 52 ≤ nearestEven (reciprocalDividend m e) m ∨ reciprocalExponent m e = -1074) := by
  obtain ⟨upper, -, full⟩ := reciprocalDividend_bounds canonical most
  refine ⟨?_, full.imp_left fun enough => enough.trans (nearestEven_bounds _ _).1⟩
  have rounded := two_mul_nearestEven_le (reciprocalDividend m e) m canonical.pos
  by_contra more
  have : (2 ^ 53 + 1) * m ≤ nearestEven (reciprocalDividend m e) m * m :=
    Nat.mul_le_mul_right m (by omega)
  have := canonical.pos
  omega

theorem le_reciprocalExponent (canonical : Canonical m e) : -e - 105 ≤ reciprocalExponent m e := by
  have bits : m.log2 < 53 := (Nat.log2_lt canonical.pos.ne').2 canonical.lt
  rw [reciprocalExponent]
  omega

theorem reciprocalExponent_eq (canonical : Canonical m e) (normal : e ≠ -1074) :
    reciprocalExponent m e = max (-e - 105) (-1074) := by
  have bits : m.log2 = 52 :=
    (Nat.log2_eq_iff canonical.pos.ne').2 ⟨canonical.full.resolve_right normal, canonical.lt⟩
  rw [reciprocalExponent, bits]
  omega

/-- The whole nanoseconds in `significand * 2 ^ exponent` seconds. -/
def scaledNanoseconds? (significand : Nat) (exponent : Int) : Option Nanoseconds :=
  let num := significand * 2 ^ exponent.toNat
  let den := 2 ^ (-exponent).toNat
  if den * UInt64.size ≤ num then none else some (nearestEven (num * nanosPerSecond) den)

theorem scaledNanoseconds?_two_pow (exponent : Int) :
    scaledNanoseconds? (2 ^ 52) (exponent + 1) = scaledNanoseconds? (2 ^ 53) exponent := by
  simp only [scaledNanoseconds?]
  by_cases nonneg : 0 ≤ exponent
  · have num : 2 ^ 52 * 2 ^ (exponent + 1).toNat = 2 ^ 53 * 2 ^ exponent.toNat := by
      rw [← Nat.pow_add, ← Nat.pow_add]
      congr 1
      omega
    have den : (-(exponent + 1)).toNat = (-exponent).toNat := by omega
    rw [num, den]
  · have num : 2 ^ 53 * 2 ^ exponent.toNat = 2 ^ 52 * 2 ^ (exponent + 1).toNat * 2 := by
      rw [show exponent.toNat = 0 by omega, show (exponent + 1).toNat = 0 by omega]
      norm_num
    have den : 2 ^ (-exponent).toNat = 2 ^ (-(exponent + 1)).toNat * 2 := by
      rw [← Nat.pow_succ]
      congr 1
      omega
    rw [num, den, Nat.mul_right_comm _ 2 UInt64.size, Nat.mul_right_comm _ 2 nanosPerSecond,
      nearestEven_mul_right _ _ (by decide)]
    simp only [Nat.mul_le_mul_right_iff (by decide : 0 < 2)]

theorem nanoseconds?_pack {significand : Nat} {exponent : Int}
    (canonical : Canonical significand exponent) :
    nanoseconds? (.ofModel (.pack (.finite .positive significand exponent canonical.pos))) =
      scaledNanoseconds? significand exponent := by
  have bits : (Float.ofModel (.pack (.finite .positive significand exponent
      canonical.pos))).toBits.toNat =
      (pack .binary64 (.finite .positive significand exponent canonical.pos)).toNat := rfl
  rw [nanoseconds?, bits, unpack_pack canonical]
  by_cases large : 972 ≤ exponent
  · have enough : 2 ^ 52 ≤ significand := canonical.full.resolve_right (by omega)
    have undefined : 2 ^ (-exponent).toNat * UInt64.size ≤ significand * 2 ^ exponent.toNat := by
      calc 2 ^ (-exponent).toNat * UInt64.size = UInt64.size := by
            rw [show (-exponent).toNat = 0 by omega, Nat.pow_zero, Nat.one_mul]
        _ ≤ 2 ^ 52 * 2 ^ 12 := by norm_num [UInt64.size]
        _ ≤ significand * 2 ^ exponent.toNat :=
          Nat.mul_le_mul enough (Nat.pow_le_pow_right (by decide) (by omega))
    rw [if_pos large, scaledNanoseconds?, if_pos undefined]
  · rw [if_neg large]
    simp only [Bool.false_and, Bool.false_eq_true, if_false]
    rfl

/-- The period of a rate: its significand is the nearest one to the exact quotient. -/
theorem nanoseconds?_reciprocal (hx : IsNumber x m e) :
    nanoseconds? (1.0 / x) =
      scaledNanoseconds? (nearestEven (reciprocalDividend m e) m) (reciprocalExponent m e) := by
  have one : (1.0 : Float).toModel.unpack = .finite .positive (2 ^ 52) (-52) (by decide) := rfl
  have quotient : 1.0 / x =
      .ofModel (.pack (div .binary64 (1.0 : Float).toModel.unpack x.toModel.unpack)) := rfl
  obtain ⟨most, nonzero, full⟩ := reciprocalDividend_bounds hx.canonical hx.most
  have least : -1074 ≤ reciprocalExponent m e := le_max_right _ _
  obtain ⟨significand, exponent, canonical, rounded, value⟩ := roundWithAccuracy_eq
    hx.canonical.pos nonzero most least full
  rw [quotient, one, hx.unpack_eq, div, divCore_one hx.most]
  dsimp only
  rw [show Sign.positive / Sign.positive = Sign.positive from rfl, rounded,
    nanoseconds?_pack canonical]
  rcases value with ⟨nearest, rfl⟩ | ⟨nearest, rfl, rfl⟩
  · rw [nearest]
  · rw [nearest, scaledNanoseconds?_two_pow]

end Double
end Lookout

import Lookout.Proofs.Config.Reciprocal
import Lookout.Proofs.Config.Validity
import Lookout.Proofs.System.Stride

/-!
# Which rates give frame loops a period

The period of a frame loop is the reciprocal of the frame rate in whole nanoseconds.  A
configuration is accepted with any rate that is a positive number, and all its other periods are
positive; but a rate of `2 ^ -64` frames in a second or less has no period, and one of more than two
thousand million frames in a second has the period zero (`pace_law`).

## Main definitions

* `Alignment.slowestRate`, `Alignment.fastestRate` — where the periods end.
-/

namespace Lookout

open Double

namespace Alignment

/-- The greatest rate that is too slow for a period. -/
def slowestRate : Float := 1.0 / 18446744073709551616.0

/-- The greatest rate whose period is not zero. -/
def fastestRate : Float := 2000000000.0

theorem isNumber_slowestRate : IsNumber slowestRate (2 ^ 52) (-116) where
  canonical := ⟨by decide, by decide, by decide, .inl le_rfl⟩
  most := by decide
  unpack_eq := rfl

theorem isNumber_fastestRate : IsNumber fastestRate 8388608000000000 (-22) where
  canonical := ⟨by decide, by decide, by decide, .inl (by decide)⟩
  most := by decide
  unpack_eq := rfl

variable {a : Alignment} {m : Nat} {e : Int}

theorem scaledNanoseconds?_eq_none_iff {significand : Nat} {exponent : Int} :
    scaledNanoseconds? significand exponent = none ↔
      2 ^ (-exponent).toNat * UInt64.size ≤ significand * 2 ^ exponent.toNat := by
  simp [scaledNanoseconds?]

theorem scaledNanoseconds?_eq_zero_iff {significand : Nat} {exponent : Int} :
    scaledNanoseconds? significand exponent = some 0 ↔
      scaledNanoseconds? significand exponent ≠ none ∧
        2 * (significand * 2 ^ exponent.toNat * nanosPerSecond) ≤ 2 ^ (-exponent).toNat := by
  have positive : 0 < 2 ^ (-exponent).toNat := Nat.pow_pos (by decide)
  rw [← nearestEven_eq_zero_iff positive, scaledNanoseconds?]
  split <;> simp

/-- There is no period up to a rate of `2 ^ -64`. -/
theorem frameInterval?_eq_none_iff (rate : IsNumber a.frameRate m e) :
    a.frameInterval? = none ↔ a.frameRate ≤ slowestRate := by
  rw [frameInterval?, nanoseconds?_reciprocal rate, scaledNanoseconds?_eq_none_iff,
    rate.le_iff isNumber_slowestRate]
  obtain ⟨most, full⟩ := nearestEven_reciprocalDividend rate.canonical rate.most
  have size : UInt64.size = 2 ^ 64 := rfl
  rcases lt_trichotomy e (-116) with slower | rfl | faster
  · have least := le_reciprocalExponent rate.canonical
    have enough := full.resolve_right (by omega)
    refine iff_of_true ?_ (.inl slower)
    calc 2 ^ (-reciprocalExponent m e).toNat * UInt64.size = 2 ^ 52 * 2 ^ 12 := by
          rw [show (-reciprocalExponent m e).toNat = 0 by omega, size]
          norm_num
      _ ≤ _ := Nat.mul_le_mul enough (Nat.pow_le_pow_right (by decide) (by omega))
  · have exponent : reciprocalExponent m (-116) = 11 :=
      reciprocalExponent_eq rate.canonical (by decide)
    have dividend : reciprocalDividend m (-116) = 2 ^ 53 * 2 ^ 52 := by
      rw [reciprocalDividend, exponent, ← Nat.pow_add]
      rfl
    have normal := rate.canonical.full.resolve_right (by decide)
    rw [exponent, dividend, size, show (-(11 : Int)).toNat = 0 from rfl, Nat.pow_zero, Nat.one_mul,
      show (11 : Int).toNat = 11 from rfl]
    constructor
    · intro undefined
      have rounded := two_mul_nearestEven_le (2 ^ 53 * 2 ^ 52) m rate.canonical.pos
      have whole : 2 ^ 53 * m ≤ nearestEven (2 ^ 53 * 2 ^ 52) m * m :=
        Nat.mul_le_mul_right m (by omega)
      exact .inr ⟨rfl, by omega⟩
    · rintro (slower | ⟨-, small⟩)
      · exact absurd slower (lt_irrefl _)
      · rw [Nat.le_antisymm small normal, nearestEven_mul_self _ _ (by norm_num)]
        norm_num
  · have exponent := reciprocalExponent_eq rate.canonical (by omega)
    refine iff_of_false ?_ (by omega)
    rw [not_le]
    calc _ ≤ 2 ^ 53 * 2 ^ 10 :=
          Nat.mul_le_mul most (Nat.pow_le_pow_right (by decide) (by omega))
      _ < UInt64.size := by rw [size]; norm_num
      _ ≤ 2 ^ (-reciprocalExponent m e).toNat * UInt64.size :=
        Nat.le_mul_of_pos_left _ (Nat.pow_pos (by decide))

/-- The period is zero from a rate of two thousand million on. -/
theorem frameInterval?_eq_zero_iff (rate : IsNumber a.frameRate m e) :
    a.frameInterval? = some 0 ↔ fastestRate < a.frameRate := by
  have defined := frameInterval?_eq_none_iff rate
  rw [rate.le_iff isNumber_slowestRate] at defined
  rw [frameInterval?, nanoseconds?_reciprocal rate] at defined ⊢
  rw [scaledNanoseconds?_eq_zero_iff, ne_eq, defined, isNumber_fastestRate.lt_iff rate]
  obtain ⟨most, full⟩ := nearestEven_reciprocalDividend rate.canonical rate.most
  have second : nanosPerSecond = 1000000000 := rfl
  rcases lt_trichotomy e (-22) with slower | rfl | faster
  · have least := le_reciprocalExponent rate.canonical
    have enough := full.resolve_right (by omega)
    refine iff_of_false ?_ (by omega)
    rw [not_and, not_le]
    intro _
    calc 2 ^ (-reciprocalExponent m e).toNat ≤ 2 ^ 82 :=
          Nat.pow_le_pow_right (by decide) (by omega)
      _ < 2 * (2 ^ 52 * nanosPerSecond) := by rw [second]; norm_num
      _ ≤ _ := Nat.mul_le_mul_left 2 (Nat.mul_le_mul_right _
        (enough.trans (Nat.le_mul_of_pos_right _ (Nat.pow_pos (by decide)))))
  · have exponent : reciprocalExponent m (-22) = -83 :=
      reciprocalExponent_eq rate.canonical (by decide)
    have dividend : reciprocalDividend m (-22) = 2 ^ 105 := by
      rw [reciprocalDividend, exponent]
      rfl
    have rounded := two_mul_nearestEven_le (2 ^ 105) m rate.canonical.pos
    have rounded' := le_two_mul_nearestEven (2 ^ 105) rate.canonical.pos
    rw [exponent, dividend, second, show (-83 : Int).toNat = 0 from rfl,
      show (-(-83 : Int)).toNat = 83 from rfl, Nat.pow_zero, Nat.mul_one]
    generalize nearestEven (2 ^ 105) m = significand at *
    constructor
    · rintro ⟨-, zero⟩
      have small : significand * m ≤ 4835703278458516 * m := Nat.mul_le_mul_right m (by omega)
      exact .inr ⟨rfl, by omega⟩
    · rintro (slower | ⟨-, large⟩)
      · exact absurd slower (lt_irrefl _)
      · refine ⟨by omega, ?_⟩
        by_contra positive
        have big : 4835703278458517 * m ≤ significand * m := Nat.mul_le_mul_right m (by omega)
        omega
  · have exponent := reciprocalExponent_eq rate.canonical (by omega)
    refine iff_of_true ⟨by omega, ?_⟩ (.inl faster)
    rw [show (reciprocalExponent m e).toNat = 0 by omega, Nat.pow_zero, Nat.mul_one]
    calc 2 * (nearestEven (reciprocalDividend m e) m * nanosPerSecond)
        ≤ 2 * (2 ^ 53 * nanosPerSecond) := Nat.mul_le_mul_left 2 (Nat.mul_le_mul_right _ most)
      _ ≤ 2 ^ 84 := by rw [second]; norm_num
      _ ≤ 2 ^ (-reciprocalExponent m e).toNat := Nat.pow_le_pow_right (by decide) (by omega)

end Alignment
namespace System

/-- **Which accepted configurations have a period.**  All waits of a configuration that is accepted
are positive.  Its frame rate gives a period, and one that is not zero, if and only if it is above
`2 ^ -64` and not above two thousand million: at slower rates the period is undefined, so that no
stream can be started, and at faster ones it is zero. -/
theorem pace_law {config : Config} (valid : config.validate = .ok ()) :
    (0 < config.connection.heartbeatInterval ∧ 0 < config.connection.reconnectInterval ∧
      0 < config.connection.sendRetryDelay ∧ 0 < config.connection.closeGrace ∧
      0 < config.metrics.interval ∧ config.connection.idleTimeout ≠ some 0) ∧
    ((∃ period, config.alignment.frameInterval? = some period ∧ 0 < period) ↔
      Alignment.slowestRate < config.alignment.frameRate ∧
        config.alignment.frameRate ≤ Alignment.fastestRate) ∧
    (config.alignment.frameInterval? = none ↔
      config.alignment.frameRate ≤ Alignment.slowestRate) ∧
    (config.alignment.frameInterval? = some 0 ↔
      Alignment.fastestRate < config.alignment.frameRate) ∧
    ∀ moves bindings, (after config moves).startStreams bindings = none ↔
      config.alignment.frameRate ≤ Alignment.slowestRate := by
  have accepted := Config.accepted_of_validate valid
  obtain ⟨m, e, rate⟩ := exists_isNumber accepted.frameRate_pos
  have undefined := Alignment.frameInterval?_eq_none_iff rate
  have zero := Alignment.frameInterval?_eq_zero_iff rate
  refine ⟨⟨accepted.heartbeatInterval_pos, accepted.reconnectInterval_pos,
    accepted.sendRetryDelay_pos, accepted.closeGrace_pos, accepted.metricsInterval_pos,
    accepted.idleTimeout_ne⟩, ?_, undefined, zero, ?_⟩
  · rw [Alignment.isNumber_slowestRate.lt_iff_not_le rate,
      rate.le_iff_not_lt Alignment.isNumber_fastestRate, ← undefined, ← zero]
    cases config.alignment.frameInterval? with
    | none => simp
    | some period => simp [Nat.pos_iff_ne_zero]
  · intro moves bindings
    rw [startStreams, config_after, Option.map_eq_none_iff, undefined]

/-- The default configuration at another frame rate. -/
def paced (rate : Float) : Config := { alignment := { frameRate := rate } }

/-- At the fastest rate a frame is displayed every nanosecond. -/
theorem pace_law_fastest :
    (paced Alignment.fastestRate).validate = .ok () ∧
    (paced Alignment.fastestRate).alignment.frameInterval? = some 1 ∧
    Alignment.slowestRate < Alignment.fastestRate ∧
    ∀ moves bindings,
      (after (paced Alignment.fastestRate) moves).startStreams bindings ≠ none := by
  have valid : (paced Alignment.fastestRate).validate = .ok () := rfl
  have one : (paced Alignment.fastestRate).alignment.frameInterval? = some 1 := by decide +kernel
  obtain ⟨-, period, undefined, -, starts⟩ := pace_law valid
  have bounds := period.1 ⟨1, one, Nat.one_pos⟩
  refine ⟨valid, one, bounds.1, fun moves bindings refused => ?_⟩
  have none := undefined.2 ((starts moves bindings).1 refused)
  rw [one] at none
  cases none

/-- Two configurations are accepted, and one of them has no period, the other one the period
zero. -/
theorem accepted_without_period :
    ((paced 1e-20).validate = .ok () ∧ (paced 1e-20).alignment.frameInterval? = none) ∧
    ((paced 1e10).validate = .ok () ∧ (paced 1e10).alignment.frameInterval? = some 0) ∧
    ¬ ∀ config : Config, config.validate = .ok () →
      ∃ period, config.alignment.frameInterval? = some period ∧ 0 < period := by
  have slow : (paced 1e-20).alignment.frameInterval? = none := by decide +kernel
  have fast : (paced 1e10).alignment.frameInterval? = some 0 := by decide +kernel
  refine ⟨⟨rfl, slow⟩, ⟨rfl, fast⟩, fun usable => ?_⟩
  obtain ⟨period, found, -⟩ := usable (paced 1e-20) rfl
  rw [slow] at found
  cases found

end System
end Lookout

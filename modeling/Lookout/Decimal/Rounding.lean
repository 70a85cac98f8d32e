/-!
# Rounding a quotient to the nearest whole number

Floats, durations and decimal digits are all cut to a grid by the same rule: take the nearest
point, and of two equally near ones the even one.

## Main definitions

* `nearestEven num den` — the whole number nearest to `num / den`.
-/

namespace Lookout

/-- The whole number nearest to `num / den`; a quotient half way between two goes to the even
one. -/
def nearestEven (num den : Nat) : Nat :=
  let down := num / den
  match compare (2 * (num % den)) den with
  | .lt => down
  | .gt => down + 1
  | .eq => down + down % 2

/-- The result is never more than half a unit away. -/
theorem two_mul_nearestEven_le (num den : Nat) (h : 0 < den) :
    2 * (nearestEven num den * den) ≤ 2 * num + den := by
  have hdiv := Nat.div_add_mod num den
  have hmod : num / den % 2 < 2 := Nat.mod_lt _ (by decide)
  have hcomm : num / den * den = den * (num / den) := Nat.mul_comm ..
  unfold nearestEven
  dsimp only
  split
  · rw [hcomm]; omega
  · next hc => rw [Nat.compare_eq_gt] at hc; rw [Nat.add_mul, hcomm]; omega
  · next hc =>
    rw [Nat.compare_eq_eq] at hc
    rcases Nat.lt_or_ge (num / den % 2) 1 with h0 | h1
    · have : num / den % 2 = 0 := by omega
      rw [this, Nat.add_zero, hcomm]; omega
    · have : num / den % 2 = 1 := by omega
      rw [this, Nat.add_mul, hcomm]; omega

/-- A whole quotient is kept. -/
@[simp] theorem nearestEven_mul_self (n den : Nat) (h : 0 < den) :
    nearestEven (n * den) den = n := by
  unfold nearestEven
  rw [Nat.mul_mod_left, Nat.mul_div_cancel _ h]
  have : compare (2 * 0) den = .lt := by rw [Nat.compare_eq_lt]; omega
  rw [this]

end Lookout

/-!
# Bytes and little-endian numbers

A message from the device is a list of bytes, and the numbers in its header are written with the
least significant byte first.  `Bytes.ofNat` and `Bytes.toNat` are the two directions; the lemmas
beside them say that each undoes the other as far as the width allows.

## Main definitions

* `Bytes.ofNat width n` — the `width` low bytes of `n`.
* `Bytes.toNat bytes` — the number that the bytes stand for.
-/

namespace Lookout

/-- A run of bytes, in the order in which they travel. -/
abbrev Bytes := List UInt8

namespace Bytes

/-- The `width` low bytes of `n`, least significant first. -/
def ofNat : Nat → Nat → Bytes
  | 0, _ => []
  | width + 1, n => UInt8.ofNat (n % 256) :: ofNat width (n / 256)

/-- The number that `bytes` stand for, least significant first. -/
def toNat : Bytes → Nat
  | [] => 0
  | b :: rest => b.toNat + 256 * toNat rest

@[simp] theorem length_ofNat (width n : Nat) : (ofNat width n).length = width := by
  induction width generalizing n with
  | zero => rfl
  | succ width ih => simp [ofNat, ih]

/-- Writing a number and reading it back keeps what fits the width. -/
theorem toNat_ofNat (width n : Nat) : toNat (ofNat width n) = n % Nat.pow 256 width := by
  induction width generalizing n with
  | zero => simp [ofNat, toNat, Nat.mod_one]
  | succ width ih =>
    have h : (UInt8.ofNat (n % 256)).toNat = n % 256 := by
      simp [UInt8.toNat_ofNat']
    have hpow : Nat.pow 256 (width + 1) = 256 * Nat.pow 256 width := Nat.mul_comm ..
    rw [ofNat, toNat, ih, h, hpow, Nat.mod_mul]

/-- Reading bytes and writing the number again gives the same bytes. -/
theorem ofNat_toNat (bytes : Bytes) : ofNat bytes.length (toNat bytes) = bytes := by
  induction bytes with
  | nil => rfl
  | cons b rest ih =>
    have hb : b.toNat < 256 := b.toNat_lt
    rw [List.length_cons, ofNat, toNat, Nat.add_mul_mod_self_left, Nat.mod_eq_of_lt hb,
      Nat.add_mul_div_left _ _ (by decide), Nat.div_eq_of_lt hb, Nat.zero_add, ih,
      UInt8.ofNat_toNat]

/-- A run of `n` bytes stands for a number below `256 ^ n`. -/
theorem toNat_lt (bytes : Bytes) : toNat bytes < Nat.pow 256 bytes.length := by
  induction bytes with
  | nil => simp [toNat]
  | cons b rest ih =>
    have hb : b.toNat < 256 := b.toNat_lt
    have hpow : Nat.pow 256 (rest.length + 1) = Nat.pow 256 rest.length * 256 := rfl
    rw [toNat, List.length_cons, hpow]
    omega

end Bytes

end Lookout

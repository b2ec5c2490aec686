import ChainParams.Target
import Mathlib.Algebra.Group.Nat.Defs

/-!
# How wide a number is

A number is `b` bits wide when it lies below `2 ^ b` and, unless it is zero, not
below `2 ^ (b - 1)`.  Everything else about widths is read off these two bounds.
A number is moved by whole bytes when it is multiplied by a power of 256 and
divided by another one.
-/

namespace ChainParams

/-! ## Bits -/

theorem bitLength_le_iff {n b : Nat} : bitLength n ≤ b ↔ n < 2 ^ b := by
  unfold bitLength
  by_cases hn : n = 0
  · subst hn
    rw [if_pos rfl]
    exact iff_of_true (Nat.zero_le b) (Nat.two_pow_pos b)
  · rw [if_neg hn, Nat.add_one_le_iff]
    exact Nat.log2_lt hn

theorem lt_bitLength_iff {n b : Nat} : b < bitLength n ↔ 2 ^ b ≤ n := by
  rw [← Nat.not_le, bitLength_le_iff, Nat.not_lt]

theorem bitLength_pos {n : Nat} (hn : n ≠ 0) : 0 < bitLength n :=
  lt_bitLength_iff.mpr (Nat.pos_of_ne_zero hn)

theorem bitLength_eq_iff {n b : Nat} (hn : n ≠ 0) :
    bitLength n = b ↔ 2 ^ (b - 1) ≤ n ∧ n < 2 ^ b := by
  have hpos := bitLength_pos hn
  rw [← lt_bitLength_iff, ← bitLength_le_iff]
  omega

theorem bitLength_mono {m n : Nat} (h : m ≤ n) : bitLength m ≤ bitLength n := by
  have hn : n < 2 ^ bitLength n := bitLength_le_iff.mp (Nat.le_refl _)
  exact bitLength_le_iff.mpr (Nat.lt_of_le_of_lt h hn)

/-! ## Bytes -/

theorem pow_256 (n : Nat) : 256 ^ n = 2 ^ (8 * n) :=
  (Nat.pow_mul 2 8 n).symm

theorem byteLength_le_iff {n b : Nat} : byteLength n ≤ b ↔ n < 256 ^ b := by
  have hbits : byteLength n ≤ b ↔ bitLength n ≤ 8 * b := by
    unfold byteLength
    omega
  rw [hbits, bitLength_le_iff, pow_256]

theorem mul_256_pow_div_of_le (a : Nat) {m n : Nat} (h : n ≤ m) :
    a * 256 ^ m / 256 ^ n = a * 256 ^ (m - n) := by
  have hsplit : a * 256 ^ m = a * 256 ^ (m - n) * 256 ^ n := by
    rw [Nat.mul_assoc, ← Nat.pow_add, Nat.sub_add_cancel h]
  rw [hsplit, Nat.mul_div_cancel _ (Nat.pow_pos (by decide))]

theorem mul_256_pow_div_of_ge (a : Nat) {m n : Nat} (h : m ≤ n) :
    a * 256 ^ m / 256 ^ n = a / 256 ^ (n - m) := by
  have hsplit : 256 ^ n = 256 ^ (n - m) * 256 ^ m := by
    rw [← Nat.pow_add, Nat.sub_add_cancel h]
  rw [hsplit, Nat.mul_div_mul_right _ _ (Nat.pow_pos (by decide))]

end ChainParams

import ChainParams.Proofs.Compact.Encode
import Mathlib.Order.Bounds.Basic

/-!
# Encoding rounds down

Encoding a target and decoding it again gives the greatest target with a compact
form that is not above it.  A code either is a multiple of the granule of the
target or lies below everything that the granule lets through
(`granule_dvd_or_lt`): a code of at least the length of the target has no bits
below the granule, and a shorter one is too small.
-/

namespace ChainParams.Compact

/-- The targets with a compact form that do not lie above `t`. -/
def formsUpTo (t : Nat) : Set Nat := {u | u ≤ t ∧ ∃ c : Compact, c.target = u}

theorem target_lt (c : Compact) {length : Nat} (h : c.exponent < length) :
    c.target < 2 ^ 15 * 256 ^ (length - 3) := by
  -- A byte less in the length is worth eight of the 23 bits of the mantissa.
  rw [target_eq]
  split
  · exact Nat.mul_pos (by decide) (Nat.pow_pos (by decide))
  rw [Nat.div_lt_iff_lt_mul (by decide)]
  calc c.mantissa * 256 ^ c.exponent
      < 2 ^ 23 * 256 ^ c.exponent :=
        Nat.mul_lt_mul_of_pos_right c.mantissa_lt (Nat.pow_pos (by decide))
    _ = 2 ^ 15 * 256 ^ (c.exponent + 1) := by
        rw [Nat.pow_succ]
        omega
    _ ≤ 2 ^ 15 * 256 ^ (length - 3 + 3) :=
        Nat.mul_le_mul_left _ (Nat.pow_le_pow_right (by decide) (by omega))
    _ = 2 ^ 15 * 256 ^ (length - 3) * 256 ^ 3 := by
        rw [Nat.pow_add, Nat.mul_assoc]

theorem dvd_target (c : Compact) {length : Nat} (h : length ≤ c.exponent) :
    256 ^ (length - 3) ∣ c.target := by
  rw [target_eq]
  split
  · exact Nat.dvd_zero _
  rcases Nat.le_total c.exponent 3 with hshort | hlong
  · rw [Nat.sub_eq_zero_of_le (Nat.le_trans h hshort), Nat.pow_zero]
    exact Nat.one_dvd _
  · rw [mul_256_pow_div_of_le _ hlong]
    exact Nat.dvd_mul_left_of_dvd (Nat.pow_dvd_pow 256 (Nat.sub_le_sub_right h 3)) _

/-- Seen from a target, every code ends at its granule or before its leading bits. -/
theorem granule_dvd_or_lt (c : Compact) (t : Nat) :
    granule t ∣ c.target ∨ c.target < 2 ^ 15 * granule t := by
  rcases Nat.lt_or_ge c.exponent (signedLength t) with hlt | hge
  · exact .inr (c.target_lt hlt)
  · exact .inl (c.dvd_target hge)

theorem target_ofTarget_le {t : Nat} (h : bitLength t ≤ maxBits) : (ofTarget t).target ≤ t := by
  rw [target_ofTarget h]
  exact Nat.div_mul_le_self t (granule t)

theorem le_target_ofTarget {t : Nat} (h : bitLength t ≤ maxBits) {c : Compact}
    (hc : c.target ≤ t) : c.target ≤ (ofTarget t).target := by
  rw [target_ofTarget h]
  rcases granule_eq_one_or_le t with hone | hkept
  · rwa [hone, Nat.div_one, Nat.mul_one]
  rcases c.granule_dvd_or_lt t with hdvd | hlt
  · calc c.target = c.target / granule t * granule t := (Nat.div_mul_cancel hdvd).symm
      _ ≤ t / granule t * granule t := Nat.mul_le_mul_right _ (Nat.div_le_div_right hc)
  · calc c.target ≤ 2 ^ 15 * granule t := Nat.le_of_lt hlt
      _ ≤ t / granule t * granule t :=
        Nat.mul_le_mul_right _ ((Nat.le_div_iff_mul_le (granule_pos t)).mpr hkept)

theorem isGreatest_target_ofTarget {t : Nat} (h : bitLength t ≤ maxBits) :
    IsGreatest (formsUpTo t) (ofTarget t).target := by
  refine ⟨⟨target_ofTarget_le h, ofTarget t, rfl⟩, ?_⟩
  rintro u ⟨hu, c, rfl⟩
  exact le_target_ofTarget h hu

/-- What is lost is less than one part in 32768. -/
theorem sub_target_ofTarget_lt {t : Nat} (h : bitLength t ≤ maxBits) (ht : 0 < t) :
    (t - (ofTarget t).target) * 2 ^ 15 < t := by
  have hsplit := Nat.div_add_mod' t (granule t)
  have hlost := Nat.mod_lt t (granule_pos t)
  rw [target_ofTarget h]
  rcases granule_eq_one_or_le t with hone | hkept
  · rwa [hone, Nat.div_one, Nat.mul_one, Nat.sub_self, Nat.zero_mul]
  · omega

/-- No code stands for a target that is too wide to be encoded. -/
theorem bitLength_target_le (c : Compact) : bitLength c.target ≤ maxBits := by
  have hlast : 2 ^ 15 * 256 ^ (256 - 3) = 2 ^ maxBits := by
    have hbits : 15 + 8 * (256 - 3) = maxBits := rfl
    rw [pow_256, ← Nat.pow_add, hbits]
  rw [bitLength_le_iff, ← hlast]
  exact c.target_lt c.exponent_lt

/-- Encoding gives the greatest target with a compact form that is not above the
given one, and what is lost is less than one part in 32768.  A target that has a
compact form is therefore kept. -/
theorem ofTarget_roundsDown :
    (∀ t, bitLength t ≤ maxBits →
      IsGreatest (formsUpTo t) (ofTarget t).target ∧
      (0 < t → (t - (ofTarget t).target) * 2 ^ 15 < t)) ∧
    ∀ c : Compact, (ofTarget c.target).target = c.target := by
  refine ⟨fun t h => ⟨isGreatest_target_ofTarget h, sub_target_ofTarget_lt h⟩, ?_⟩
  intro c
  have hwidth := c.bitLength_target_le
  exact Nat.le_antisymm (target_ofTarget_le hwidth) (le_target_ofTarget hwidth (Nat.le_refl _))

/-- The widest target loses all but its first 23 bits. -/
theorem widest_roundsDown :
    bitLength (Target.highest maxBits) ≤ maxBits ∧
    ofTarget (Target.highest maxBits) = ⟨0xff7fffff⟩ ∧
    IsGreatest (formsUpTo (Target.highest maxBits)) (Compact.target ⟨0xff7fffff⟩) := by
  have hwidth : bitLength (Target.highest maxBits) ≤ maxBits := by decide +kernel
  have hcode : ofTarget (Target.highest maxBits) = ⟨0xff7fffff⟩ := by decide +kernel
  refine ⟨hwidth, hcode, ?_⟩
  rw [← hcode]
  exact (ofTarget_roundsDown.1 _ hwidth).1

end ChainParams.Compact

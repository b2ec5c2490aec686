import ChainParams.Compact
import ChainParams.Proofs.Target.Width

/-!
# Encoding in closed form

A code with the sign bit clear stands for its 23-bit mantissa, moved so that the
target is as many bytes long as the exponent says (`target_eq`).  Encoding picks
the least length that leaves the leading bit of the target free and keeps the
three leading bytes of that length (`ofTarget_eq`): the shift up of a short
target, the shift down of a long one and the byte that makes room for the sign
are instances of this one rule.

What comes back is the target with its last bytes cleared (`target_ofTarget`);
at least sixteen bits stand before them (`le_leadingOf`).
-/

namespace ChainParams.Compact

/-! ## The parts of a code -/

theorem mantissa_lt (c : Compact) : c.mantissa < 2 ^ 23 :=
  Nat.mod_lt _ (by decide)

theorem exponent_lt (c : Compact) : c.exponent < 256 := by
  have hcode := c.code.toNat_lt
  unfold exponent
  omega

theorem eq_of_toNat_code {c c' : Compact} (h : c.code.toNat = c'.code.toNat) : c = c' := by
  obtain ⟨code⟩ := c
  obtain ⟨code'⟩ := c'
  exact congrArg Compact.mk (UInt32.toNat_inj.mp h)

theorem toNat_code_ofParts_mod (e : Nat) {m : Nat} (hm : m < 2 ^ 24) :
    (ofParts e m).code.toNat = e % 256 * 2 ^ 24 + m := by
  unfold ofParts
  rw [UInt32.toNat_ofNat']
  omega

theorem toNat_code_ofParts {e m : Nat} (he : e < 256) (hm : m < 2 ^ 23) :
    (ofParts e m).code.toNat = e * 2 ^ 24 + m := by
  rw [toNat_code_ofParts_mod e (by omega), Nat.mod_eq_of_lt he]

/-- A code is read back in the parts that it was made of. -/
theorem parts_ofParts {e m : Nat} (he : e < 256) (hm : m < 2 ^ 23) :
    (ofParts e m).exponent = e ∧ (ofParts e m).mantissa = m ∧
      (ofParts e m).isNegative = false := by
  unfold exponent mantissa isNegative
  rw [toNat_code_ofParts he hm, beq_eq_false_iff_ne]
  omega

/-! ## Decoding -/

theorem target_eq (c : Compact) :
    c.target = if c.isNegative then 0 else c.mantissa * 256 ^ c.exponent / 256 ^ 3 := by
  unfold target
  split
  · rfl
  split
  · rename_i hshort
    exact (mul_256_pow_div_of_ge c.mantissa hshort).symm
  · rename_i hlong
    exact (mul_256_pow_div_of_le c.mantissa (Nat.le_of_not_le hlong)).symm

theorem target_ofParts {e m : Nat} (he : e < 256) (hm : m < 2 ^ 23) :
    (ofParts e m).target = m * 256 ^ e / 256 ^ 3 := by
  obtain ⟨hexponent, hmantissa, hsign⟩ := parts_ofParts he hm
  rw [target_eq, hexponent, hmantissa, hsign]
  rfl

/-! ## Encoding -/

/-- The length in bytes of a target whose leading bit has to stay free. -/
def signedLength (t : Nat) : Nat := bitLength t / 8 + 1

/-- The three leading bytes of a target that is taken to be `length` bytes long. -/
def leadingOf (length t : Nat) : Nat := t * 256 ^ 3 / 256 ^ length

theorem leading_eq (t : Nat) : leading t = leadingOf (byteLength t) t := by
  unfold leading leadingOf
  split
  · rename_i hshort
    exact (mul_256_pow_div_of_le t hshort).symm
  · rename_i hlong
    exact (mul_256_pow_div_of_ge t (Nat.le_of_not_le hlong)).symm

theorem leading_lt (t : Nat) : leading t < 2 ^ 24 := by
  have hbytes : t < 256 ^ byteLength t := byteLength_le_iff.mp (Nat.le_refl _)
  rw [leading_eq]
  unfold leadingOf
  rw [Nat.div_lt_iff_lt_mul (Nat.pow_pos (by decide)), Nat.mul_comm]
  exact Nat.mul_lt_mul_of_pos_left hbytes (by decide)

theorem leadingOf_succ (length t : Nat) :
    leadingOf (length + 1) t = leadingOf length t / 256 := by
  unfold leadingOf
  rw [Nat.div_div_eq_div_mul, ← Nat.pow_succ]

/-- The leading bit is free exactly if the target is a bit shorter than its length
allows. -/
theorem leadingOf_lt_iff {length t : Nat} (hlength : 0 < length) :
    leadingOf length t < 2 ^ 23 ↔ bitLength t < 8 * length := by
  have hhalf : 256 ^ length = 2 * 2 ^ (8 * length - 1) := by
    rw [pow_256, ← Nat.pow_succ']
    congr 1
    omega
  have hbits : bitLength t < 8 * length ↔ t < 2 ^ (8 * length - 1) := by
    rw [← bitLength_le_iff]
    omega
  unfold leadingOf
  rw [hbits, Nat.div_lt_iff_lt_mul (Nat.pow_pos (by decide)), hhalf]
  omega

theorem leadingOf_lt (t : Nat) : leadingOf (signedLength t) t < 2 ^ 23 := by
  have hpos : 0 < signedLength t := Nat.succ_pos _
  rw [leadingOf_lt_iff hpos]
  unfold signedLength
  omega

/-- No length less than the signed one leaves the leading bit free, so two bytes
of the mantissa are in use. -/
theorem le_leadingOf {t : Nat} (ht : t ≠ 0) : 2 ^ 15 ≤ leadingOf (signedLength t) t := by
  have hlonger : 2 ^ 23 ≤ leadingOf (bitLength t / 8) t := by
    rcases Nat.eq_zero_or_pos (bitLength t / 8) with hzero | hpos
    · unfold leadingOf
      rw [hzero]
      omega
    · rw [← Nat.not_lt, leadingOf_lt_iff hpos]
      omega
  unfold signedLength
  rw [leadingOf_succ]
  omega

theorem signedLength_le {t : Nat} (h : bitLength t ≤ maxTargetBits) : signedLength t ≤ 33 := by
  unfold signedLength
  unfold maxTargetBits at h
  omega

/-- The length that encoding announces, before it is cut down to a byte. -/
def announcedLength (t : Nat) : Nat :=
  if leading t < 0x800000 then byteLength t else byteLength t + 1

theorem announcedLength_eq {t : Nat} (ht : t ≠ 0) : announcedLength t = signedLength t := by
  have hbits := bitLength_pos ht
  have hbytes : 0 < byteLength t := by
    unfold byteLength
    omega
  have hfree := leadingOf_lt_iff (t := t) hbytes
  unfold announcedLength signedLength
  rw [leading_eq]
  split
  · rename_i hlt
    have hwidth := hfree.mp hlt
    unfold byteLength at hwidth ⊢
    omega
  · rename_i hlt
    -- The leading bit is set, so one more byte is needed.
    have hwidth : ¬ bitLength t < 8 * byteLength t := fun h => hlt (hfree.mpr h)
    unfold byteLength at hwidth ⊢
    omega

theorem ofTarget_eq {t : Nat} (ht : t ≠ 0) :
    ofTarget t = ofParts (signedLength t) (leadingOf (signedLength t) t) := by
  have hlength := announcedLength_eq ht
  unfold announcedLength at hlength
  unfold ofTarget
  rw [if_neg ht]
  split at hlength
  · rename_i hlt
    rw [if_pos hlt, leading_eq, hlength]
  · rename_i hlt
    rw [if_neg hlt, leading_eq, ← leadingOf_succ, hlength]

/-- The exponent stands above all bits of the mantissa, and keeps its lowest eight bits. -/
theorem toNat_code_ofTarget_mod {t : Nat} (ht : t ≠ 0) :
    (ofTarget t).code.toNat =
      signedLength t % 256 * 2 ^ 24 + leadingOf (signedLength t) t := by
  have hmantissa := leadingOf_lt t
  rw [ofTarget_eq ht]
  exact toNat_code_ofParts_mod _ (by omega)

theorem isNegative_ofTarget (t : Nat) : (ofTarget t).isNegative = false := by
  by_cases ht : t = 0
  · subst ht
    rfl
  have hcode := toNat_code_ofTarget_mod ht
  have hmantissa := leadingOf_lt t
  unfold isNegative
  rw [beq_eq_false_iff_ne]
  omega

/-! ## Decoding what was encoded -/

/-- The width of the widest target whose signed length fits into a byte. -/
def maxBits : Nat := 2039

/-- The place value of the last bit that an encoding can keep. -/
def granule (t : Nat) : Nat := 256 ^ (signedLength t - 3)

theorem granule_pos (t : Nat) : 0 < granule t := Nat.pow_pos (by decide)

theorem signedLength_lt {t : Nat} (h : bitLength t ≤ maxBits) : signedLength t < 256 := by
  unfold signedLength
  unfold maxBits at h
  omega

theorem target_ofTarget {t : Nat} (h : bitLength t ≤ maxBits) :
    (ofTarget t).target = t / granule t * granule t := by
  by_cases ht : t = 0
  · subst ht
    rw [Nat.zero_div, Nat.zero_mul]
    rfl
  rw [ofTarget_eq ht, target_ofParts (signedLength_lt h) (leadingOf_lt t)]
  unfold leadingOf granule
  rcases Nat.le_total (signedLength t) 3 with hshort | hlong
  · -- A short target is moved up and down again, and nothing is lost.
    rw [mul_256_pow_div_of_le t hshort, Nat.mul_assoc, ← Nat.pow_add, Nat.sub_add_cancel hshort,
      Nat.mul_div_cancel _ (by decide), Nat.sub_eq_zero_of_le hshort, Nat.pow_zero, Nat.div_one,
      Nat.mul_one]
  · rw [mul_256_pow_div_of_ge t hlong, mul_256_pow_div_of_le _ hlong]

/-- A target that loses bytes keeps sixteen bits before them. -/
theorem granule_eq_one_or_le (t : Nat) : granule t = 1 ∨ 2 ^ 15 * granule t ≤ t := by
  rcases Nat.le_total (signedLength t) 3 with hshort | hlong
  · left
    unfold granule
    rw [Nat.sub_eq_zero_of_le hshort, Nat.pow_zero]
  · right
    have ht : t ≠ 0 := by
      rintro rfl
      exact absurd hlong (by decide)
    have hkept := le_leadingOf ht
    unfold leadingOf at hkept
    rw [mul_256_pow_div_of_ge t hlong, Nat.le_div_iff_mul_le (Nat.pow_pos (by decide))] at hkept
    exact hkept

end ChainParams.Compact

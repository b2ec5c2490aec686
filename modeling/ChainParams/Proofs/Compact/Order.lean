import ChainParams.Proofs.Compact.Canonical

/-!
# Codes are ordered as their targets

As a number a code is compared by its exponent first and then by its mantissa
(`toNat_code_ofTarget`).  A higher target is at least as long as a lower one.  If it is
longer, its exponent alone puts its code above every code of the shorter length; if it is
not, both are cut at the same byte, which keeps the order (`code_ofTarget_mono`).  A code
that encoding gives is the code of its own target, so among these codes nothing else
decides the order (`IsCanonical.code_lt_iff`).
-/

namespace ChainParams.Compact

/-- The codes that encoding gives to the targets whose length fits into a byte. -/
def encodings : Set Compact := {c | ∃ t, bitLength t ≤ maxBits ∧ ofTarget t = c}

theorem isCanonical_of_mem_encodings {c : Compact} (hc : c ∈ encodings) : c.IsCanonical := by
  obtain ⟨t, ht, rfl⟩ := hc
  exact isCanonical_ofTarget ht

/-! ## Lengths and leading bytes -/

theorem signedLength_mono {t t' : Nat} (h : t ≤ t') : signedLength t ≤ signedLength t' := by
  have hbits := bitLength_mono h
  unfold signedLength
  omega

theorem leadingOf_mono (length : Nat) {t t' : Nat} (h : t ≤ t') :
    leadingOf length t ≤ leadingOf length t' := by
  unfold leadingOf
  apply Nat.div_le_div_right
  exact Nat.mul_le_mul_right _ h

/-- A length that fits into a byte is not cut. -/
theorem toNat_code_ofTarget {t : Nat} (ht : t ≠ 0) (h : bitLength t ≤ maxBits) :
    (ofTarget t).code.toNat = signedLength t * 2 ^ 24 + leadingOf (signedLength t) t := by
  rw [toNat_code_ofTarget_mod ht, Nat.mod_eq_of_lt (signedLength_lt h)]

/-! ## The order of codes -/

theorem code_ofTarget_mono {t t' : Nat} (hle : t ≤ t') (h : bitLength t' ≤ maxBits) :
    (ofTarget t).code ≤ (ofTarget t').code := by
  by_cases ht : t = 0
  · subst ht
    exact UInt32.le_iff_toNat_le.mpr (Nat.zero_le _)
  have ht' : t' ≠ 0 := by omega
  have hlength := signedLength_mono hle
  have hbits := bitLength_mono hle
  rw [UInt32.le_iff_toNat_le, toNat_code_ofTarget ht (by omega), toNat_code_ofTarget ht' h]
  rcases Nat.lt_or_eq_of_le hlength with hshorter | hsame
  · -- A step of the length counts more than any two mantissas differ by.
    have hmantissa := leadingOf_lt t
    omega
  · have hmantissa := leadingOf_mono (signedLength t') hle
    rw [hsame]
    omega

theorem IsCanonical.code_lt_iff {c c' : Compact} (hc : c.IsCanonical) (hc' : c'.IsCanonical) :
    c.code < c'.code ↔ c.target < c'.target := by
  have hself := ofTarget_target_of_isCanonical hc
  have hself' := ofTarget_target_of_isCanonical hc'
  constructor
  · intro hcode
    rw [← Nat.not_le]
    intro htarget
    have hback := code_ofTarget_mono htarget c.bitLength_target_le
    rw [hself, hself'] at hback
    exact UInt32.not_le.mpr hcode hback
  · intro htarget
    have hcode := code_ofTarget_mono (Nat.le_of_lt htarget) c'.bitLength_target_le
    rw [hself, hself'] at hcode
    apply UInt32.lt_of_le_of_ne hcode
    intro hsame
    have hequal : c = c' := congrArg Compact.mk hsame
    rw [hequal] at htarget
    exact Nat.lt_irrefl _ htarget

/-- A higher target never has a lower code, as long as the lengths fit into a byte, and the
codes that encoding gives there are in the same order as the targets that they stand for. -/
theorem ofTarget_ordered :
    (∀ t t' : Nat, t ≤ t' → bitLength t' ≤ maxBits → (ofTarget t).code ≤ (ofTarget t').code) ∧
    ∀ c ∈ encodings, ∀ c' ∈ encodings, c.code < c'.code ↔ c.target < c'.target := by
  refine ⟨fun t t' => code_ofTarget_mono, ?_⟩
  intro c hc c' hc'
  exact (isCanonical_of_mem_encodings hc).code_lt_iff (isCanonical_of_mem_encodings hc')

/-- Where the leading bit reaches the sign bit the mantissa drops by a byte and the code still
rises.  One bit above the widest target the length is cut, and the order is lost. -/
theorem seam_ordered :
    (ofTarget 0x7fffff).code ≤ (ofTarget 0x800000).code ∧
    ((0x037fffff : UInt32) < 0x04008000 ↔
      Compact.target ⟨0x037fffff⟩ < Compact.target ⟨0x04008000⟩) ∧
    (ofTarget (2 ^ maxBits)).code < (ofTarget (Target.highest maxBits)).code := by
  obtain ⟨hmono, hstrict⟩ := ofTarget_ordered
  have hlow : (⟨0x037fffff⟩ : Compact) ∈ encodings := ⟨0x7fffff, by decide, by decide⟩
  have hhigh : (⟨0x04008000⟩ : Compact) ∈ encodings := ⟨0x800000, by decide, by decide⟩
  exact ⟨hmono _ _ (by decide) (by decide), hstrict _ hlow _ hhigh, by decide +kernel⟩

end ChainParams.Compact

import ChainParams.Proofs.Compact.RoundDown

/-!
# Canonical codes

Several codes stand for the same target: a mantissa may begin with zero bytes, and a code
with the sign bit set stands for zero.  Encoding chooses one of them, and which one can be
seen from the code alone (`IsCanonical`).

* What encoding gives is canonical (`isCanonical_ofTarget`), since the mantissa is at least
  two bytes long and a short target is moved up by whole bytes.
* A canonical code is given back.  Nothing is cut off when it is decoded
  (`IsCoded.target_mul`), so the length and the leading bytes of its target are its exponent
  and its mantissa.
-/

namespace ChainParams.Compact

/-! ## The parts determine the code -/

theorem eq_ofParts {c : Compact} (h : c.isNegative = false) :
    c = ofParts c.exponent c.mantissa := by
  have hcode := c.code.toNat_lt
  apply eq_of_toNat_code
  rw [toNat_code_ofParts c.exponent_lt c.mantissa_lt]
  unfold isNegative at h
  rw [beq_eq_false_iff_ne] at h
  unfold exponent mantissa
  omega

/-! ## Canonical codes -/

/-- A code of a target that is not zero, as encoding chooses it: without a sign, with two
bytes of the mantissa in use, and with zeros where a target of one or two bytes has ended. -/
structure IsCoded (c : Compact) : Prop where
  sign : c.isNegative = false
  exponent : 1 ≤ c.exponent
  mantissa : 0x8000 ≤ c.mantissa
  padding : c.exponent < 3 → c.mantissa % 2 ^ (8 * (3 - c.exponent)) = 0

/-- A code that encoding can give. -/
def IsCanonical (c : Compact) : Prop := c.code = 0 ∨ c.IsCoded

theorem isCoded_iff (c : Compact) : c.IsCoded ↔
    c.isNegative = false ∧ 1 ≤ c.exponent ∧ 0x8000 ≤ c.mantissa ∧
      (c.exponent < 3 → c.mantissa % 2 ^ (8 * (3 - c.exponent)) = 0) :=
  ⟨fun h => ⟨h.sign, h.exponent, h.mantissa, h.padding⟩,
    fun h => ⟨h.1, h.2.1, h.2.2.1, h.2.2.2⟩⟩

instance (c : Compact) : Decidable c.IsCoded := decidable_of_iff' _ c.isCoded_iff

instance (c : Compact) : Decidable c.IsCanonical := inferInstanceAs (Decidable (_ ∨ _))

/-! ### What encoding gives -/

theorem isCanonical_ofTarget {t : Nat} (h : bitLength t ≤ maxBits) :
    (ofTarget t).IsCanonical := by
  by_cases ht : t = 0
  · subst ht
    exact .inl rfl
  right
  obtain ⟨hexponent, hmantissa, hsign⟩ := parts_ofParts (signedLength_lt h) (leadingOf_lt t)
  rw [ofTarget_eq ht]
  refine ⟨hsign, ?_, ?_, ?_⟩
  · rw [hexponent]
    exact Nat.succ_pos _
  · rw [hmantissa]
    exact le_leadingOf ht
  · intro hshort
    rw [hexponent] at hshort ⊢
    rw [hmantissa]
    unfold leadingOf
    rw [mul_256_pow_div_of_le t (Nat.le_of_lt hshort), ← pow_256]
    exact Nat.mul_mod_left t _

/-! ### Canonical codes are given back -/

namespace IsCoded

variable {c : Compact} (hc : c.IsCoded)
include hc

/-- Nothing is cut off when the code is decoded. -/
theorem target_mul : c.target * 256 ^ 3 = c.mantissa * 256 ^ c.exponent := by
  have hdvd : 256 ^ 3 ∣ c.mantissa * 256 ^ c.exponent := by
    rcases Nat.lt_or_ge c.exponent 3 with hshort | hlong
    · obtain ⟨q, hq⟩ := Nat.dvd_of_mod_eq_zero (hc.padding hshort)
      have hsplit : 256 ^ (3 - c.exponent) * 256 ^ c.exponent = 256 ^ 3 := by
        rw [← Nat.pow_add, Nat.sub_add_cancel (Nat.le_of_lt hshort)]
      rw [← pow_256] at hq
      refine ⟨q, ?_⟩
      calc c.mantissa * 256 ^ c.exponent
          = 256 ^ (3 - c.exponent) * q * 256 ^ c.exponent := by rw [← hq]
        _ = 256 ^ 3 * q := by rw [Nat.mul_right_comm, hsplit]
    · exact Nat.dvd_mul_left_of_dvd (Nat.pow_dvd_pow 256 hlong) _
  rw [target_eq, hc.sign]
  exact Nat.div_mul_cancel hdvd

theorem leadingOf_target {length : Nat} (h : length ≤ c.exponent) :
    leadingOf length c.target = c.mantissa * 256 ^ (c.exponent - length) := by
  unfold leadingOf
  rw [hc.target_mul, mul_256_pow_div_of_le c.mantissa h]

theorem leadingOf_exponent : leadingOf c.exponent c.target = c.mantissa := by
  rw [hc.leadingOf_target (Nat.le_refl _), Nat.sub_self, Nat.pow_zero, Nat.mul_one]

theorem signedLength_target : signedLength c.target = c.exponent := by
  have hpos := hc.exponent
  have hfree : bitLength c.target < 8 * c.exponent := by
    rw [← leadingOf_lt_iff hpos, hc.leadingOf_exponent]
    exact c.mantissa_lt
  -- A byte less in the length, and the mantissa would reach the sign bit.
  have hused : 8 * (c.exponent - 1) ≤ bitLength c.target := by
    rcases Nat.eq_zero_or_pos (c.exponent - 1) with hone | hmore
    · omega
    · have hmantissa := hc.mantissa
      rw [← Nat.not_lt, ← leadingOf_lt_iff hmore, hc.leadingOf_target (Nat.sub_le _ _),
        Nat.sub_sub_self hpos]
      omega
  unfold signedLength
  omega

theorem ofTarget_target : ofTarget c.target = c := by
  have hmantissa := hc.mantissa
  have hne : c.target ≠ 0 := by
    intro hzero
    have hleading := hc.leadingOf_exponent
    unfold leadingOf at hleading
    rw [hzero, Nat.zero_mul, Nat.zero_div] at hleading
    omega
  rw [ofTarget_eq hne, hc.signedLength_target, hc.leadingOf_exponent]
  exact (eq_ofParts hc.sign).symm

end IsCoded

theorem ofTarget_target_of_isCanonical {c : Compact} (hc : c.IsCanonical) :
    ofTarget c.target = c := by
  rcases hc with hzero | hcoded
  · obtain ⟨code⟩ := c
    obtain rfl : code = 0 := hzero
    rfl
  · exact hcoded.ofTarget_target

/-- A code stands for the same target when it is encoded anew. -/
theorem target_ofTarget_target (c : Compact) : (ofTarget c.target).target = c.target :=
  Nat.le_antisymm (target_ofTarget_le c.bitLength_target_le)
    (le_target_ofTarget c.bitLength_target_le (Nat.le_refl _))

/-- The canonical codes are those that decoding and encoding leave alone, and those that
encoding gives.  Every code becomes canonical when it is encoded anew, and keeps its
target. -/
theorem ofTarget_target_canonical :
    (∀ c : Compact, ofTarget c.target = c ↔ c.IsCanonical) ∧
    (∀ t, bitLength t ≤ maxBits → (ofTarget t).IsCanonical) ∧
    (∀ c : Compact, c.IsCanonical → ∃ t, bitLength t ≤ maxBits ∧ ofTarget t = c) ∧
    ∀ c : Compact, (ofTarget c.target).target = c.target ∧
      ofTarget (ofTarget c.target).target = ofTarget c.target := by
  refine ⟨?_, fun t => isCanonical_ofTarget, ?_, ?_⟩
  · intro c
    constructor
    · intro h
      rw [← h]
      exact isCanonical_ofTarget c.bitLength_target_le
    · exact ofTarget_target_of_isCanonical
  · intro c hc
    exact ⟨c.target, c.bitLength_target_le, ofTarget_target_of_isCanonical hc⟩
  · intro c
    refine ⟨c.target_ofTarget_target, ?_⟩
    rw [c.target_ofTarget_target]

/-- The widest target has a canonical code, a target of two bytes has one with a zero byte
behind it, and with anything else in that byte the code is given up. -/
theorem shortest_and_widest_canonical :
    (ofTarget (Target.highest maxBits)).IsCanonical ∧
    (∃ t, bitLength t ≤ maxBits ∧ ofTarget t = ⟨0x02008000⟩) ∧
    ofTarget (Compact.target ⟨0x02008000⟩) = ⟨0x02008000⟩ ∧
    ofTarget (Compact.target ⟨0x02008001⟩) ≠ ⟨0x02008001⟩ := by
  obtain ⟨hfixed, hencoded, hreached, -⟩ := ofTarget_target_canonical
  have hcanonical : IsCanonical ⟨0x02008000⟩ := by decide
  have hnot : ¬ IsCanonical ⟨0x02008001⟩ := by decide
  exact ⟨hencoded _ (by decide +kernel), hreached _ hcanonical, (hfixed _).mpr hcanonical,
    fun h => hnot ((hfixed _).mp h)⟩

end ChainParams.Compact

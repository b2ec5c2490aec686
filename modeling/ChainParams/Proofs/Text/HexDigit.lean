import ChainParams.Proofs.Text.Lowercase
import ChainParams.Text.HexDigit

/-!
# What a hexadecimal digit is

Ten figures and the first six letters, small or capital, are digits (`IsHexDigit`), and they
are all in ASCII.  A digit is worth the number whose small digit it is when it is made small
(`hexValue?_eq_some_iff`), so reading a digit and writing it anew makes it small.
-/

namespace ChainParams.Text

/-- Whether a code point is that of a hexadecimal digit. -/
def IsHexDigit (code : Nat) : Prop :=
  (0x30 ≤ code ∧ code ≤ 0x39) ∨ (0x41 ≤ code ∧ code ≤ 0x46) ∨ (0x61 ≤ code ∧ code ≤ 0x66)

instance (code : Nat) : Decidable (IsHexDigit code) := inferInstanceAs (Decidable (_ ∨ _))

theorem hexValue?_eq_none_iff {code : Nat} : hexValue? code = none ↔ ¬ IsHexDigit code := by
  unfold hexValue? IsHexDigit
  grind

theorem exists_hexValue?_iff {code : Nat} :
    (∃ d, hexValue? code = some d) ↔ IsHexDigit code := by
  rw [← Option.ne_none_iff_exists', Ne, hexValue?_eq_none_iff, Decidable.not_not]

theorem IsHexDigit.ascii {code : Nat} (h : IsHexDigit code) : code < 0x80 := by
  unfold IsHexDigit at h
  omega

/-- A character has the value of a digit exactly if that is its small form. -/
theorem hexValue?_eq_some_iff {c : Char} {d : Nat} (hd : d < 16) :
    hexValue? c.toNat = some d ↔ c.toLower = Nat.digitChar d := by
  have hascii : ∀ n < 0x80, ∀ d < 16,
      (hexValue? n = some d ↔ (Char.ofNat n).toLower = Nat.digitChar d) := by
    decide +kernel
  have hdigit : ∀ d < 16, (Nat.digitChar d).toNat < 0x80 := by decide
  rcases Nat.lt_or_ge c.toNat 0x80 with hc | hc
  · have hcode := hascii c.toNat hc d hd
    rwa [Char.ofNat_toNat] at hcode
  · rw [toLower_of_not_ascii hc]
    constructor
    · intro hvalue
      have hcode := (exists_hexValue?_iff.mp ⟨d, hvalue⟩).ascii
      omega
    · rintro rfl
      have hcode := hdigit d hd
      omega

end ChainParams.Text

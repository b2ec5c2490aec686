import ChainParams.Proofs.Compact.Encode
import Mathlib.Data.Nat.Bitwise
import Mathlib.Data.Nat.Digits.Lemmas

/-!
# Encoding in words of 32 bits

A code can be put together from the bytes of its target in words of 32 bits
(`codeInWords`).  Two things could give a wrong code there without being noticed.  A part
of the target that does not fit into a word has to be replaced by something, and a shift
drops what leaves the word.

Neither happens, however wide the target is: what goes into a word is at most three bytes
long, and it still is when a short target has been moved up to three bytes
(`kept_mul`, `leading_lt`).  So the word holds the three leading bytes whole
(`toNat_leadingWord`), and the code is the one that encoding gives (`codeInWords_eq`).
Only the length is cut, to its lowest eight bits, and that begins at 2040 bits.
-/

namespace ChainParams.Compact

/-! ## Bytes -/

/-- The bytes of a number, the lowest first. -/
def bytesOf (n : Nat) : List Nat := Nat.digits 256 n

/-- The highest byte of a number. -/
def topByte (n : Nat) : Nat := (bytesOf n).getLastD 0

/-- The length of a target in bytes, with an empty byte before them if the leading bit of the
highest one is set. -/
def paddedLength (t : Nat) : Nat :=
  if 0x80 ≤ topByte t then (bytesOf t).length + 1 else (bytesOf t).length

theorem length_bytesOf (n : Nat) : (bytesOf n).length = byteLength n := by
  apply eq_of_forall_ge_iff
  intro length
  rw [byteLength_le_iff]
  exact Nat.digits_length_le_iff (by decide) n

theorem topByte_eq (n : Nat) : topByte n = n / 256 ^ (byteLength n - 1) := by
  have hlast : topByte n = n / 256 ^ (byteLength n - 1) % 256 := by
    rw [← Nat.getD_digits n _ (by decide), ← length_bytesOf, List.getD_eq_getElem?_getD]
    unfold topByte
    rw [List.getLastD_eq_getLast?, List.getLast?_eq_getElem?]
    rfl
  have hlt : n / 256 ^ (byteLength n - 1) < 256 := by
    rw [Nat.div_lt_iff_lt_mul (Nat.pow_pos (by decide)), ← Nat.pow_succ']
    exact byteLength_le_iff.mp (by omega)
  rw [hlast, Nat.mod_eq_of_lt hlt]

/-- The leading bit of the highest byte is set exactly if the number is as wide as its bytes
allow. -/
theorem le_topByte_iff {n : Nat} (hn : n ≠ 0) :
    0x80 ≤ topByte n ↔ bitLength n = 8 * byteLength n := by
  have hbits := bitLength_pos hn
  have hleading : 0x80 * 256 ^ (byteLength n - 1) = 2 ^ (7 + 8 * (byteLength n - 1)) := by
    rw [pow_256, Nat.pow_add]
  rw [topByte_eq, Nat.le_div_iff_mul_le (Nat.pow_pos (by decide)), hleading, ← lt_bitLength_iff]
  unfold byteLength
  omega

theorem paddedLength_eq {t : Nat} (ht : t ≠ 0) : paddedLength t = signedLength t := by
  have htop := le_topByte_iff ht
  unfold paddedLength signedLength
  rw [length_bytesOf]
  split
  · -- The bytes are full, and the next bit would begin a byte of its own.
    rename_i hset
    have hwidth := htop.mp hset
    omega
  · rename_i hfree
    have hwidth := mt htop.mpr hfree
    unfold byteLength at hwidth ⊢
    omega

/-! ## Words -/

/-- A number as a word, if it fits into one. -/
def word? (n : Nat) : Option UInt32 :=
  if n < 2 ^ 32 then some (UInt32.ofNat n) else none

/-- The part of a target that goes into a word: its three leading bytes, or all of it if it has
no more than three. -/
def kept (t : Nat) : Nat :=
  if (bytesOf t).length ≤ 3 then t else t >>> (8 * ((bytesOf t).length - 3))

/-- The three leading bytes of a target as a word, with zero bytes below it if it is shorter.
What does not fit into a word is replaced by `fallback`. -/
def leadingWord (fallback : UInt32) (t : Nat) : UInt32 :=
  let word := (word? (kept t)).getD fallback
  if (bytesOf t).length ≤ 3 then word <<< UInt32.ofNat (8 * (3 - (bytesOf t).length)) else word

/-- The code of a target, put together in words.  If the leading bytes reach the sign bit, one
of them goes into the length. -/
def codeInWords (fallback : UInt32) (t : Nat) : Compact :=
  let length := (bytesOf t).length
  let word := leadingWord fallback t
  if t = 0 then ⟨0⟩
  else if word &&& 0x800000 = 0 then ⟨UInt32.ofNat length <<< 24 ||| word⟩
  else ⟨UInt32.ofNat (length + 1) <<< 24 ||| word >>> 8⟩

/-! ### Shifts and masks -/

theorem toNat_shiftLeft_ofNat {w : UInt32} {n : Nat} (hn : n < 32)
    (hfits : w.toNat * 2 ^ n < 2 ^ 32) : (w <<< UInt32.ofNat n).toNat = w.toNat * 2 ^ n := by
  have hcount : (UInt32.ofNat n).toNat % 32 = n := by
    rw [UInt32.toNat_ofNat']
    omega
  rw [UInt32.toNat_shiftLeft, hcount, Nat.shiftLeft_eq, Nat.mod_eq_of_lt hfits]

theorem and_signBit_eq_zero_iff {w : UInt32} (hw : w.toNat < 2 ^ 24) :
    w &&& 0x800000 = 0 ↔ w.toNat < 0x800000 := by
  have hbit : (w &&& 0x800000).toNat = (w.toNat.testBit 23).toNat * 2 ^ 23 := by
    rw [UInt32.toNat_and]
    exact Nat.and_two_pow w.toNat 23
  have hset : w.toNat.testBit 23 = true ↔ 0x800000 ≤ w.toNat := by
    rw [Nat.testBit_eq_decide_div_mod_eq, decide_eq_true_iff]
    omega
  rw [← UInt32.toNat_inj, hbit, ← Nat.not_le, ← hset]
  cases w.toNat.testBit 23 <;> decide

/-- The length is cut to a byte when it is moved up, and the word below it stays as it is. -/
theorem code_shiftLeft_or (length : Nat) {w : UInt32} (hw : w.toNat < 2 ^ 24) :
    (⟨UInt32.ofNat length <<< 24 ||| w⟩ : Compact) = ofParts length w.toNat := by
  have hlength : (UInt32.ofNat length <<< 24).toNat = (length % 256) <<< 24 := by
    rw [UInt32.toNat_shiftLeft, UInt32.toNat_ofNat', Nat.shiftLeft_eq, Nat.shiftLeft_eq]
    change length % 2 ^ 32 * 2 ^ 24 % 2 ^ 32 = _
    omega
  apply eq_of_toNat_code
  rw [toNat_code_ofParts_mod length hw, UInt32.toNat_or, hlength,
    ← Nat.shiftLeft_add_eq_or_of_lt hw, Nat.shiftLeft_eq]

/-! ### Nothing is lost -/

theorem kept_mul (t : Nat) : kept t * 2 ^ (8 * (3 - byteLength t)) = leading t := by
  unfold kept leading
  rw [length_bytesOf, ← pow_256]
  split
  · rfl
  · -- A long target has been moved down, and nothing is left to move up.
    rename_i hlong
    have hfull : 3 - byteLength t = 0 := by omega
    rw [Nat.shiftRight_eq_div_pow, ← pow_256, hfull, Nat.pow_zero, Nat.mul_one]
    rfl

theorem kept_lt (t : Nat) : kept t < 2 ^ 24 := by
  calc kept t ≤ kept t * 2 ^ (8 * (3 - byteLength t)) :=
        Nat.le_mul_of_pos_right _ (Nat.two_pow_pos _)
    _ = leading t := kept_mul t
    _ < 2 ^ 24 := leading_lt t

theorem word?_kept (t : Nat) : word? (kept t) = some (UInt32.ofNat (kept t)) :=
  if_pos (Nat.lt_trans (kept_lt t) (by decide))

theorem toNat_ofNat_kept (t : Nat) : (UInt32.ofNat (kept t)).toNat = kept t := by
  have hfits := kept_lt t
  rw [UInt32.toNat_ofNat']
  omega

theorem toNat_leadingWord (fallback : UInt32) (t : Nat) :
    (leadingWord fallback t).toNat = kept t * 2 ^ (8 * (3 - (bytesOf t).length)) := by
  have hkept := toNat_ofNat_kept t
  unfold leadingWord
  rw [word?_kept, Option.getD_some, length_bytesOf]
  dsimp only
  split
  · -- Moved up, the part is still three bytes long, so the word holds it.
    have hfits : (UInt32.ofNat (kept t)).toNat * 2 ^ (8 * (3 - byteLength t)) < 2 ^ 32 := by
      rw [hkept, kept_mul]
      exact Nat.lt_trans (leading_lt t) (by decide)
    rw [toNat_shiftLeft_ofNat (by omega) hfits, hkept]
  · rename_i hlong
    have hfull : 3 - byteLength t = 0 := by omega
    rw [hkept, hfull, Nat.mul_zero, Nat.pow_zero, Nat.mul_one]

/-- The code that is put together in words is the code of the target, and nothing is ever
replaced. -/
theorem codeInWords_eq (fallback : UInt32) (t : Nat) : codeInWords fallback t = ofTarget t := by
  have hword : (leadingWord fallback t).toNat = leading t := by
    rw [toNat_leadingWord, length_bytesOf, kept_mul]
  have hfits : (leadingWord fallback t).toNat < 2 ^ 24 := hword ▸ leading_lt t
  -- The sign bit of the word is set exactly if the leading bytes reach it.
  have hsign := and_signBit_eq_zero_iff hfits
  rw [hword] at hsign
  unfold codeInWords ofTarget
  rw [length_bytesOf]
  dsimp only
  split
  · rfl
  split
  · rename_i hfree
    rw [if_pos (hsign.mp hfree), code_shiftLeft_or _ hfits, hword]
  · rename_i hset
    have hshifted : (leadingWord fallback t >>> 8).toNat = leading t / 256 := by
      rw [UInt32.toNat_shiftRight, hword]
      exact Nat.shiftRight_eq_div_pow _ 8
    rw [if_neg (mt hsign.mpr hset), code_shiftLeft_or _ (by omega), hshifted]

/-! ## Every width -/

/-- The code of a target of any width.  Its lowest 24 bits are the leading bytes of the target
behind its padded length, which is two bytes at least and leaves the sign bit alone, and its
highest byte is that length.  The length is cut to a byte, which changes it from 2040 bits on.
If the code is put together in words, the part that is kept fits into one, moving it up drops
nothing, and what would stand for a part that does not fit never comes in. -/
theorem ofTarget_everyWidth :
    ∀ t : Nat, 0 < t →
      (ofTarget t).code.toNat % 2 ^ 24 = t * 2 ^ 24 / 2 ^ (8 * paddedLength t) ∧
      0x8000 ≤ t * 2 ^ 24 / 2 ^ (8 * paddedLength t) ∧
      t * 2 ^ 24 / 2 ^ (8 * paddedLength t) ≤ 0x7fffff ∧
      (ofTarget t).code.toNat / 2 ^ 24 = paddedLength t % 256 ∧
      (ofTarget t).isNegative = false ∧
      ((ofTarget t).exponent = paddedLength t ↔ bitLength t ≤ 2039) ∧
      (∃ word, word? (kept t) = some word ∧ word.toNat = kept t) ∧
      ∀ fallback,
        (leadingWord fallback t).toNat = kept t * 2 ^ (8 * (3 - (bytesOf t).length)) ∧
        codeInWords fallback t = ofTarget t := by
  intro t ht
  have hne : t ≠ 0 := Nat.ne_of_gt ht
  have hleading : t * 2 ^ 24 / 2 ^ (8 * paddedLength t) = leadingOf (signedLength t) t := by
    rw [paddedLength_eq hne, ← pow_256]
    rfl
  have hcode := toNat_code_ofTarget_mod hne
  have hlow := le_leadingOf hne
  have hhigh := leadingOf_lt t
  have hlength : signedLength t < 256 ↔ bitLength t ≤ 2039 := by
    unfold signedLength
    omega
  rw [hleading, paddedLength_eq hne]
  refine ⟨by omega, hlow, by omega, by omega, isNegative_ofTarget t, ?_, ?_, ?_⟩
  · unfold exponent
    omega
  · exact ⟨_, word?_kept t, toNat_ofNat_kept t⟩
  · intro fallback
    exact ⟨toNat_leadingWord fallback t, codeInWords_eq fallback t⟩

/-- Three bytes with the leading bit set are given the length four.  From 2040 bits on the
length no longer fits. -/
theorem seam_everyWidth :
    0 < 0x800000 ∧ (ofTarget 0x800000).code.toNat % 2 ^ 24 = 0x8000 ∧
    (ofTarget 0x800000).code.toNat / 2 ^ 24 = 4 ∧
    codeInWords 0xffffffff 0x800000 = ofTarget 0x800000 ∧
    (ofTarget (2 ^ maxBits)).exponent ≠ paddedLength (2 ^ maxBits) := by
  have hpositive : 0 < 0x800000 := by decide
  have hpadded : paddedLength 0x800000 = 4 := by decide
  obtain ⟨hmantissa, -, -, hlength, -, -, -, hwords⟩ := ofTarget_everyWidth 0x800000 hpositive
  obtain ⟨-, -, -, -, -, hexact, -⟩ := ofTarget_everyWidth (2 ^ maxBits) (Nat.two_pow_pos _)
  rw [hpadded] at hmantissa hlength
  have hwide : ¬ bitLength (2 ^ maxBits) ≤ 2039 := by decide +kernel
  exact ⟨hpositive, hmantissa, hlength, (hwords _).2, mt hexact.mp hwide⟩

end ChainParams.Compact

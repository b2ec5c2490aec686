import ChainParams.Hash

/-!
# Hexadecimal texts are read as they were written

Writing takes two digits to a byte and reading takes the digits in pairs, so
what the one writes the other reads back.  Both count on single digits: a digit
is worth the number it was made from, and takes one byte in a text.
-/

namespace ChainParams

/-! ## Digits -/

/-- A digit is worth the number it was made from. -/
theorem Text.hexValue?_digitChar {d : Nat} (h : d < 16) :
    Text.hexValue? (Nat.digitChar d).toNat = some d := by
  have digits : ∀ d < 16, Text.hexValue? (Nat.digitChar d).toNat = some d := by decide
  exact digits d h

namespace Hex

/-- The single byte of a digit in a text. -/
def digitByte (d : Nat) : UInt8 := UInt8.ofNat (Nat.digitChar d).toNat

theorem utf8EncodeChar_digitChar {d : Nat} (h : d < 16) :
    String.utf8EncodeChar (Nat.digitChar d) = [digitByte d] := by
  have digits : ∀ d < 16, String.utf8EncodeChar (Nat.digitChar d) = [digitByte d] := by decide
  exact digits d h

theorem digitAt_digitByte (position : Nat) {d : Nat} (h : d < 16) :
    digitAt position (digitByte d) = .ok d := by
  have digits : ∀ d < 16, Text.hexValue? (digitByte d).toNat = some d := by decide
  simp only [digitAt, digits d h]

/-! ## Pairs of digits -/

/-- The bytes of the two digits of a byte. -/
def pairBytes (b : UInt8) : List UInt8 := [digitByte (b.toNat / 16), digitByte (b.toNat % 16)]

@[simp] theorem length_flatMap_pairBytes (bytes : List UInt8) :
    (bytes.flatMap pairBytes).length = 2 * bytes.length := by
  induction bytes with
  | nil => rfl
  | cons b rest ih =>
      simp only [List.flatMap_cons, List.length_append, ih, pairBytes, List.length_cons,
        List.length_nil]
      omega

theorem utf8_encode (bytes : List UInt8) : utf8 (encode bytes) = bytes.flatMap pairBytes := by
  unfold utf8 encode
  rw [String.toList_ofList, List.flatMap_assoc]
  congr 1
  funext b
  have hb : b.toNat < 256 := b.toNat_lt
  simp only [byteDigits, pairBytes, List.flatMap_cons, List.flatMap_nil, List.append_nil,
    utf8EncodeChar_digitChar (show b.toNat / 16 < 16 by omega),
    utf8EncodeChar_digitChar (show b.toNat % 16 < 16 by omega)]
  rfl

theorem decodePairs_pairBytes (bytes : List UInt8) (position : Nat) :
    decodePairs position (bytes.flatMap pairBytes) = .ok bytes := by
  induction bytes generalizing position with
  | nil => rfl
  | cons b rest ih =>
      have hb : b.toNat < 256 := b.toNat_lt
      have hvalue : 16 * (b.toNat / 16) + b.toNat % 16 = b.toNat := by omega
      simp only [List.flatMap_cons, pairBytes, List.cons_append, List.nil_append, decodePairs,
        digitAt_digitByte _ (show b.toNat / 16 < 16 by omega),
        digitAt_digitByte _ (show b.toNat % 16 < 16 by omega), bind, Except.bind, pure, Except.pure]
      rw [ih (position + 2)]
      simp only [hvalue, UInt8.ofNat_toNat]

/-! ## Whole texts -/

theorem decodePairs_encode (bytes : List UInt8) :
    decodePairs 0 (utf8 (encode bytes)) = .ok bytes := by
  rw [utf8_encode, decodePairs_pairBytes]

theorem length_utf8_encode (bytes : List UInt8) :
    (utf8 (encode bytes)).length = 2 * bytes.length := by
  rw [utf8_encode, length_flatMap_pairBytes]

/-- Bytes are read back from their hexadecimal form. -/
theorem decode_encode (bytes : List UInt8) : decode (encode bytes) = .ok bytes := by
  have heven : ¬ 2 * bytes.length % 2 = 1 := by omega
  simp only [decode, length_utf8_encode, if_neg heven, decodePairs_encode]

/-- A fixed count of bytes is read back from its hexadecimal form. -/
theorem decodeExactly_encode {width : Nat} (bytes : Vector UInt8 width) :
    decodeExactly width (encode bytes.toList) = .ok bytes := by
  have heven : ¬ 2 * bytes.toList.length % 2 = 1 := by omega
  have hwidth : 2 * bytes.toList.length / 2 = width := by simp
  unfold decodeExactly
  simp only [length_utf8_encode, if_neg heven, hwidth, dite_true]
  split
  · rename_i read hread
    rw [decodePairs_encode, Except.ok.injEq] at hread
    subst hread
    rfl
  · rename_i e hread
    rw [decodePairs_encode] at hread
    cases hread

end Hex

/-- A hash is read back from its display form. -/
theorem Hash.ofHex_toHex (h : Hash) : Hash.ofHex h.toHex = .ok h := by
  unfold Hash.ofHex Hash.toHex
  rw [Hex.decodeExactly_encode]
  simp [bind, Except.bind, pure, Except.pure]

end ChainParams

import ChainParams.Bytes.Hex
import ChainParams.Proofs.Bytes.LittleEndian

/-!
# Numbers in hexadecimal digits

A number that is filled up with zeros to a whole count of bytes reads like these bytes, most
significant first (`padded_eq_encode`).  Both sides gain two digits with each byte, and these
are the digits of the remainder in base 256 (`toList_padded_succ`,
`toList_bigEndian_succ`).
-/

namespace ChainParams

theorem toList_bigEndian_succ (width n : Nat) :
    (bigEndian (width + 1) n).toList =
      (bigEndian width (n / 256)).toList ++ [UInt8.ofNat n] := by
  rw [bigEndian, Vector.toList_reverse, toList_littleEndian_succ, List.reverse_cons, bigEndian,
    Vector.toList_reverse]

namespace Hex

theorem toList_encode_append (front back : List UInt8) :
    (encode (front ++ back)).toList = (encode front).toList ++ (encode back).toList := by
  simp only [encode, String.toList_ofList, List.flatMap_append]

theorem toList_encode_singleton (n : Nat) :
    (encode [UInt8.ofNat n]).toList =
      [Nat.digitChar (n / 16 % 16), Nat.digitChar (n % 16)] := by
  have hhigh : n % 256 / 16 = n / 16 % 16 := by omega
  have hlow : n % 256 % 16 = n % 16 := by omega
  simp only [encode, byteDigits, List.flatMap_cons, List.flatMap_nil, List.append_nil,
    String.toList_ofList, UInt8.toNat_ofNat', hhigh, hlow]

/-- One digit more is the last digit of the number. -/
theorem toList_padded_succ {width : Nat} (hwidth : 0 < width) (n : Nat) :
    (padded (width + 1) n).toList =
      (padded width (n / 16)).toList ++ [Nat.digitChar (n % 16)] := by
  simp only [padded, String.toList_ofList]
  rcases Nat.lt_or_ge n 16 with hn | hn
  · -- The quotient is written with a digit 0, which stands for one of the zeros in front.
    have hzeros : List.replicate width '0' = List.replicate (width - 1) '0' ++ ['0'] := by
      rw [← List.replicate_succ', Nat.sub_add_cancel hwidth]
    have hquotient : Nat.toDigits 16 (n / 16) = ['0'] := by
      rw [Nat.div_eq_of_lt hn]
      rfl
    rw [Nat.toDigits_of_lt_base hn, hquotient, Nat.mod_eq_of_lt hn, List.length_singleton,
      List.length_singleton, Nat.add_sub_cancel, hzeros]
  · rw [Nat.toDigits_of_base_le (by decide) hn, List.length_append, List.length_singleton,
      Nat.add_sub_add_right, List.append_assoc]

theorem toList_padded_one {n : Nat} (hn : n < 16) : (padded 1 n).toList = [Nat.digitChar n] := by
  simp only [padded, String.toList_ofList, Nat.toDigits_of_lt_base hn, List.length_singleton,
    Nat.sub_self, List.replicate_zero, List.nil_append]

/-- A number that is filled up to whole bytes is written like these bytes. -/
theorem padded_eq_encode (width : Nat) {n : Nat} (hn : n < 256 ^ (width + 1)) :
    padded (2 * (width + 1)) n = encode (bigEndian (width + 1) n).toList := by
  apply String.toList_injective
  induction width generalizing n with
  | zero =>
      have hhigh : n / 16 < 16 := by omega
      rw [toList_bigEndian_succ, toList_encode_append, toList_encode_singleton]
      rw [toList_padded_succ (by decide), toList_padded_one hhigh, Nat.mod_eq_of_lt hhigh]
      rfl
  | succ width ih =>
      have hquotient : n / 256 < 256 ^ (width + 1) := by
        rw [Nat.div_lt_iff_lt_mul (by decide), ← Nat.pow_succ]
        exact hn
      rw [toList_bigEndian_succ, toList_encode_append, toList_encode_singleton, ← ih hquotient]
      rw [show 2 * (width + 1 + 1) = 2 * (width + 1) + 1 + 1 by omega,
        toList_padded_succ (by omega), toList_padded_succ (by omega), Nat.div_div_eq_div_mul,
        List.append_assoc, List.singleton_append]

end Hex

end ChainParams

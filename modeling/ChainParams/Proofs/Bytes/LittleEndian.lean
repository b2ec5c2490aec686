import ChainParams.Bytes
import Mathlib.Algebra.Group.Nat.Defs

/-!
# Numbers and their bytes

The lowest bytes of a number, least significant first, are the digits of its remainder in base
256.  So a number that is short enough is read back from its bytes
(`ofLittleEndian_littleEndian`), and bytes are read as the one number that has them
(`littleEndian_ofLittleEndian`).
-/

namespace ChainParams

theorem toList_littleEndian_succ (width n : Nat) :
    (littleEndian (width + 1) n).toList =
      UInt8.ofNat n :: (littleEndian width (n / 256)).toList := by
  simp only [littleEndian, Vector.toList_ofFn, List.ofFn_succ]
  congr 1
  · simp
  · congr 1
    funext i
    have hpow : Nat.pow 256 (i.val + 1) = 256 * Nat.pow 256 i.val := by
      rw [Nat.mul_comm]
      rfl
    rw [Fin.val_succ, hpow, Nat.div_div_eq_div_mul]

theorem ofLittleEndian_littleEndian (width n : Nat) :
    ofLittleEndian (littleEndian width n).toList = n % 256 ^ width := by
  induction width generalizing n with
  | zero =>
      rw [Nat.pow_zero, Nat.mod_one]
      rfl
  | succ width ih =>
      rw [toList_littleEndian_succ, ofLittleEndian, ih, Nat.pow_succ', Nat.mod_mul]
      rfl

theorem toList_littleEndian_ofLittleEndian (bytes : List UInt8) :
    (littleEndian bytes.length (ofLittleEndian bytes)).toList = bytes := by
  induction bytes with
  | nil => rfl
  | cons b rest ih =>
      have hb := b.toNat_lt
      have hhead : UInt8.ofNat (b.toNat + 256 * ofLittleEndian rest) = b := by
        apply UInt8.toNat_inj.mp
        rw [UInt8.toNat_ofNat']
        omega
      have htail : (b.toNat + 256 * ofLittleEndian rest) / 256 = ofLittleEndian rest := by omega
      rw [List.length_cons, toList_littleEndian_succ, ofLittleEndian, hhead, htail, ih]

theorem littleEndian_ofLittleEndian {width : Nat} (bytes : Vector UInt8 width) :
    littleEndian width (ofLittleEndian bytes.toList) = bytes := by
  have h := toList_littleEndian_ofLittleEndian bytes.toList
  rw [Vector.length_toList] at h
  exact Vector.toList_inj.mp h

theorem ofLittleEndian_lt (bytes : List UInt8) : ofLittleEndian bytes < 256 ^ bytes.length := by
  induction bytes with
  | nil => decide
  | cons b rest ih =>
      have hb := b.toNat_lt
      rw [ofLittleEndian, List.length_cons, Nat.pow_succ']
      omega

/-! ## Words of four bytes -/

/-- The word whose bytes are the given ones, least significant first. -/
def wordOf (bytes : Vector UInt8 4) : UInt32 := UInt32.ofNat (ofLittleEndian bytes.toList)

theorem ofLittleEndian_word (w : UInt32) :
    ofLittleEndian (littleEndian 4 w.toNat).toList = w.toNat := by
  have hw := w.toNat_lt
  rw [ofLittleEndian_littleEndian]
  omega

theorem littleEndian_wordOf (bytes : Vector UInt8 4) :
    littleEndian 4 (wordOf bytes).toNat = bytes := by
  have hbytes := ofLittleEndian_lt bytes.toList
  rw [Vector.length_toList] at hbytes
  have hword : (wordOf bytes).toNat = ofLittleEndian bytes.toList := by
    rw [wordOf, UInt32.toNat_ofNat']
    omega
  rw [hword, littleEndian_ofLittleEndian]

theorem littleEndian_word_inj {v w : UInt32} :
    littleEndian 4 v.toNat = littleEndian 4 w.toNat ↔ v = w := by
  constructor
  · intro h
    have hvalue := congrArg (fun bytes => ofLittleEndian bytes.toList) h
    simp only [ofLittleEndian_word] at hvalue
    exact UInt32.toNat_inj.mp hvalue
  · rintro rfl
    rfl

end ChainParams

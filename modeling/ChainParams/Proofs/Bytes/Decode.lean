import ChainParams.Proofs.Bytes.Hex
import ChainParams.Proofs.Bytes.Utf8
import ChainParams.Proofs.Check
import ChainParams.Proofs.Text.HexDigit

/-!
# Which hexadecimal texts are read

Reading works on the bytes of a text, two at a time.  What two bytes give is said once
(`decodePairs_of_digits`, `decodePairs_of_not_digit_high`, `decodePairs_of_not_digit_low`), and
from that follow, by induction along the pairs, what the bytes of a text have to be
(`decodePairs_eq_ok_iff`) and which one is at fault if they are not
(`decodePairs_eq_error_iff`).

Digits are ASCII characters, so a text that is read has its characters for bytes.  Made
small it is the text that is written for the bytes read (`decode_eq_ok_iff`).
-/

namespace ChainParams.Hex

open Text (hexValue? IsHexDigit)

/-! ## Two digits at a time -/

section

variable {high low : UInt8} {rest : List UInt8} {position : Nat}

theorem decodePairs_of_digits {h l : Nat} (hhigh : hexValue? high.toNat = some h)
    (hlow : hexValue? low.toNat = some l) :
    decodePairs position (high :: low :: rest) =
      (decodePairs (position + 2) rest).map (UInt8.ofNat (16 * h + l) :: ·) := by
  simp only [decodePairs, digitAt, hhigh, hlow]
  rfl

theorem decodePairs_of_not_digit_high (hhigh : hexValue? high.toNat = none) :
    decodePairs position (high :: low :: rest) = .error (.badDigit high position) := by
  simp only [decodePairs, digitAt, hhigh]
  rfl

theorem decodePairs_of_not_digit_low {h : Nat} (hhigh : hexValue? high.toNat = some h)
    (hlow : hexValue? low.toNat = none) :
    decodePairs position (high :: low :: rest) = .error (.badDigit low (position + 1)) := by
  simp only [decodePairs, digitAt, hhigh, hlow]
  rfl

end

/-! ## What the bytes of a text have to be -/

/-- The numbers that the two digits of a byte are worth. -/
def digitValues (b : UInt8) : List Nat := [b.toNat / 16, b.toNat % 16]

/-- Two digits make the byte that is written with them. -/
theorem ofNat_eq_iff {h l : Nat} (hh : h < 16) (hl : l < 16) (b : UInt8) :
    UInt8.ofNat (16 * h + l) = b ↔ h = b.toNat / 16 ∧ l = b.toNat % 16 := by
  have hb := b.toNat_lt
  rw [← UInt8.toNat_inj, UInt8.toNat_ofNat', Nat.mod_eq_of_lt (by omega)]
  omega

/-- Bytes are read from pairs of digits that are worth what their own digits are worth. -/
theorem decodePairs_eq_ok_iff {digits bytes : List UInt8} (position : Nat) :
    decodePairs position digits = .ok bytes ↔
      digits.map (hexValue? ·.toNat) = (bytes.flatMap digitValues).map some := by
  induction position, digits using decodePairs.induct generalizing bytes with
  | case1 position => cases bytes <;> simp [decodePairs, digitValues]
  | case2 position b => cases bytes <;> simp [decodePairs, digitValues]
  | case3 position high low rest ih =>
      rw [List.map_cons, List.map_cons]
      cases hhigh : hexValue? high.toNat with
      | none =>
          rw [decodePairs_of_not_digit_high hhigh]
          cases bytes <;> simp [digitValues]
      | some h =>
          cases hlow : hexValue? low.toNat with
          | none =>
              rw [decodePairs_of_not_digit_low hhigh hlow]
              cases bytes <;> simp [digitValues]
          | some l =>
              have hh := Text.hexValue_lt hhigh
              have hl := Text.hexValue_lt hlow
              rw [decodePairs_of_digits hhigh hlow, map_eq_ok_iff]
              cases bytes with
              | nil => simp
              | cons b tail =>
                  simp only [List.cons.injEq, ofNat_eq_iff hh hl, ih, List.flatMap_cons, digitValues,
                    List.map_cons, List.cons_append, List.nil_append, Option.some.injEq]
                  constructor
                  · rintro ⟨read, hread, ⟨hbyte, hbyte'⟩, rfl⟩
                    exact ⟨hbyte, hbyte', hread⟩
                  · rintro ⟨hbyte, hbyte', hread⟩
                    exact ⟨tail, hread, ⟨hbyte, hbyte'⟩, rfl⟩

/-! ## Which byte is at fault -/

/-- Whether a byte is the first one that is no digit, and stands at a position. -/
structure FirstBad (digits : List UInt8) (b : UInt8) (position : Nat) : Prop where
  stands : digits[position]? = some b
  not_digit : ¬ IsHexDigit b.toNat
  before : ∀ (i : Nat) (a : UInt8), i < position → digits[i]? = some a → IsHexDigit a.toNat

section

variable {first b : UInt8} {rest : List UInt8} {i : Nat}

theorem firstBad_of_not_digit (h : ¬ IsHexDigit first.toNat) :
    FirstBad (first :: rest) b i ↔ b = first ∧ i = 0 := by
  constructor
  · intro hbad
    cases i with
    | zero => exact ⟨(Option.some.inj hbad.stands).symm, rfl⟩
    | succ i => exact absurd (hbad.before 0 first (Nat.succ_pos i) rfl) h
  · rintro ⟨rfl, rfl⟩
    exact ⟨rfl, h, fun i a hi => absurd hi (Nat.not_lt_zero i)⟩

theorem firstBad_of_digit (h : IsHexDigit first.toNat) :
    FirstBad (first :: rest) b i ↔ ∃ j, i = j + 1 ∧ FirstBad rest b j := by
  constructor
  · intro hbad
    cases i with
    | zero =>
        obtain rfl : first = b := Option.some.inj hbad.stands
        exact absurd h hbad.not_digit
    | succ j =>
        refine ⟨j, rfl, hbad.stands, hbad.not_digit, ?_⟩
        intro k a hk ha
        exact hbad.before (k + 1) a (Nat.succ_lt_succ hk) ha
  · rintro ⟨j, rfl, hbad⟩
    refine ⟨hbad.stands, hbad.not_digit, ?_⟩
    intro k a hk ha
    cases k with
    | zero =>
        obtain rfl : first = a := Option.some.inj ha
        exact h
    | succ k => exact hbad.before k a (Nat.lt_of_succ_lt_succ hk) ha

end

/-- An even count of bytes is refused for the first one that is no digit. -/
theorem decodePairs_eq_error_iff {digits : List UInt8} {e : HexError} (position : Nat)
    (heven : digits.length % 2 = 0) :
    decodePairs position digits = .error e ↔
      ∃ b i, FirstBad digits b i ∧ e = .badDigit b (position + i) := by
  induction position, digits using decodePairs.induct with
  | case1 position =>
      constructor
      · intro h
        cases h
      · rintro ⟨b, i, hbad, -⟩
        cases hbad.stands
  | case2 position b => cases heven
  | case3 position high low rest ih =>
      cases hhigh : hexValue? high.toNat with
      | none =>
          have hnot := Text.hexValue?_eq_none_iff.mp hhigh
          simp only [decodePairs_of_not_digit_high hhigh, firstBad_of_not_digit hnot]
          constructor
          · intro h
            cases h
            exact ⟨high, 0, ⟨rfl, rfl⟩, rfl⟩
          · rintro ⟨b, i, ⟨rfl, rfl⟩, rfl⟩
            rfl
      | some h =>
          have hdigit := Text.exists_hexValue?_iff.mp ⟨h, hhigh⟩
          simp only [firstBad_of_digit hdigit]
          cases hlow : hexValue? low.toNat with
          | none =>
              have hnot := Text.hexValue?_eq_none_iff.mp hlow
              simp only [decodePairs_of_not_digit_low hhigh hlow, firstBad_of_not_digit hnot]
              constructor
              · intro h
                cases h
                exact ⟨low, 1, ⟨0, rfl, rfl, rfl⟩, rfl⟩
              · rintro ⟨b, i, ⟨j, rfl, rfl, rfl⟩, rfl⟩
                rfl
          | some l =>
              have hdigit' := Text.exists_hexValue?_iff.mp ⟨l, hlow⟩
              have hrest : rest.length % 2 = 0 := by
                simp only [List.length_cons] at heven
                omega
              simp only [decodePairs_of_digits hhigh hlow, map_eq_error_iff, ih hrest,
                firstBad_of_digit hdigit']
              constructor
              · rintro ⟨b, i, hbad, rfl⟩
                exact ⟨b, i + 2, ⟨i + 1, rfl, i, rfl, hbad⟩, congrArg (HexError.badDigit b) (by omega)⟩
              · rintro ⟨b, i, ⟨j, rfl, k, rfl, hbad⟩, rfl⟩
                exact ⟨b, k, hbad, congrArg (HexError.badDigit b) (by omega)⟩

/-! ## Characters in place of bytes -/

section

variable {text : String} {values : List Nat}

theorem exists_of_map_eq {α : Type} {value : α → Option Nat} {list : List α}
    (h : list.map value = values.map some) : ∀ a ∈ list, ∃ d, value a = some d := by
  intro a ha
  have hmem : value a ∈ values.map some := h ▸ List.mem_map_of_mem ha
  obtain ⟨d, -, hd⟩ := List.mem_map.mp hmem
  exact ⟨d, hd.symm⟩

/-- Bytes and characters are worth the same numbers, if all of either are digits. -/
theorem values_utf8_iff :
    (utf8 text).map (hexValue? ·.toNat) = values.map some ↔
      text.toList.map (hexValue? ·.toNat) = values.map some := by
  have hsame (hascii : Text.IsAscii text) :
      (utf8 text).map (hexValue? ·.toNat) = text.toList.map (hexValue? ·.toNat) := by
    rw [utf8_of_isAscii hascii, List.map_map]
    apply List.map_congr_left
    intro c hc
    exact congrArg hexValue? (toNat_byte hascii hc)
  -- Either side rules out what is beyond ASCII, the left one byte by byte.
  constructor
  · intro h
    have hascii : Text.IsAscii text := by
      apply isAscii_of_forall_mem_utf8
      intro b hb
      exact (Text.exists_hexValue?_iff.mp (exists_of_map_eq h b hb)).ascii
    rwa [hsame hascii] at h
  · intro h
    have hascii : Text.IsAscii text := by
      intro c hc
      exact (Text.exists_hexValue?_iff.mp (exists_of_map_eq h c hc)).ascii
    rwa [hsame hascii]

/-- Characters are worth the numbers whose digits they become when they are made small. -/
theorem map_toLower_eq_iff {list : List Char} (h : ∀ d ∈ values, d < 16) :
    list.map (hexValue? ·.toNat) = values.map some ↔
      list.map Char.toLower = values.map Nat.digitChar := by
  induction values generalizing list with
  | nil => simp
  | cons d values ih =>
      obtain ⟨hd, hvalues⟩ := List.forall_mem_cons.mp h
      cases list with
      | nil => simp
      | cons c list =>
          simp only [List.map_cons, List.cons.injEq, ih hvalues, Text.hexValue?_eq_some_iff hd]

end

theorem flatMap_byteDigits (bytes : List UInt8) :
    bytes.flatMap byteDigits = (bytes.flatMap digitValues).map Nat.digitChar := by
  rw [List.map_flatMap]
  rfl

theorem lt_of_mem_digitValues {bytes : List UInt8} : ∀ d ∈ bytes.flatMap digitValues, d < 16 := by
  intro d hd
  obtain ⟨b, -, hb⟩ := List.mem_flatMap.mp hd
  have hbyte := b.toNat_lt
  simp only [digitValues, List.mem_cons, List.not_mem_nil, or_false] at hb
  omega

/-- The characters of a text are worth what the digits of bytes are exactly if the text is the
written form of these bytes, apart from capitals. -/
theorem values_eq_iff {text : String} {bytes : List UInt8} :
    text.toList.map (hexValue? ·.toNat) = (bytes.flatMap digitValues).map some ↔
      Text.asciiLowercase text = encode bytes := by
  rw [map_toLower_eq_iff lt_of_mem_digitValues, ← flatMap_byteDigits, Text.asciiLowercase, encode,
    String.ofList_inj]

/-! ## Whole texts -/

section

variable {text : String} {bytes : List UInt8}

theorem decodePairs_utf8_eq_ok_iff :
    decodePairs 0 (utf8 text) = .ok bytes ↔ Text.asciiLowercase text = encode bytes := by
  rw [decodePairs_eq_ok_iff, values_utf8_iff, values_eq_iff]

/-- A text is read as the bytes for which it is written, apart from capitals. -/
theorem decode_eq_ok_iff : decode text = .ok bytes ↔ Text.asciiLowercase text = encode bytes := by
  rw [← decodePairs_utf8_eq_ok_iff, decode]
  by_cases hodd : (utf8 text).length % 2 = 1
  · rw [if_pos hodd]
    constructor
    · intro h
      cases h
    · intro h
      have hlength := length_of_decodePairs h
      omega
  · rw [if_neg hodd]

/-- Reading a fixed count of bytes, with the count apart from the bytes. -/
theorem map_toList_decodeExactly (width : Nat) :
    (decodeExactly width text).map Vector.toList =
      if (utf8 text).length % 2 = 1 then .error .oddLength
      else if (utf8 text).length / 2 = width then decodePairs 0 (utf8 text)
      else .error .wrongLength := by
  unfold decodeExactly
  by_cases hodd : (utf8 text).length % 2 = 1
  · simp only [if_pos hodd]
    rfl
  by_cases hwidth : (utf8 text).length / 2 = width
  · simp only [if_neg hodd, if_pos hwidth, dif_pos hwidth]
    split
    · rename_i hread
      exact hread.symm
    · rename_i hread
      exact hread.symm
  · simp only [if_neg hodd, if_neg hwidth, dif_neg hwidth]
    rfl

theorem decodeExactly_eq_ok_iff {width : Nat} {bytes : Vector UInt8 width} :
    decodeExactly width text = .ok bytes ↔ Text.asciiLowercase text = encode bytes.toList := by
  rw [← decodePairs_utf8_eq_ok_iff]
  have hread := @map_toList_decodeExactly text width
  constructor
  · intro h
    rw [h] at hread
    split at hread
    · cases hread
    split at hread
    · exact hread.symm
    · cases hread
  · intro h
    have hlength := length_of_decodePairs h
    rw [Vector.length_toList] at hlength
    rw [if_neg (by omega), if_pos (by omega), h] at hread
    obtain ⟨read, hok, hsame⟩ := map_eq_ok_iff.mp hread
    rwa [Vector.toList_inj.mp hsame] at hok

end

/-! ## Refusals -/

/-- Why a text with these bytes is refused, where a count of bytes may be wanted: for an odd
length, then for the wrong length, then for its first byte that is no digit. -/
inductive Refused (count : Option Nat) (digits : List UInt8) : HexError → Prop where
  | oddLength (hodd : digits.length % 2 = 1) : Refused count digits .oddLength
  | wrongLength {width : Nat} (heven : digits.length % 2 = 0) (hcount : count = some width)
      (hlength : digits.length ≠ 2 * width) : Refused count digits .wrongLength
  | badDigit {b : UInt8} {i : Nat} (heven : digits.length % 2 = 0)
      (hlength : ∀ width, count = some width → digits.length = 2 * width)
      (hbad : FirstBad digits b i) : Refused count digits (.badDigit b i)

section

variable {count : Option Nat} {digits : List UInt8} {text : String} {e : HexError}

theorem refused_of_odd (hodd : digits.length % 2 = 1) :
    Refused count digits e ↔ e = .oddLength := by
  constructor
  · intro h
    cases h with
    | oddLength => rfl
    | wrongLength heven => omega
    | badDigit heven => omega
  · rintro rfl
    exact .oddLength hodd

theorem refused_of_wrong_length {width : Nat} (heven : digits.length % 2 = 0)
    (hlength : digits.length ≠ 2 * width) :
    Refused (some width) digits e ↔ e = .wrongLength := by
  constructor
  · intro h
    cases h with
    | oddLength hodd => omega
    | wrongLength => rfl
    | badDigit _ hright => exact absurd (hright width rfl) hlength
  · rintro rfl
    exact .wrongLength heven rfl hlength

theorem refused_of_length (heven : digits.length % 2 = 0)
    (hlength : ∀ width, count = some width → digits.length = 2 * width) :
    Refused count digits e ↔ decodePairs 0 digits = .error e := by
  rw [decodePairs_eq_error_iff 0 heven]
  simp only [Nat.zero_add]
  constructor
  · intro h
    cases h with
    | oddLength hodd => omega
    | wrongLength _ hcount hwrong => exact absurd (hlength _ hcount) hwrong
    | badDigit _ _ hbad => exact ⟨_, _, hbad, rfl⟩
  · rintro ⟨b, i, hbad, rfl⟩
    exact .badDigit heven hlength hbad

theorem decode_eq_error_iff : decode text = .error e ↔ Refused none (utf8 text) e := by
  rw [decode]
  by_cases hodd : (utf8 text).length % 2 = 1
  · rw [if_pos hodd, refused_of_odd hodd, Except.error.injEq, eq_comm]
  · rw [if_neg hodd, refused_of_length (by omega)]
    intro width hcount
    cases hcount

theorem decodeExactly_eq_error_iff {width : Nat} :
    decodeExactly width text = .error e ↔ Refused (some width) (utf8 text) e := by
  rw [← map_eq_error_iff, map_toList_decodeExactly]
  by_cases hodd : (utf8 text).length % 2 = 1
  · rw [if_pos hodd, refused_of_odd hodd, Except.error.injEq, eq_comm]
  rw [if_neg hodd]
  by_cases hwidth : (utf8 text).length / 2 = width
  · rw [if_pos hwidth, refused_of_length (by omega)]
    intro _ hcount
    cases hcount
    omega
  · rw [if_neg hwidth, refused_of_wrong_length (by omega) (by omega), Except.error.injEq, eq_comm]

end

end ChainParams.Hex

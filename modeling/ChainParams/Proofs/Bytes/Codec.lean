import ChainParams.Proofs.Bytes.Decode
import ChainParams.Schema.Leaf

/-!
# Hexadecimal forms are exact

A value is written as the digits of its bytes, and read from nothing else than these digits in
either case.  What this comprises is said once (`IsExact`), and it follows from two facts about
a reader: which texts it reads as a value, and why it refuses the others (`IsExact.of_iff`).
Byte strings, byte strings of a fixed width and hashes, whose digits stand in the order opposite
to that of their bytes, are instances, and the leaves of a configuration file read and write
nothing but these forms.
-/

namespace ChainParams

open Text (hexValue? IsHexDigit)

namespace Hex

/-- Whether the two digits at a position, which is counted in pairs of digits, are worth a
byte. -/
def PairAt (text : String) (i : Nat) (b : UInt8) : Prop :=
  ∃ high low, text.toList[2 * i]? = some high ∧ text.toList[2 * i + 1]? = some low ∧
    hexValue? high.toNat = some (b.toNat / 16) ∧ hexValue? low.toNat = some (b.toNat % 16)

/-- Whether writing and reading are inverse to each other, between values that are made of bytes
and texts of digits of either case, for a fixed count of bytes or for any.  Here `inOrder` gives
the bytes of a value in the order of their digits. -/
structure IsExact {α : Type} (count : Option Nat) (inOrder : α → List UInt8)
    (write : α → String) (read : String → Except HexError α) : Prop where
  read_write : ∀ a, read (write a) = .ok a
  write_read : ∀ text a, read text = .ok a → write a = Text.asciiLowercase text
  accepts : ∀ text, (∃ a, read text = .ok a) ↔
    (∀ c ∈ text.toList, IsHexDigit c.toNat) ∧ text.length % 2 = 0 ∧
      ∀ width, count = some width → text.length = 2 * width
  pairs : ∀ text a, read text = .ok a →
    ∀ (i : Nat) (hi : i < (inOrder a).length), PairAt text i (inOrder a)[i]
  refuses : ∀ text e, read text = .error e ↔ Refused count (utf8 text) e

/-! ## Texts that are read -/

section

variable {text : String} {bytes : List UInt8}

theorem forall_isHexDigit (h : Text.asciiLowercase text = encode bytes) :
    ∀ c ∈ text.toList, IsHexDigit c.toNat := by
  intro c hc
  exact Text.exists_hexValue?_iff.mp (exists_of_map_eq (values_eq_iff.mpr h) c hc)

theorem length_flatMap_digitValues (bytes : List UInt8) :
    (bytes.flatMap digitValues).length = 2 * bytes.length := by
  induction bytes with
  | nil => rfl
  | cons b rest ih =>
      rw [List.flatMap_cons, List.length_append, ih, List.length_cons]
      simp only [digitValues, List.length_cons, List.length_nil]
      omega

theorem length_of_asciiLowercase (h : Text.asciiLowercase text = encode bytes) :
    text.length = 2 * bytes.length := by
  have hlength := congrArg List.length (values_eq_iff.mpr h)
  rwa [List.length_map, List.length_map, String.length_toList, length_flatMap_digitValues] at hlength

theorem getElem?_flatMap_digitValues (bytes : List UInt8) (i : Nat) (hi : i < bytes.length) :
    (bytes.flatMap digitValues)[2 * i]? = some (bytes[i].toNat / 16) ∧
      (bytes.flatMap digitValues)[2 * i + 1]? = some (bytes[i].toNat % 16) := by
  induction bytes generalizing i with
  | nil => cases hi
  | cons b rest ih =>
      cases i with
      | zero => exact ⟨rfl, rfl⟩
      | succ i => exact ih i (Nat.lt_of_succ_lt_succ hi)

theorem pairAt_of_asciiLowercase (h : Text.asciiLowercase text = encode bytes) (i : Nat)
    (hi : i < bytes.length) : PairAt text i bytes[i] := by
  have hvalues := values_eq_iff.mpr h
  obtain ⟨hhigh, hlow⟩ := getElem?_flatMap_digitValues bytes i hi
  have hat : ∀ j d : Nat, (bytes.flatMap digitValues)[j]? = some d →
      ∃ c : Char, text.toList[j]? = some c ∧ hexValue? c.toNat = some d := by
    intro j d hd
    have hj := congrArg (·[j]?) hvalues
    simp only [List.getElem?_map, hd, Option.map_some, Option.map_eq_some_iff] at hj
    exact hj
  obtain ⟨high, hhigh, hvalue⟩ := hat _ _ hhigh
  obtain ⟨low, hlow, hvalue'⟩ := hat _ _ hlow
  exact ⟨high, low, hhigh, hlow, hvalue, hvalue'⟩

end

/-- A text of the right count of digits is not refused. -/
theorem not_refused {count : Option Nat} {text : String} {e : HexError}
    (hdigits : ∀ c ∈ text.toList, IsHexDigit c.toNat) (heven : text.length % 2 = 0)
    (hcount : ∀ width, count = some width → text.length = 2 * width) :
    ¬ Refused count (utf8 text) e := by
  have hascii : Text.IsAscii text := fun c hc => (hdigits c hc).ascii
  have hlength : (utf8 text).length = text.length := by
    rw [utf8_of_isAscii hascii, List.length_map, String.length_toList]
  intro h
  cases h with
  | oddLength hodd => omega
  | wrongLength _ hwidth hwrong =>
      have hright := hcount _ hwidth
      omega
  | badDigit _ _ hbad =>
      have hmem := List.mem_of_getElem? hbad.stands
      exact hbad.not_digit ((forall_mem_utf8_iff hascii IsHexDigit).mpr hdigits _ hmem)

theorem IsExact.of_iff {α : Type} {count : Option Nat} {inOrder : α → List UInt8}
    {write : α → String} {read : String → Except HexError α}
    (hwrite : ∀ a, write a = encode (inOrder a))
    (hcount : ∀ a width, count = some width → (inOrder a).length = width)
    (hread : ∀ text a, read text = .ok a ↔ Text.asciiLowercase text = encode (inOrder a))
    (hrefuse : ∀ text e, read text = .error e ↔ Refused count (utf8 text) e) :
    IsExact count inOrder write read where
  read_write a := by
    rw [hread, hwrite]
    exact decode_eq_ok_iff.mp (decode_encode (inOrder a))
  write_read text a h := by rw [hwrite, (hread text a).mp h]
  accepts text := by
    constructor
    · rintro ⟨a, ha⟩
      have hsmall := (hread text a).mp ha
      have hlength := length_of_asciiLowercase hsmall
      refine ⟨forall_isHexDigit hsmall, by omega, ?_⟩
      intro width hwidth
      rw [hlength, hcount a width hwidth]
    · rintro ⟨hdigits, heven, hlength⟩
      cases hvalue : read text with
      | ok a => exact ⟨a, rfl⟩
      | error e => exact absurd ((hrefuse text e).mp hvalue) (not_refused hdigits heven hlength)
  pairs text a h := pairAt_of_asciiLowercase ((hread text a).mp h)
  refuses := hrefuse

/-! ## The forms -/

theorem isExact_decode : IsExact none id encode decode :=
  .of_iff (fun _ => rfl) (fun _ _ h => by cases h) (fun _ _ => decode_eq_ok_iff)
    (fun _ _ => decode_eq_error_iff)

theorem isExact_decodeExactly (width : Nat) :
    IsExact (some width) Vector.toList (fun bytes => encode bytes.toList) (decodeExactly width) := by
  apply IsExact.of_iff
  · intro bytes
    rfl
  · intro bytes _ hwidth
    cases hwidth
    exact bytes.length_toList
  · exact fun _ _ => decodeExactly_eq_ok_iff
  · exact fun _ _ => decodeExactly_eq_error_iff

end Hex

namespace Hash

/-- The bytes of a hash in the order in which they are displayed. -/
def displayed (h : Hash) : List UInt8 := h.bytes.reverse.toList

theorem ofHex_eq_map (text : String) :
    ofHex text = (Hex.decodeExactly 32 text).map fun bytes => ⟨bytes.reverse⟩ := by
  unfold ofHex
  cases Hex.decodeExactly 32 text <;> rfl

/-- A text is read as the hash that it displays, apart from capitals. -/
theorem ofHex_eq_ok_iff {text : String} {h : Hash} :
    ofHex text = .ok h ↔ Text.asciiLowercase text = Hex.encode h.displayed := by
  rw [displayed, ← Hex.decodeExactly_eq_ok_iff, ofHex_eq_map, map_eq_ok_iff]
  constructor
  · rintro ⟨bytes, hread, rfl⟩
    rwa [Vector.reverse_reverse]
  · intro hread
    exact ⟨h.bytes.reverse, hread, by rw [Vector.reverse_reverse]⟩

theorem isExact_ofHex : Hex.IsExact (some 32) displayed toHex ofHex := by
  apply Hex.IsExact.of_iff
  · intro h
    rfl
  · intro h _ hwidth
    cases hwidth
    exact Vector.length_toList
  · exact fun _ _ => ofHex_eq_ok_iff
  · intro text e
    rw [ofHex_eq_map, map_eq_error_iff, Hex.decodeExactly_eq_error_iff]

/-- The first byte of a hash is displayed last. -/
theorem pairAt_of_ofHex {text : String} {h : Hash} (hread : ofHex text = .ok h) (i : Nat)
    (hi : i < 32) : Hex.PairAt text (31 - i) h.bytes[i] := by
  have hlength : h.displayed.length = 32 := Vector.length_toList
  have hpair := isExact_ofHex.pairs text h hread (31 - i) (by omega)
  have hbyte : h.displayed[31 - i] = h.bytes[i] := by
    unfold displayed
    rw [Vector.getElem_toList, Vector.getElem_reverse]
    congr 1
    omega
  rwa [hbyte] at hpair

end Hash

/-! ## Leaves of a configuration file -/

theorem eq_ofText_of_readText {j : Json} {text : String} (h : readText j = .ok text) :
    j = .ofText text := by
  unfold readText at h
  split at h
  · obtain rfl := Except.ok.inj h
    rfl
  · cases h

section

variable {α : Type} {read : String → Except HexError α}

theorem readHex_ofText (text : String) :
    readHex read (.ofText text) = (read text).mapError fun e => .data (.badHex e) := by
  simp only [readHex, readText, Json.ofText, bind, Except.bind]
  cases read text <;> rfl

theorem readHex_eq_ok_iff {j : Json} {a : α} :
    readHex read j = .ok a ↔ ∃ text, j = .ofText text ∧ read text = .ok a := by
  constructor
  · intro h
    obtain ⟨text, htext, -⟩ := exists_of_bind_eq_ok h
    obtain rfl := eq_ofText_of_readText htext
    rw [readHex_ofText, mapError_eq_ok_iff] at h
    exact ⟨text, rfl, h⟩
  · rintro ⟨text, rfl, hread⟩
    rwa [readHex_ofText, mapError_eq_ok_iff]

theorem readHex_ofText_eq_error_iff {text : String} {fault : Json.Fault} :
    readHex read (.ofText text) = .error fault ↔
      ∃ e, read text = .error e ∧ fault = .data (.badHex e) := by
  rw [readHex_ofText, mapError_eq_error_iff]

end

/-- Whether a leaf is a string that holds the hexadecimal form of its value and nothing else, with
the refusals of that form for its own. -/
structure Kind.IsHexText (kind : Kind) (write : kind.Value → String)
    (read : String → Except HexError kind.Value) : Prop where
  write_eq : ∀ a, kind.write a = .ofText (write a)
  read_eq_ok_iff : ∀ j a, kind.read j = .ok a ↔ ∃ text, j = .ofText text ∧ read text = .ok a
  read_eq_error_iff : ∀ text fault, kind.read (.ofText text) = .error fault ↔
    ∃ e, read text = .error e ∧ fault = .data (.badHex e)

theorem Kind.isHexText_hash : Kind.hash.IsHexText Hash.toHex Hash.ofHex :=
  ⟨fun _ => rfl, fun _ _ => readHex_eq_ok_iff, fun _ _ => readHex_ofText_eq_error_iff⟩

theorem Kind.isHexText_bytes : Kind.bytes.IsHexText Hex.encode Hex.decode :=
  ⟨fun _ => rfl, fun _ _ => readHex_eq_ok_iff, fun _ _ => readHex_ofText_eq_error_iff⟩

theorem Kind.isHexText_bytes4 :
    Kind.bytes4.IsHexText (fun bytes : Vector UInt8 4 => Hex.encode bytes.toList)
      (Hex.decodeExactly 4) :=
  ⟨fun _ => rfl, fun _ _ => readHex_eq_ok_iff, fun _ _ => readHex_ofText_eq_error_iff⟩

/-- Hashes, byte strings and byte strings of any fixed width are written and read exactly, a hash
with its last byte first, and in a configuration file nothing but these texts stands for
them. -/
theorem hexForms_exact :
    (Hex.IsExact (some 32) Hash.displayed Hash.toHex Hash.ofHex ∧
      ∀ text h, Hash.ofHex text = .ok h →
        ∀ (i : Nat) (hi : i < 32), Hex.PairAt text (31 - i) h.bytes[i]) ∧
    Hex.IsExact none id Hex.encode Hex.decode ∧
    (∀ width, Hex.IsExact (some width) Vector.toList (fun bytes => Hex.encode bytes.toList)
      (Hex.decodeExactly width)) ∧
    Kind.hash.IsHexText Hash.toHex Hash.ofHex ∧
    Kind.bytes.IsHexText Hex.encode Hex.decode ∧
    Kind.bytes4.IsHexText (fun bytes : Vector UInt8 4 => Hex.encode bytes.toList)
      (Hex.decodeExactly 4) :=
  ⟨⟨Hash.isExact_ofHex, fun _ _ => Hash.pairAt_of_ofHex⟩, Hex.isExact_decode,
    Hex.isExact_decodeExactly, Kind.isHexText_hash, Kind.isHexText_bytes, Kind.isHexText_bytes4⟩

/-- The first hash that the main network pins, as it is displayed. -/
def pinnedHash : String := "000000003b01809551952460744d5dbb8fcbd6cbae3c220267bf7fa43f837367"

/-- The last two digits of a displayed hash are its first byte, capital digits come back small,
and a character of two bytes is refused for the first of them. -/
theorem pinnedHash_exact :
    Hash.ofHex pinnedHash =
      .ok (.ofNat 0x3b01809551952460744d5dbb8fcbd6cbae3c220267bf7fa43f837367) ∧
    Hex.PairAt pinnedHash 31 0x67 ∧
    Hex.decode "Ab0F" = .ok [0xab, 0x0f] ∧ Hex.encode [0xab, 0x0f] = "ab0f" ∧
    Hex.decodeExactly 2 "0é0" = .error (.badDigit 0xc3 1) := by
  obtain ⟨⟨-, hplaces⟩, hbytes, hfixed, -⟩ := hexForms_exact
  have hhash : Hash.ofHex pinnedHash =
      .ok (.ofNat 0x3b01809551952460744d5dbb8fcbd6cbae3c220267bf7fa43f837367) :=
    Hash.ofHex_eq_ok_iff.mpr (by decide +kernel)
  have hread : Hex.decode "Ab0F" = .ok [0xab, 0x0f] := by rfl
  refine ⟨hhash, hplaces _ _ hhash 0 (by decide), hread, hbytes.write_read _ _ hread, ?_⟩
  have hbad : Hex.FirstBad (utf8 "0é0") 0xc3 1 := by
    refine ⟨by decide, by decide, ?_⟩
    intro i a hi ha
    obtain rfl : i = 0 := by omega
    obtain rfl : 0x30 = a := Option.some.inj ha
    decide
  refine ((hfixed 2).refuses _ _).mpr (.badDigit (by decide) ?_ hbad)
  intro width hwidth
  cases hwidth
  decide

end ChainParams

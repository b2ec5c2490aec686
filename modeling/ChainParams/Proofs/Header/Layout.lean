import ChainParams.Genesis
import ChainParams.Proofs.Bytes.LittleEndian
import Mathlib.Logic.Function.Defs

/-!
# The layout of a header

The 80 bytes of a header are six parts of fixed width that follow one another without a gap
(`Part.exists_holds`) and without an overlap (`Part.eq_of_holds`).  A part of the bytes says what
the field of this part is, and says nothing about the others (`Part.slice_eq_iff_same`).  The
fields can be read back from any 80 bytes (`ofBytes`), which makes laying out a bijection
(`bijective_toBytes`).
-/

namespace ChainParams.Header

/-- The parts of the layout of a header, in their order. -/
inductive Part where
  | version
  | previous
  | merkleRoot
  | timestamp
  | bits
  | nonce
  deriving DecidableEq

namespace Part

/-- The position of the first byte of a part. -/
def start : Part → Nat
  | version => 0
  | previous => 4
  | merkleRoot => 36
  | timestamp => 68
  | bits => 72
  | nonce => 76

/-- The number of bytes of a part. -/
def width : Part → Nat
  | previous | merkleRoot => 32
  | version | timestamp | bits | nonce => 4

/-- A position lies in a part. -/
def Holds (part : Part) (i : Nat) : Prop := part.start ≤ i ∧ i < part.start + part.width

/-- The bytes of a part. -/
def slice (part : Part) (bytes : Vector UInt8 80) : List UInt8 :=
  (bytes.toList.drop part.start).take part.width

/-- The bytes by which a header is laid out in a part. -/
def stored : Part → Header → List UInt8
  | version, h => (littleEndian 4 h.version.toUInt32.toNat).toList
  | previous, h => h.previous.bytes.toList
  | merkleRoot, h => h.merkleRoot.bytes.toList
  | timestamp, h => (littleEndian 4 h.timestamp.toNat).toList
  | bits, h => (littleEndian 4 h.bits.code.toNat).toList
  | nonce, h => (littleEndian 4 h.nonce.toNat).toList

/-- Two headers agree in the field of a part. -/
def Same : Part → Header → Header → Prop
  | version, a, b => a.version = b.version
  | previous, a, b => a.previous = b.previous
  | merkleRoot, a, b => a.merkleRoot = b.merkleRoot
  | timestamp, a, b => a.timestamp = b.timestamp
  | bits, a, b => a.bits = b.bits
  | nonce, a, b => a.nonce = b.nonce

/-! ### Positions -/

theorem exists_holds {i : Nat} (hi : i < 80) : ∃ part : Part, part.Holds i := by
  have hpart : version.Holds i ∨ previous.Holds i ∨ merkleRoot.Holds i ∨ timestamp.Holds i ∨
      bits.Holds i ∨ nonce.Holds i := by
    simp only [Holds, start, width]
    omega
  rcases hpart with h | h | h | h | h | h
  all_goals exact ⟨_, h⟩

theorem eq_of_holds {part other : Part} {i : Nat} (hpart : part.Holds i) (hother : other.Holds i) :
    other = part := by
  cases part <;> cases other <;> simp only [Holds, start, width] at hpart hother <;>
    first | rfl | omega

/-- A part of the bytes is told by the bytes at the positions in it. -/
theorem slice_eq_iff {part : Part} {bytes bytes' : Vector UInt8 80} :
    part.slice bytes = part.slice bytes' ↔
      ∀ i (_ : i < 80), part.Holds i → bytes[i] = bytes'[i] := by
  have hget (bytes : Vector UInt8 80) (k : Nat) :
      (part.slice bytes)[k]? = if k < part.width then bytes[part.start + k]? else none := by
    rw [slice, List.getElem?_take, List.getElem?_drop, Vector.getElem?_toList]
  constructor
  · intro h i hi hholds
    have hk := congrArg (·[i - part.start]?) h
    have hwidth : i - part.start < part.width := by
      have := hholds.1
      have := hholds.2
      omega
    have hplace : part.start + (i - part.start) = i := Nat.add_sub_cancel' hholds.1
    simpa [hget, hwidth, hplace, hi] using hk
  · intro h
    apply List.ext_getElem?
    intro k
    rw [hget, hget]
    split
    · rename_i hk
      have hi : part.start + k < 80 := by
        cases part <;> simp only [start, width] at hk ⊢ <;> omega
      rw [Vector.getElem?_eq_getElem hi, Vector.getElem?_eq_getElem hi,
        h _ hi ⟨Nat.le_add_right _ _, Nat.add_lt_add_left hk _⟩]
    · rfl

/-! ### Fields -/

/-- A field is told by the bytes by which it is laid out. -/
theorem stored_eq_iff {part : Part} {a b : Header} :
    part.stored a = part.stored b ↔ part.Same a b := by
  have hword {v w : UInt32} :
      (littleEndian 4 v.toNat).toList = (littleEndian 4 w.toNat).toList ↔ v = w :=
    Vector.toList_inj.trans littleEndian_word_inj
  cases part with
  | version =>
      refine hword.trans ⟨fun h => ?_, congrArg Int32.toUInt32⟩
      have hversion := congrArg UInt32.toInt32 h
      rwa [Int32.toInt32_toUInt32, Int32.toInt32_toUInt32] at hversion
  | previous => exact Vector.toList_inj.trans ⟨congrArg Hash.mk, congrArg Hash.bytes⟩
  | merkleRoot => exact Vector.toList_inj.trans ⟨congrArg Hash.mk, congrArg Hash.bytes⟩
  | timestamp => exact hword
  | bits => exact hword.trans ⟨congrArg Compact.mk, congrArg Compact.code⟩
  | nonce => exact hword

theorem length_stored (part : Part) (h : Header) : (part.stored h).length = part.width := by
  cases part <;> exact Vector.length_toList

end Part

/-- The parts of a header follow one another. -/
theorem toList_toBytes (h : Header) :
    h.toBytes.toList = Part.stored .version h ++ (Part.stored .previous h ++
      (Part.stored .merkleRoot h ++ (Part.stored .timestamp h ++ (Part.stored .bits h ++
        Part.stored .nonce h)))) := by
  have happend {n m : Nat} (front : Vector UInt8 n) (back : Vector UInt8 m) :
      (front ++ back).toList = front.toList ++ back.toList := Vector.toList_append
  refine (happend _ _).trans ?_
  simp only [happend, List.append_assoc]
  rfl

theorem slice_toBytes (part : Part) (h : Header) : part.slice h.toBytes = part.stored h := by
  rw [Part.slice, toList_toBytes]
  cases part <;> simp [Part.start, Part.width, Part.length_stored, List.drop_append,
    List.drop_of_length_le, List.take_of_length_le]

/-- Two headers agree in a field exactly if their layouts agree in its part. -/
theorem Part.slice_eq_iff_same {part : Part} {a b : Header} :
    part.slice a.toBytes = part.slice b.toBytes ↔ part.Same a b := by
  rw [slice_toBytes, slice_toBytes, stored_eq_iff]

theorem ext {a b : Header} (h : ∀ part : Part, part.Same a b) : a = b := by
  obtain ⟨version, previous, merkleRoot, timestamp, bits, nonce⟩ := a
  obtain rfl : version = b.version := h .version
  obtain rfl : previous = b.previous := h .previous
  obtain rfl : merkleRoot = b.merkleRoot := h .merkleRoot
  obtain rfl : timestamp = b.timestamp := h .timestamp
  obtain rfl : bits = b.bits := h .bits
  obtain rfl : nonce = b.nonce := h .nonce
  rfl

theorem toBytes_injective : Function.Injective toBytes := by
  intro a b h
  apply ext
  intro part
  rw [← Part.slice_eq_iff_same, h]

/-! ### Reading back -/

/-- The header that is laid out as the given bytes. -/
def ofBytes (bytes : Vector UInt8 80) : Header where
  version := (wordOf (bytes.extract 0 4)).toInt32
  previous := ⟨bytes.extract 4 36⟩
  merkleRoot := ⟨bytes.extract 36 68⟩
  timestamp := wordOf (bytes.extract 68 72)
  bits := ⟨wordOf (bytes.extract 72 76)⟩
  nonce := wordOf (bytes.extract 76 80)

theorem stored_ofBytes (part : Part) (bytes : Vector UInt8 80) :
    part.stored (ofBytes bytes) = part.slice bytes := by
  have hextract (start stop : Nat) :
      (bytes.extract start stop).toList = (bytes.toList.drop start).take (stop - start) :=
    Vector.toList_extract
  have hword (start : Nat) (word : Vector UInt8 4)
      (h : word.toList = (bytes.toList.drop start).take 4) :
      (littleEndian 4 (wordOf word).toNat).toList = (bytes.toList.drop start).take 4 := by
    rw [littleEndian_wordOf, h]
  cases part with
  | version =>
      change (littleEndian 4 (wordOf _).toInt32.toUInt32.toNat).toList = _
      rw [UInt32.toUInt32_toInt32]
      exact hword 0 _ (hextract 0 4)
  | previous => exact hextract 4 36
  | merkleRoot => exact hextract 36 68
  | timestamp => exact hword 68 _ (hextract 68 72)
  | bits => exact hword 72 _ (hextract 72 76)
  | nonce => exact hword 76 _ (hextract 76 80)

theorem toBytes_ofBytes (bytes : Vector UInt8 80) : (ofBytes bytes).toBytes = bytes := by
  apply Vector.ext
  intro i hi
  obtain ⟨part, hpart⟩ := Part.exists_holds hi
  have hslice : part.slice (ofBytes bytes).toBytes = part.slice bytes := by
    rw [slice_toBytes, stored_ofBytes]
  exact Part.slice_eq_iff.mp hslice i hi hpart

/-- Different headers have different layouts, and any 80 bytes are the layout of a header. -/
theorem bijective_toBytes : Function.Bijective toBytes :=
  ⟨toBytes_injective, fun bytes => ⟨ofBytes bytes, toBytes_ofBytes bytes⟩⟩

/-! ### What stands where -/

/-- The bytes are the fields of the header one after another: the version in two's complement,
hashes in internal order, and every number least significant byte first. -/
structure IsLayout (h : Header) (bytes : Vector UInt8 80) : Prop where
  version : (ofLittleEndian (bytes.toList.take 4) : Int) = h.version.toInt % 0x100000000
  previous : (bytes.toList.drop 4).take 32 = h.previous.bytes.toList
  merkleRoot : (bytes.toList.drop 36).take 32 = h.merkleRoot.bytes.toList
  timestamp : ofLittleEndian ((bytes.toList.drop 68).take 4) = h.timestamp.toNat
  bits : ofLittleEndian ((bytes.toList.drop 72).take 4) = h.bits.code.toNat
  nonce : ofLittleEndian ((bytes.toList.drop 76).take 4) = h.nonce.toNat

theorem isLayout_toBytes (h : Header) : h.IsLayout h.toBytes where
  version := by
    have hslice := congrArg ofLittleEndian (slice_toBytes .version h)
    rw [Part.stored, ofLittleEndian_word] at hslice
    have hbound := h.version.toUInt32.toNat_lt
    have hsigned : h.version.toInt = Int.bmod h.version.toUInt32.toNat 0x100000000 :=
      BitVec.toInt_eq_toNat_bmod h.version.toBitVec
    calc (ofLittleEndian (h.toBytes.toList.take 4) : Int)
        = h.version.toUInt32.toNat := congrArg Int.ofNat hslice
      _ = (h.version.toUInt32.toNat : Int) % 0x100000000 := by omega
      _ = h.version.toInt % 0x100000000 := hsigned ▸ Int.bmod_emod.symm
  previous := slice_toBytes .previous h
  merkleRoot := slice_toBytes .merkleRoot h
  timestamp := (congrArg ofLittleEndian (slice_toBytes .timestamp h)).trans (ofLittleEndian_word _)
  bits := (congrArg ofLittleEndian (slice_toBytes .bits h)).trans (ofLittleEndian_word _)
  nonce := (congrArg ofLittleEndian (slice_toBytes .nonce h)).trans (ofLittleEndian_word _)

end ChainParams.Header

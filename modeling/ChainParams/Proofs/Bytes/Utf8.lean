import ChainParams.Bytes
import ChainParams.Proofs.Text.Lowercase

/-!
# Bytes and characters

An ASCII character is its own byte, and every other character has a byte beyond ASCII.  So
a text whose bytes are all ASCII is an ASCII text, and on such a text a rule about code
points says the same of the bytes and of the characters.
-/

namespace ChainParams

/-- The last byte of a character beyond ASCII is beyond ASCII. -/
theorem mem_utf8EncodeChar_of_not_ascii {c : Char} (h : 0x80 ≤ c.toNat) :
    UInt8.ofNat (c.toNat % 0x40 + 0x80) ∈ String.utf8EncodeChar c := by
  have hfirst : ¬ c.val.toNat ≤ 0x7f := Nat.not_le.mpr h
  have hcode : c.toNat = c.val.toNat := rfl
  rw [hcode, String.utf8EncodeChar]
  rw [if_neg hfirst]
  split
  · simp
  · split <;> simp

theorem isAscii_of_forall_mem_utf8 {text : String} (h : ∀ b ∈ utf8 text, b.toNat < 0x80) :
    Text.IsAscii text := by
  intro c hc
  rcases Nat.lt_or_ge c.toNat 0x80 with hascii | hbeyond
  · exact hascii
  · have hlast := mem_utf8EncodeChar_of_not_ascii hbeyond
    have hbyte := h _ (List.mem_flatMap.mpr ⟨c, hc, hlast⟩)
    rw [UInt8.toNat_ofNat'] at hbyte
    omega

theorem utf8_of_isAscii {text : String} (h : Text.IsAscii text) :
    utf8 text = text.toList.map fun c => UInt8.ofNat c.toNat := by
  have hsingle : ∀ c ∈ text.toList, String.utf8EncodeChar c = [UInt8.ofNat c.toNat] := by
    intro c hc
    have hsize : c.utf8Size = 1 :=
      Char.utf8Size_eq_one_iff.mpr (UInt32.le_iff_toNat_le.mpr (Nat.le_of_lt_succ (h c hc)))
    exact String.utf8EncodeChar_eq_singleton hsize
  rw [utf8, List.flatMap_def, List.map_congr_left hsingle, ← List.flatMap_def, List.map_eq_flatMap]

section

variable {text : String} (h : Text.IsAscii text)

include h

theorem toNat_byte {c : Char} (hc : c ∈ text.toList) :
    (UInt8.ofNat c.toNat).toNat = c.toNat := by
  have hascii := h c hc
  rw [UInt8.toNat_ofNat']
  omega

theorem forall_mem_utf8_iff (P : Nat → Prop) :
    (∀ b ∈ utf8 text, P b.toNat) ↔ ∀ c ∈ text.toList, P c.toNat := by
  rw [utf8_of_isAscii h, List.forall_mem_map]
  refine forall₂_congr fun c hc => ?_
  rw [toNat_byte h hc]

theorem exists_mem_utf8_iff (P : Nat → Prop) :
    (∃ b ∈ utf8 text, P b.toNat) ↔ ∃ c ∈ text.toList, P c.toNat := by
  rw [utf8_of_isAscii h]
  constructor
  · rintro ⟨b, hb, hP⟩
    obtain ⟨c, hc, rfl⟩ := List.mem_map.mp hb
    rw [toNat_byte h hc] at hP
    exact ⟨c, hc, hP⟩
  · rintro ⟨c, hc, hP⟩
    rw [← toNat_byte h hc] at hP
    exact ⟨_, List.mem_map_of_mem hc, hP⟩

end

end ChainParams

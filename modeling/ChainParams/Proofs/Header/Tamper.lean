import ChainParams.Known
import ChainParams.Proofs.Header.Layout
import Mathlib.Algebra.Group.Nat.Defs

/-!
# Tampering with a header

An anchor keeps the digest of its header.  Nothing is known here of the hash function, so what a
digest tells of a header is told from the layout: laying out is injective, and so another header
under the same digest is a collision of the hash function (`verify_replace_iff`).  A flipped bit
of a layout stays within the part that holds it, and is one field of another header
(`toBytes_eq_flipBit`).
-/

namespace ChainParams

/-- Two different sequences of bytes that double SHA-256 does not tell apart. -/
def Collides (a b : List UInt8) : Prop := a ≠ b ∧ doubleSha256 a = doubleSha256 b

namespace Genesis

theorem verify_eq_ok_iff {g : Genesis} {network : String} :
    g.verify network = .ok () ↔ g.header.digest = g.headerDigest := by
  unfold verify
  split
  · exact iff_of_true rfl ‹_›
  · exact iff_of_false nofun ‹_›

theorem verify_replace_eq_ok_iff {g : Genesis} {h : Header} {network : String} :
    ({ g with header := h } : Genesis).verify network = .ok () ↔ h.digest = g.headerDigest :=
  verify_eq_ok_iff

/-- A header under the digest of another one is this one, or collides with it. -/
theorem verify_replace_iff {g : Genesis} {h : Header} {network network' : String}
    (hverify : g.verify network = .ok ()) :
    ({ g with header := h } : Genesis).verify network' = .ok () ↔
      h = g.header ∨ Collides h.toBytes.toList g.header.toBytes.toList := by
  rw [verify_replace_eq_ok_iff, ← verify_eq_ok_iff.mp hverify]
  constructor
  · intro hsame
    by_cases heq : h = g.header
    · exact .inl heq
    · refine .inr ⟨?_, hsame⟩
      intro hbytes
      exact heq (Header.toBytes_injective (Vector.toList_inj.mp hbytes))
  · rintro (rfl | ⟨-, hsame⟩)
    · rfl
    · exact hsame

end Genesis

namespace Header

/-- The bytes with one bit of the byte at a position flipped. -/
def flipBit (bytes : Vector UInt8 80) (i : Fin 80) (bit : Fin 8) : Vector UInt8 80 :=
  bytes.set i (bytes[i] ^^^ (1 <<< UInt8.ofNat bit))

theorem getElem_flipBit_self (bytes : Vector UInt8 80) (i : Fin 80) (bit : Fin 8) :
    (flipBit bytes i bit)[i] ≠ bytes[i] := by
  have hmask : ∀ bit : Fin 8, (1 : UInt8) <<< UInt8.ofNat bit ≠ 0 := by decide
  intro h
  have hset : (flipBit bytes i bit)[i] = bytes[i] ^^^ (1 <<< UInt8.ofNat bit) :=
    Vector.getElem_set_self _
  rw [hset] at h
  exact hmask bit ((UInt8.xor_right_inj _).mp (h.trans UInt8.xor_zero.symm))

theorem getElem_flipBit_of_ne (bytes : Vector UInt8 80) {i : Fin 80} (bit : Fin 8) {j : Nat}
    (hj : j < 80) (h : i.val ≠ j) : (flipBit bytes i bit)[j] = bytes[j] :=
  Vector.getElem_set_ne _ _ h

/-- A layout with a flipped bit is the layout of a header that differs in the field to which the
bit belongs, and in no other. -/
theorem toBytes_eq_flipBit {h other : Header} {i : Fin 80} {bit : Fin 8} {part : Part}
    (hbytes : other.toBytes = flipBit h.toBytes i bit) (hpart : part.Holds i) (p : Part) :
    p.Same h other ↔ p ≠ part := by
  rw [← Part.slice_eq_iff_same, hbytes, Part.slice_eq_iff]
  constructor
  · rintro hsame rfl
    exact getElem_flipBit_self h.toBytes i bit (hsame i i.isLt hpart).symm
  · intro hne j hj hholds
    refine (getElem_flipBit_of_ne h.toBytes bit hj ?_).symm
    rintro rfl
    exact hne (Part.eq_of_holds hpart hholds)

end Header

namespace Genesis

/-- Laying out a header is a bijection onto the sequences of 80 bytes.  So another header under
the digest of an anchor is a collision, and each flipped bit gives one other header, with one
other field. -/
theorem header_binding :
    Function.Bijective Header.toBytes ∧ (∀ h : Header, h.IsLayout h.toBytes) ∧
      (∀ (g : Genesis) (h : Header) (network network' : String),
        g.verify network = .ok () →
          (({ g with header := h } : Genesis).verify network' = .ok () ↔
            h = g.header ∨ Collides h.toBytes.toList g.header.toBytes.toList)) ∧
      ∀ (h : Header) (i : Fin 80) (bit : Fin 8),
        ∃ other : Header, other.toBytes = Header.flipBit h.toBytes i bit ∧
          (∀ another : Header, another.toBytes = Header.flipBit h.toBytes i bit →
            another = other) ∧
          other ≠ h ∧
          ∃ part : Header.Part, part.Holds i ∧ ∀ p : Header.Part, p.Same h other ↔ p ≠ part := by
  refine ⟨Header.bijective_toBytes, Header.isLayout_toBytes, ?_, ?_⟩
  · intro g h network network' hverify
    exact verify_replace_iff hverify
  · intro h i bit
    obtain ⟨other, hother⟩ := Header.bijective_toBytes.2 (Header.flipBit h.toBytes i bit)
    obtain ⟨part, hpart⟩ := Header.Part.exists_holds i.isLt
    refine ⟨other, hother, ?_, ?_, part, hpart, Header.toBytes_eq_flipBit hother hpart⟩
    · intro another hanother
      exact Header.toBytes_injective (hanother.trans hother.symm)
    · rintro rfl
      exact Header.getElem_flipBit_self other.toBytes i bit (by rw [← hother])

/-- The header of the main network with a negative version is not taken for the header of the
main network, and so it does not collide with it. -/
theorem negative_header_binding :
    Known.mainnetGenesis.verify "mainnet" = .ok () ∧
      ¬ Collides { Known.mainnetGenesis.header with version := -1 }.toBytes.toList
        Known.mainnetGenesis.header.toBytes.toList := by
  have hverify : Known.mainnetGenesis.verify "mainnet" = .ok () :=
    verify_eq_ok_iff.mpr (by decide +kernel)
  have htampered : { Known.mainnetGenesis.header with version := -1 }.digest ≠
      Known.mainnetGenesis.headerDigest := by decide +kernel
  have hbinding := header_binding.2.2.1 Known.mainnetGenesis
    { Known.mainnetGenesis.header with version := -1 } "mainnet" "mainnet" hverify
  refine ⟨hverify, fun hcollides => htampered ?_⟩
  exact verify_replace_eq_ok_iff.mp (hbinding.mpr (.inr hcollides))

end Genesis

end ChainParams

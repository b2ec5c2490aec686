import ChainParams.Proofs.Check
import ChainParams.Proofs.Json.Numeral
import ChainParams.Schema.Leaf

/-!
# Integers in a fixed width

A format for integers takes the numerals that are integers between its bounds, and no others:
a number is never wrapped, cut off or rounded, since it is compared with the bounds before it is
put into its width, and 64 bits are enough for the bounds of every format.
-/

namespace ChainParams

open Json (Fault Numeral)

/-- The least and the greatest integer of a format for integers. -/
def Kind.range? : Kind → Option (Int × Int)
  | .u8 => some (0, 0xff)
  | .u16 => some (0, 0xffff)
  | .u32 => some (0, 0xffffffff)
  | .u64 => some (0, 0xffffffffffffffff)
  | .i32 => some (-0x80000000, 0x7fffffff)
  | .i64 => some (-0x8000000000000000, 0x7fffffffffffffff)
  | .boolean | .text | .hash | .bytes | .bytes4 | .target => none

/-! ## Reading between bounds -/

section

variable {wanted : String} {low high m : Int}

theorem readInteger_eq_ok_iff {j : Json} : readInteger wanted low high j = .ok m ↔
    ∃ l, j = .num l ∧ l.integer? = some m ∧ low ≤ m ∧ m ≤ high := by
  cases j with
  | num l =>
      rw [readInteger.eq_def]
      cases hl : l.integer? with
      | none => simp [hl]
      | some k =>
          simp only [Json.num.injEq, exists_eq_left', hl, Option.some.injEq]
          split
          · next hrange =>
            rw [Except.ok.injEq]
            exact ⟨fun h => ⟨h, h ▸ hrange⟩, fun h => h.1⟩
          · next hrange =>
            refine iff_of_false nofun ?_
            rintro ⟨rfl, h⟩
            exact hrange h
  | _ => simp [readInteger]

theorem readInteger_numeral_eq_ok_iff {n : Numeral} (hlow : -0x8000000000000000 ≤ low)
    (hhigh : high < 0x10000000000000000) : readInteger wanted low high n.json = .ok m ↔
      n.IsInteger ∧ n.value = m ∧ low ≤ m ∧ m ≤ high := by
  simp only [readInteger_eq_ok_iff, Numeral.json, Json.num.injEq, exists_eq_left',
    Numeral.integer?_literal, and_assoc]
  grind

end

/-! ## Formats -/

namespace Kind

variable {kind : Kind} {low high : Int} (hrange : kind.range? = some (low, high))
include hrange

/-- A format for integers reads an integer between its bounds, and puts it into its width
without a loss. -/
theorem exists_ofInt : ∃ ofInt : Int → kind.Value,
    (∀ j, kind.read j = (readInteger kind.wanted low high j).map ofInt) ∧
    (∀ m, low ≤ m → m ≤ high → kind.write (ofInt m) = .ofInt m) ∧
    -0x8000000000000000 ≤ low ∧ high < 0x10000000000000000 := by
  cases kind <;> cases hrange
  case u8 =>
      refine ⟨fun m => UInt8.ofNat m.toNat, fun _ => rfl, ?_, by decide, by decide⟩
      intro m hlow hhigh
      have hkept : ((UInt8.ofNat m.toNat).toNat : Int) = m := by
        rw [UInt8.toNat_ofNat']
        omega
      exact congrArg Json.ofInt hkept
  case u16 =>
      refine ⟨fun m => UInt16.ofNat m.toNat, fun _ => rfl, ?_, by decide, by decide⟩
      intro m hlow hhigh
      have hkept : ((UInt16.ofNat m.toNat).toNat : Int) = m := by
        rw [UInt16.toNat_ofNat']
        omega
      exact congrArg Json.ofInt hkept
  case u32 =>
      refine ⟨fun m => UInt32.ofNat m.toNat, fun _ => rfl, ?_, by decide, by decide⟩
      intro m hlow hhigh
      have hkept : ((UInt32.ofNat m.toNat).toNat : Int) = m := by
        rw [UInt32.toNat_ofNat']
        omega
      exact congrArg Json.ofInt hkept
  case u64 =>
      refine ⟨fun m => UInt64.ofNat m.toNat, fun _ => rfl, ?_, by decide, by decide⟩
      intro m hlow hhigh
      have hkept : ((UInt64.ofNat m.toNat).toNat : Int) = m := by
        rw [UInt64.toNat_ofNat']
        omega
      exact congrArg Json.ofInt hkept
  case i32 =>
      refine ⟨Int32.ofInt, fun _ => rfl, ?_, by decide, by decide⟩
      intro m hlow hhigh
      exact congrArg Json.ofInt (Int32.toInt_ofInt_of_le hlow (by omega))
  case i64 =>
      refine ⟨Int64.ofInt, fun _ => rfl, ?_, by decide, by decide⟩
      intro m hlow hhigh
      exact congrArg Json.ofInt (Int64.toInt_ofInt_of_le hlow (by omega))

theorem exists_write (value : kind.Value) : ∃ m, kind.write value = .ofInt m := by
  cases kind <;> cases hrange <;> exact ⟨_, rfl⟩

/-- What is read by a format for integers is a number. -/
theorem exists_num_of_read {j : Json} {value : kind.Value} (h : kind.read j = .ok value) :
    ∃ l, j = .num l := by
  obtain ⟨ofInt, hread, -⟩ := exists_ofInt hrange
  rw [hread, map_eq_ok_iff] at h
  obtain ⟨m, hm, -⟩ := h
  obtain ⟨l, hl, -⟩ := readInteger_eq_ok_iff.mp hm
  exact ⟨l, hl⟩

/-- A numeral is read exactly if it is an integer between the bounds, and then as its value. -/
theorem read_numeral (n : Numeral) :
    (n.IsInteger ∧ low ≤ n.value ∧ n.value ≤ high →
      ∃ value, kind.read n.json = .ok value ∧ kind.write value = .ofInt n.value) ∧
    (¬ (n.IsInteger ∧ low ≤ n.value ∧ n.value ≤ high) →
      ∃ fault, kind.read n.json = .error fault) := by
  obtain ⟨ofInt, hread, hwrite, hlow, hhigh⟩ := exists_ofInt hrange
  rw [hread]
  constructor
  · rintro ⟨hn, hmin, hmax⟩
    have hm : readInteger kind.wanted low high n.json = .ok n.value :=
      (readInteger_numeral_eq_ok_iff hlow hhigh).mpr ⟨hn, rfl, hmin, hmax⟩
    rw [hm]
    exact ⟨ofInt n.value, rfl, hwrite n.value hmin hmax⟩
  · intro hnot
    cases hm : readInteger kind.wanted low high n.json with
    | error fault => exact ⟨fault, rfl⟩
    | ok m =>
        obtain ⟨hn, rfl, hmin, hmax⟩ := (readInteger_numeral_eq_ok_iff hlow hhigh).mp hm
        exact absurd ⟨hn, hmin, hmax⟩ hnot

end Kind

end ChainParams

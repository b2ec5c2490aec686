import ChainParams.Proofs.ParameterSet.FirstFlaw
import ChainParams.Proofs.Config.Respelling
import ChainParams.Proofs.Schema.Width

/-!
# The two guards of the highest target

A highest target of more than 256 bits is refused twice: where its digits are read, and where
a parameter set is validated.  Both guards draw the same line, and what a text gives has
passed the first one, so no text is ever refused by the second (`Config.parse_ne_tooWide`).
Below the line the length that encoding announces fits into a byte, so the code that is
compared with the declared one is not that of a shorter target (`Compact.exponent_ofTarget`).
-/

namespace ChainParams

open Json (Fault)

/-! ## Reading digits -/

/-- Digits are read as the target that they stand for, if this has at most 256 bits. -/
theorem Kind.read_target {digits : List Char} {n : Nat} (h : Target.Denotes digits n) :
    Kind.target.read (.ofText (String.ofList digits)) =
      if n < 2 ^ 256 then .ok n else .error (.data (.badTarget (.tooWide (bitLength n)))) := by
  have htext : Target.ofText (String.ofList digits) =
      if n < 2 ^ 256 then .ok n else .error (.tooWide (bitLength n)) := by
    rw [h.ofText_eq, maxTargetBits]
    simp only [lt_bitLength_iff, ← Nat.not_lt, ite_not]
  change readTarget (.ofText (String.ofList digits)) = _
  simp only [readTarget, readText, Json.ofText, bind, Except.bind, htext]
  by_cases hn : n < 2 ^ 256
  · simp only [if_pos hn]
    rfl
  · simp only [if_neg hn]
    rfl

theorem Kind.tooWide?_target_eq_none_iff {n : Nat} :
    Kind.tooWide? .target n = none ↔ n < 2 ^ 256 := by
  change (if maxTargetBits < bitLength n then some (bitLength n) else none) = none ↔ _
  rw [ite_eq_right_iff, ← bitLength_le_iff, ← Nat.not_lt]
  simp [maxTargetBits]

/-! ## The length in a code -/

namespace Compact

/-- Encoding announces a length, of which the code keeps what fits into a byte. -/
theorem exists_ofTarget_eq {t : Nat} (ht : t ≠ 0) :
    ∃ mantissa < 2 ^ 23, ofTarget t = ofParts (announcedLength t) mantissa := by
  refine ⟨_, leadingOf_lt t, ?_⟩
  rw [ofTarget_eq ht, announcedLength_eq ht]

theorem announcedLength_le {t : Nat} (h : t < 2 ^ 256) : announcedLength t ≤ 33 := by
  by_cases ht : t = 0
  · subst ht
    decide
  rw [announcedLength_eq ht]
  exact signedLength_le (bitLength_le_iff.mpr h)

/-- A length that fits into a byte stands in the code as it was announced. -/
theorem exponent_ofTarget {t : Nat} (h : announcedLength t < 256) :
    (ofTarget t).exponent = announcedLength t := by
  by_cases ht : t = 0
  · subst ht
    rfl
  obtain ⟨mantissa, hmantissa, htarget⟩ := exists_ofTarget_eq ht
  rw [htarget]
  exact (parts_ofParts h hmantissa).1

end Compact

/-! ## Validation -/

namespace ParameterSet

variable {p : ParameterSet}

/-- If no other law is broken, validation looks at the width of the highest target, and only
then at its compact form. -/
theorem validate_of_obeys_others
    (h : ∀ law, law ≠ .powLimit → law ≠ .powLimitBits → p.Obeys law) :
    p.validate = if p.powLimit < 2 ^ 256 then p.checkPowLimitBits
      else .error (.powLimitTooWide (bitLength p.powLimit)) := by
  have hbefore : ∀ law ∈ [Law.name, .checkpoints, .bit .testDummy, .window .testDummy, .bit .csv,
      .window .csv, .bit .segwit, .window .segwit], p.Obeys law := by
    intro law hlaw
    apply h law
    · exact ne_of_mem_of_not_mem hlaw (by decide)
    · exact ne_of_mem_of_not_mem hlaw (by decide)
  by_cases hlimit : p.powLimit < 2 ^ 256
  · rw [if_pos hlimit]
    cases hbits : p.checkPowLimitBits with
    | ok _ =>
        rw [validate_eq_ok_iff_obeys]
        intro law
        by_cases hwidth : law = .powLimit
        · exact hwidth ▸ hlimit
        by_cases hcode : law = .powLimitBits
        · exact hcode ▸ checkPowLimitBits_eq_ok_iff.mp hbits
        exact h law hwidth hcode
    | error flaw =>
        have hbreaks : p.Breaks .powLimitBits flaw := checkLaw_eq_error_iff.mp hbits
        have hwidth : p.Obeys .powLimit := hlimit
        have hboth := List.forall_mem_append.mpr ⟨hbefore, List.forall_mem_singleton.mpr hwidth⟩
        exact validate_eq_error_iff.mpr ⟨_, .powLimitBits, _, rfl, hboth, hbreaks⟩
  · rw [if_neg hlimit]
    exact validate_eq_error_iff.mpr ⟨_, .powLimit, _, rfl, hbefore, Nat.not_lt.mp hlimit, rfl⟩

/-- No other law has the width of the highest target to report. -/
theorem le_powLimit_of_breaks {law : Law} {bits : Nat}
    (h : p.Breaks law (.powLimitTooWide bits)) : 2 ^ 256 ≤ p.powLimit := by
  cases law with
  | powLimit => exact h.1
  | checkpoints =>
      obtain ⟨_, _, _, -, hflaw⟩ := h
      cases hflaw
  | _ => cases h.2

theorem le_powLimit_of_validate {bits : Nat} (h : p.validate = .error (.powLimitTooWide bits)) :
    2 ^ 256 ≤ p.powLimit := by
  obtain ⟨_, law, _, -, -, hbreaks⟩ := validate_eq_error_iff.mp h
  exact le_powLimit_of_breaks hbreaks

/-! ## Texts -/

/-- The highest target that a text gives has at most 256 bits. -/
theorem powLimit_lt_of_readText {text : String} (h : form.readText text = .ok p) :
    p.powLimit < 2 ^ 256 := by
  obtain ⟨j, -, hread⟩ := Form.readText_eq_ok_iff.mp h
  obtain ⟨value, hvalue, rfl⟩ := map_eq_ok_iff.mp hread
  have hnarrow := form.schema.tooWide?_of_read hvalue
  obtain ⟨_, _, _, _, _, limit, _⟩ := value
  simp only [form, schema, Schema.tooWide?, Fields.tooWide?, Option.or_eq_none_iff] at hnarrow
  obtain ⟨-, -, -, -, -, hlimit, -⟩ := hnarrow
  exact Kind.tooWide?_target_eq_none_iff.mp hlimit

end ParameterSet

namespace Config

/-- No text is refused because its highest target is too wide for a valid set. -/
theorem parse_ne_tooWide (text : String) (bits : Nat) :
    parse text ≠ .error (.inconsistent (.powLimitTooWide bits)) := by
  intro h
  obtain ⟨p, hread, hvalid⟩ := parse_eq_inconsistent_iff.mp h
  have hwide := ParameterSet.le_powLimit_of_validate hvalid
  have hnarrow := ParameterSet.powLimit_lt_of_readText hread
  omega

/-- Both guards of the highest target draw the line at 256 bits: where its digits are read, with
zeros in front of them or not, and where an otherwise sound set is validated.  No text comes
as far as the second guard with a target that is too wide.  Below the line the length that
encoding announces is at most 33, so it stands in the code uncut. -/
theorem powLimit_guarded :
    (∀ (n : Nat) (digits : List Char), Target.Denotes digits n →
      Kind.target.read (.ofText (String.ofList digits)) =
        if n < 2 ^ 256 then .ok n
        else .error (.data (.badTarget (.tooWide (bitLength n))))) ∧
    (∀ n zeros : Nat, Target.Denotes (List.replicate zeros '0' ++ Nat.toDigits 16 n) n) ∧
    (∀ p : ParameterSet, p.checkPowLimit = .ok () ↔ p.powLimit < 2 ^ 256) ∧
    (∀ p : ParameterSet,
      (∀ law, law ≠ .powLimit → law ≠ .powLimitBits → p.Obeys law) →
        p.validate = if p.powLimit < 2 ^ 256 then p.checkPowLimitBits
          else .error (.powLimitTooWide (bitLength p.powLimit))) ∧
    (∀ (text : String) (bits : Nat),
      parse text ≠ .error (.inconsistent (.powLimitTooWide bits))) ∧
    (∀ n ≠ 0, ∃ mantissa < 2 ^ 23,
      Compact.ofTarget n = Compact.ofParts (Compact.announcedLength n) mantissa) ∧
    ∀ n < 2 ^ 256, Compact.announcedLength n ≤ 33 ∧
      (Compact.ofTarget n).exponent = Compact.announcedLength n := by
  refine ⟨fun _ _ => Kind.read_target, Target.denotes_replicate_append,
    fun _ => ParameterSet.checkPowLimit_eq_ok_iff, fun _ => ParameterSet.validate_of_obeys_others,
    parse_ne_tooWide, fun _ => Compact.exists_ofTarget_eq, ?_⟩
  intro n hn
  have hlength := Compact.announcedLength_le hn
  exact ⟨hlength, Compact.exponent_ofTarget (by omega)⟩

/-- A network whose highest target is one above the line, and otherwise sound. -/
def overshoot : ParameterSet := { ParameterSet.regtest with powLimit := 2 ^ 256 }

theorem overshoot_obeys_others {law : ParameterSet.Law} (h : law ≠ .powLimit)
    (h' : law ≠ .powLimitBits) : overshoot.Obeys law := by
  have hvalid : ParameterSet.regtest.validate = .ok () := by rfl
  have hregtest := ParameterSet.validate_eq_ok_iff_obeys.mp hvalid law
  cases law with
  | powLimit => exact absurd rfl h
  | powLimitBits => exact absurd rfl h'
  | _ => exact hregtest

theorem overshoot_guarded :
    Kind.target.read (.ofText (String.ofList (List.replicate 3 '0' ++ Nat.toDigits 16 (2 ^ 256)))) =
      .error (.data (.badTarget (.tooWide 257))) ∧
    overshoot.validate = .error (.powLimitTooWide 257) ∧
    (Compact.ofTarget (2 ^ 256 - 1)).exponent ≤ 33 := by
  obtain ⟨hread, hdigits, -, hvalidate, -, -, hlength⟩ := powLimit_guarded
  have htext := hread (2 ^ 256) _ (hdigits (2 ^ 256) 3)
  have hflaw := hvalidate overshoot fun _ => overshoot_obeys_others
  obtain ⟨hle, hexponent⟩ := hlength (2 ^ 256 - 1) (by decide)
  rw [if_neg (Nat.lt_irrefl _)] at htext
  rw [overshoot, if_neg (Nat.lt_irrefl _)] at hflaw
  exact ⟨htext, hflaw, hexponent ▸ hle⟩

end Config

end ChainParams

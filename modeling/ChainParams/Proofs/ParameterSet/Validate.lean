import ChainParams.Config
import ChainParams.Proofs.Bytes.Utf8
import ChainParams.Proofs.Check

/-!
# What a valid parameter set is

Validation succeeds exactly if every one of its checks does.  What a check
ensures is stated for it alone.  A text describes the parameter set that is read
from it if this set is valid.
-/

namespace ChainParams

namespace ParameterSet

theorem validate_eq_ok_iff {p : ParameterSet} :
    p.validate = .ok () ↔ p.checkName = .ok () ∧ Checkpoint.checkAscending p.checkpoints = .ok () ∧
      p.deployments.check = .ok () ∧ p.checkPowLimit = .ok () ∧ p.checkPowLimitBits = .ok () ∧
      p.checkThreshold = .ok () ∧ p.checkHumanReadablePart = .ok () := by
  simp only [validate, bind_eq_ok_iff]

theorem checkHumanReadablePart_eq_ok_iff {p : ParameterSet} :
    p.checkHumanReadablePart = .ok () ↔ isHumanReadablePart p.humanReadablePart = true := by
  rw [checkHumanReadablePart, ite_ok_eq_ok_iff]

theorem isHumanReadablePart_of_validate {p : ParameterSet} (h : p.validate = .ok ()) :
    isHumanReadablePart p.humanReadablePart = true := by
  obtain ⟨-, -, -, -, -, -, hpart⟩ := validate_eq_ok_iff.mp h
  exact checkHumanReadablePart_eq_ok_iff.mp hpart

end ParameterSet

/-! ## Human-readable parts -/

theorem isAscii_of_isHumanReadablePart {text : String} (h : isHumanReadablePart text = true) :
    Text.IsAscii text := by
  simp only [isHumanReadablePart, Bool.and_eq_true, List.all_eq_true, decide_eq_true_eq] at h
  apply isAscii_of_forall_mem_utf8
  intro b hb
  exact Nat.lt_of_le_of_lt (h.1.2 b hb).2 (by decide)

theorem Config.parse_eq_ok_iff {text : String} {p : ParameterSet} :
    parse text = .ok p ↔ ParameterSet.form.readText text = .ok p ∧ p.validate = .ok () := by
  rw [parse]
  cases ParameterSet.form.readText text with
  | error fault => simp
  | ok q => cases hvalid : q.validate <;> grind

theorem Config.parse_eq_inconsistent_iff {text : String} {flaw : Flaw} :
    parse text = .error (.inconsistent flaw) ↔
      ∃ p, ParameterSet.form.readText text = .ok p ∧ p.validate = .error flaw := by
  rw [parse]
  cases ParameterSet.form.readText text with
  | error fault => simp
  | ok q => cases hvalid : q.validate <;> simp [hvalid]

end ChainParams

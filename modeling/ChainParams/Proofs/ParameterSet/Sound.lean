import ChainParams.Proofs.Checkpoint
import ChainParams.Proofs.Compact.RoundDown
import ChainParams.Proofs.ParameterSet.Validate

/-!
# What validation ensures

Each check is read as the law that it enforces, and the laws together make a
sound parameter set.  Comparing the compact form of the highest target with the
encoding of that target is the one that says more than it shows: since the target
is at most 256 bits wide, the code cannot have wrapped around, and it stands for
the greatest target with a compact form below the limit.
-/

namespace ChainParams

theorem DeploymentId.check_eq_ok_iff (id : DeploymentId) (d : Deployment) :
    id.check d = .ok () ↔ d.bitNumber.toNat ≤ 31 ∧ d.startTime ≤ d.expireTime := by
  rw [DeploymentId.check, ite_error_eq_ok_iff, ite_error_eq_ok_iff, and_iff_left rfl, Nat.not_lt,
    UInt64.not_lt]
  rfl

theorem DeploymentTable.check_eq_ok_iff (table : DeploymentTable) :
    table.check = .ok () ↔ ∀ id, (table.get id).bitNumber.toNat ≤ 31 ∧
      (table.get id).startTime ≤ (table.get id).expireTime := by
  rw [DeploymentTable.check, forM_eq_ok_iff, DeploymentTable.slots_eq_map, List.forall_mem_map]
  constructor
  · intro h id
    have hid : id ∈ DeploymentId.all := by cases id <;> decide
    exact (DeploymentId.check_eq_ok_iff id _).mp (h id hid)
  · intro h id _
    exact (DeploymentId.check_eq_ok_iff id _).mpr (h id)

/-- The code of a target that is no wider than 256 bits has an exponent of at most
33 and no sign. -/
theorem Compact.parts_ofTarget {t : Nat} (h : bitLength t ≤ maxTargetBits) :
    (ofTarget t).exponent ≤ 33 ∧ (ofTarget t).isNegative = false := by
  refine ⟨?_, isNegative_ofTarget t⟩
  by_cases ht : t = 0
  · subst ht
    decide
  have hlength := signedLength_le h
  obtain ⟨hexponent, -, -⟩ :=
    parts_ofParts (Nat.lt_of_le_of_lt hlength (by decide)) (leadingOf_lt t)
  rwa [ofTarget_eq ht, hexponent]

namespace ParameterSet

/-- The laws that registered networks obey. -/
structure Sound (p : ParameterSet) : Prop where
  name : ∃ c ∈ p.name.toList, Text.isBlank c = false
  checkpoints : Checkpoint.Ascends p.checkpoints
  deployments : ∀ id, (p.deployments.get id).bitNumber.toNat ≤ 31 ∧
    (p.deployments.get id).startTime ≤ (p.deployments.get id).expireTime
  powLimit : p.powLimit < 2 ^ 256
  powLimitBits : p.powLimitBits.exponent ≤ 33 ∧ p.powLimitBits.isNegative = false
  decodedLimit : IsGreatest (Compact.formsUpTo p.powLimit) p.powLimitBits.target
  threshold : p.ruleChangeThreshold ≤ p.confirmationWindow
  humanReadablePart : isHumanReadablePart p.humanReadablePart = true

variable {p : ParameterSet}

theorem checkName_eq_ok_iff :
    p.checkName = .ok () ↔ ∃ c ∈ p.name.toList, Text.isBlank c = false := by
  rw [checkName, ite_error_eq_ok_iff, and_iff_left rfl, Bool.not_eq_true, Text.isBlankText,
    List.all_eq_false]
  simp only [Bool.not_eq_true]

theorem checkPowLimit_eq_ok_iff : p.checkPowLimit = .ok () ↔ p.powLimit < 2 ^ 256 := by
  rw [checkPowLimit, ite_error_eq_ok_iff, and_iff_left rfl, Nat.not_lt, ← bitLength_le_iff]
  rfl

theorem checkPowLimitBits_eq_ok_iff :
    p.checkPowLimitBits = .ok () ↔ Compact.ofTarget p.powLimit = p.powLimitBits := by
  rw [checkPowLimitBits, ite_ok_eq_ok_iff]

theorem checkThreshold_eq_ok_iff :
    p.checkThreshold = .ok () ↔ p.ruleChangeThreshold ≤ p.confirmationWindow := by
  rw [checkThreshold, ite_error_eq_ok_iff, and_iff_left rfl, UInt32.not_lt]

theorem sound_of_validate (h : p.validate = .ok ()) : p.Sound := by
  obtain ⟨hname, hcheckpoints, hdeployments, hlimit, hbits, hthreshold, -⟩ :=
    validate_eq_ok_iff.mp h
  have hlimit := checkPowLimit_eq_ok_iff.mp hlimit
  have hwidth : bitLength p.powLimit ≤ maxTargetBits := bitLength_le_iff.mpr hlimit
  have hbits := checkPowLimitBits_eq_ok_iff.mp hbits
  exact {
    name := checkName_eq_ok_iff.mp hname
    checkpoints := (Checkpoint.checkAscending_eq_ok_iff _).mp hcheckpoints
    deployments := (DeploymentTable.check_eq_ok_iff _).mp hdeployments
    powLimit := hlimit
    powLimitBits := hbits ▸ Compact.parts_ofTarget hwidth
    decodedLimit := hbits ▸ Compact.isGreatest_target_ofTarget (Nat.le_trans hwidth (by decide))
    threshold := checkThreshold_eq_ok_iff.mp hthreshold
    humanReadablePart := isHumanReadablePart_of_validate h }

end ParameterSet

end ChainParams

import ChainParams.Proofs.ParameterSet.AddressStart
import ChainParams.Proofs.ParameterSet.Sound
import ChainParams.Known

/-!
# The first broken law

Validation goes through a list of laws (`Law.all`), each with a check of its own
(`validate_eq_forM`).  What a law demands (`Obeys`) and what is reported of a set that
breaks it (`Breaks`) are said without the checks; a check succeeds exactly if the law is
obeyed, and reports what the law has to report if not.  So a set is valid if it obeys every
law, and otherwise the first law that it breaks is reported, with the values that break it.
-/

namespace ChainParams.ParameterSet

/-! ## The laws -/

/-- The laws of a parameter set. -/
inductive Law where
  | name
  | checkpoints
  | bit (id : DeploymentId)
  | window (id : DeploymentId)
  | powLimit
  | powLimitBits
  | threshold
  | humanReadablePart
  deriving DecidableEq

/-- The laws in the order in which they are checked. -/
def Law.all : List Law :=
  [.name, .checkpoints, .bit .testDummy, .window .testDummy, .bit .csv, .window .csv,
    .bit .segwit, .window .segwit, .powLimit, .powLimitBits, .threshold, .humanReadablePart]

theorem Law.mem_all (law : Law) : law ∈ all := by
  cases law with
  | bit id => cases id <;> decide
  | window id => cases id <;> decide
  | _ => decide

/-- Whether a text is a human-readable part: 1 to 83 printable ASCII characters, not both
small and capital letters among them. -/
def IsReadable (text : String) : Prop :=
  (1 ≤ text.length ∧ text.length ≤ 83) ∧
    (∀ c ∈ text.toList, 33 ≤ c.toNat ∧ c.toNat ≤ 126) ∧
    ¬ ((∃ c ∈ text.toList, c.isLower = true) ∧ ∃ c ∈ text.toList, c.isUpper = true)

/-- Whether a parameter set obeys a law. -/
def Obeys (p : ParameterSet) : Law → Prop
  | .name => ∃ c ∈ p.name.toList, Text.isBlank c = false
  | .checkpoints => Checkpoint.Ascends p.checkpoints
  | .bit id => (p.deployments.get id).bitNumber.toNat ≤ 31
  | .window id => (p.deployments.get id).startTime ≤ (p.deployments.get id).expireTime
  | .powLimit => p.powLimit < 2 ^ 256
  | .powLimitBits => Compact.ofTarget p.powLimit = p.powLimitBits
  | .threshold => p.ruleChangeThreshold ≤ p.confirmationWindow
  | .humanReadablePart => IsReadable p.humanReadablePart

/-- Whether a parameter set breaks a law, and what is reported of it then. -/
def Breaks (p : ParameterSet) : Law → Flaw → Prop
  | .name, flaw => (∀ c ∈ p.name.toList, Text.isBlank c = true) ∧ flaw = .blankName
  | .checkpoints, flaw => ∃ index previous height,
      Checkpoint.FirstFall (Checkpoint.heights p.checkpoints) index previous height ∧
        flaw = .checkpointsNotAscending index previous height
  | .bit id, flaw => 31 < (p.deployments.get id).bitNumber.toNat ∧
      flaw = .deploymentBitTooHigh id (p.deployments.get id).bitNumber
  | .window id, flaw => (p.deployments.get id).expireTime < (p.deployments.get id).startTime ∧
      flaw = .deploymentWindowInverted id (p.deployments.get id).startTime
        (p.deployments.get id).expireTime
  | .powLimit, flaw => 2 ^ 256 ≤ p.powLimit ∧ flaw = .powLimitTooWide (bitLength p.powLimit)
  | .powLimitBits, flaw => Compact.ofTarget p.powLimit ≠ p.powLimitBits ∧
      flaw = .powLimitBitsMismatch p.powLimitBits (Compact.ofTarget p.powLimit)
  | .threshold, flaw => p.confirmationWindow < p.ruleChangeThreshold ∧
      flaw = .thresholdAboveWindow p.ruleChangeThreshold p.confirmationWindow
  | .humanReadablePart, flaw => ¬ IsReadable p.humanReadablePart ∧
      flaw = .badHumanReadablePart p.humanReadablePart

/-! ## The check of each law -/

/-- The check of a law. -/
def checkLaw (p : ParameterSet) : Law → Except Flaw Unit
  | .name => p.checkName
  | .checkpoints => Checkpoint.checkAscending p.checkpoints
  | .bit id =>
      if maxDeploymentBit < (p.deployments.get id).bitNumber.toNat then
        .error (.deploymentBitTooHigh id (p.deployments.get id).bitNumber)
      else .ok ()
  | .window id =>
      if (p.deployments.get id).expireTime < (p.deployments.get id).startTime then
        .error (.deploymentWindowInverted id (p.deployments.get id).startTime
          (p.deployments.get id).expireTime)
      else .ok ()
  | .powLimit => p.checkPowLimit
  | .powLimitBits => p.checkPowLimitBits
  | .threshold => p.checkThreshold
  | .humanReadablePart => p.checkHumanReadablePart

/-- The two laws of a slot, the bit before the window. -/
def slotLaws (id : DeploymentId) : List Law := [.bit id, .window id]

theorem check_slot (p : ParameterSet) (id : DeploymentId) :
    id.check (p.deployments.get id) = (slotLaws id).forM p.checkLaw := by
  change _ = (p.checkLaw (.bit id) >>= fun _ => p.checkLaw (.window id) >>= fun _ => .ok ())
  unfold DeploymentId.check
  by_cases hbit : maxDeploymentBit < (p.deployments.get id).bitNumber.toNat
  · simp only [checkLaw, if_pos hbit]
    rfl
  · by_cases hwindow : (p.deployments.get id).expireTime < (p.deployments.get id).startTime
    · simp only [checkLaw, if_neg hbit, if_pos hwindow]
      rfl
    · simp only [checkLaw, if_neg hbit, if_neg hwindow]
      rfl

theorem check_deployments (p : ParameterSet) :
    p.deployments.check = (DeploymentId.all.flatMap slotLaws).forM p.checkLaw := by
  rw [DeploymentTable.check, DeploymentTable.slots_eq_map]
  simp only [DeploymentId.all, List.map_cons, List.map_nil, List.flatMap_cons, List.flatMap_nil,
    List.forM_eq_forM, List.forM_cons, List.forM_nil, List.forM_append, check_slot]

/-- Validation checks one law after another. -/
theorem validate_eq_forM (p : ParameterSet) : p.validate = Law.all.forM p.checkLaw := by
  have hall : Law.all = [.name, .checkpoints] ++ (DeploymentId.all.flatMap slotLaws ++
      [.powLimit, .powLimitBits, .threshold, .humanReadablePart]) := rfl
  rw [validate, check_deployments, hall]
  simp only [List.forM_eq_forM, List.forM_append, List.forM_cons, List.forM_nil, bind_assoc,
    bind_pure_unit]
  rfl

section

variable {p : ParameterSet}

theorem checkHumanReadablePart_eq_ok_iff_isReadable :
    p.checkHumanReadablePart = .ok () ↔ IsReadable p.humanReadablePart := by
  rw [checkHumanReadablePart_eq_ok_iff, isHumanReadablePart_iff]
  rfl

/-- The check of a law succeeds exactly if the law is obeyed. -/
theorem checkLaw_eq_ok_iff (law : Law) : p.checkLaw law = .ok () ↔ p.Obeys law := by
  cases law with
  | name => exact checkName_eq_ok_iff
  | checkpoints => exact Checkpoint.checkAscending_eq_ok_iff _
  | bit id =>
      rw [checkLaw, ite_error_eq_ok_iff, and_iff_left rfl, Nat.not_lt]
      rfl
  | window id =>
      rw [checkLaw, ite_error_eq_ok_iff, and_iff_left rfl, UInt64.not_lt]
      rfl
  | powLimit => exact checkPowLimit_eq_ok_iff
  | powLimitBits => exact checkPowLimitBits_eq_ok_iff
  | threshold => exact checkThreshold_eq_ok_iff
  | humanReadablePart => exact checkHumanReadablePart_eq_ok_iff_isReadable

theorem checkName_eq_error_iff {flaw : Flaw} :
    p.checkName = .error flaw ↔
      (∀ c ∈ p.name.toList, Text.isBlank c = true) ∧ flaw = .blankName := by
  rw [checkName, ite_error_eq_error_iff, Text.isBlankText, List.all_eq_true]
  simp

theorem checkPowLimit_eq_error_iff {flaw : Flaw} :
    p.checkPowLimit = .error flaw ↔
      2 ^ 256 ≤ p.powLimit ∧ flaw = .powLimitTooWide (bitLength p.powLimit) := by
  rw [checkPowLimit, ite_error_eq_error_iff, maxTargetBits, lt_bitLength_iff]
  simp

theorem checkHumanReadablePart_eq_error_iff {flaw : Flaw} :
    p.checkHumanReadablePart = .error flaw ↔
      ¬ IsReadable p.humanReadablePart ∧ flaw = .badHumanReadablePart p.humanReadablePart := by
  rw [checkHumanReadablePart, ite_ok_eq_error_iff, isHumanReadablePart_iff]
  rfl

/-- The check of a law reports what the law has to report if it is broken. -/
theorem checkLaw_eq_error_iff {law : Law} {flaw : Flaw} :
    p.checkLaw law = .error flaw ↔ p.Breaks law flaw := by
  cases law with
  | name => exact checkName_eq_error_iff
  | checkpoints => exact Checkpoint.checkAscending_eq_error_iff _ _
  | bit id =>
      rw [checkLaw, ite_error_eq_error_iff, maxDeploymentBit]
      simp [Breaks]
  | window id =>
      rw [checkLaw, ite_error_eq_error_iff]
      simp [Breaks]
  | powLimit => exact checkPowLimit_eq_error_iff
  | powLimitBits => exact ite_ok_eq_error_iff
  | threshold =>
      rw [checkLaw, checkThreshold, ite_error_eq_error_iff]
      simp [Breaks]
  | humanReadablePart => exact checkHumanReadablePart_eq_error_iff

/-! ## Validation -/

theorem validate_eq_ok_iff_obeys : p.validate = .ok () ↔ ∀ law, p.Obeys law := by
  rw [validate_eq_forM, forM_eq_ok_iff]
  constructor
  · intro h law
    exact (checkLaw_eq_ok_iff law).mp (h law law.mem_all)
  · intro h law _
    exact (checkLaw_eq_ok_iff law).mpr (h law)

/-- The flaw that is reported is that of the first broken law. -/
theorem validate_eq_error_iff {flaw : Flaw} :
    p.validate = .error flaw ↔ ∃ earlier law later, Law.all = earlier ++ law :: later ∧
      (∀ other ∈ earlier, p.Obeys other) ∧ p.Breaks law flaw := by
  simp only [validate_eq_forM, forM_eq_error_iff, checkLaw_eq_ok_iff, checkLaw_eq_error_iff]

/-- What validation looks at: the name, the heights of the checkpoints, the deployments, the
highest target in both forms, the votes and the window, and the human-readable part. -/
def checked (p : ParameterSet) :
    String × List Int32 × DeploymentTable × Nat × Compact × UInt32 × UInt32 × String :=
  (p.name, Checkpoint.heights p.checkpoints, p.deployments, p.powLimit, p.powLimitBits,
    p.ruleChangeThreshold, p.confirmationWindow, p.humanReadablePart)

theorem validate_congr {q : ParameterSet} (h : p.checked = q.checked) :
    p.validate = q.validate := by
  simp only [checked, Prod.mk.injEq] at h
  obtain ⟨hname, hheights, hdeployments, hlimit, hbits, hthreshold, hwindow, hpart⟩ := h
  have hcheckpoints := Checkpoint.checkAscending_congr hheights
  simp only [validate, checkName, checkPowLimit, checkPowLimitBits, checkThreshold,
    checkHumanReadablePart, hname, hcheckpoints, hdeployments, hlimit, hbits, hthreshold, hwindow,
    hpart]

/-- A parameter set is valid exactly if it obeys every law; otherwise the first law that it
breaks is reported, with the values that break it.  Nothing depends on what no law is
about. -/
theorem validate_first_flaw :
    (∀ p : ParameterSet, p.validate = .ok () ↔ ∀ law, p.Obeys law) ∧
    (∀ (p : ParameterSet) (flaw : Flaw), p.validate = .error flaw ↔
      ∃ earlier law later, Law.all = earlier ++ law :: later ∧
        (∀ other ∈ earlier, p.Obeys other) ∧ p.Breaks law flaw) ∧
    ∀ p q : ParameterSet, p.checked = q.checked → p.validate = q.validate :=
  ⟨fun _ => validate_eq_ok_iff_obeys, fun _ _ => validate_eq_error_iff, fun _ _ => validate_congr⟩

end

/-- A set that breaks the laws about checkpoints, deployments, votes and human-readable
parts. -/
def tangled : ParameterSet :=
  { regtest with
    checkpoints := [⟨10, .ofNat 1⟩, ⟨20, .ofNat 2⟩, ⟨20, .ofNat 3⟩, ⟨15, .ofNat 4⟩]
    deployments := { regtest.deployments with csv := ⟨32, 9, 3⟩ }
    ruleChangeThreshold := 145
    humanReadablePart := "Tb" }

/-- The same with the hashes of another chain, and other seeds. -/
def retold : ParameterSet :=
  { tangled with
    genesis := mainnet.genesis
    seeds := mainnet.seeds
    checkpoints := tangled.checkpoints.map fun c => { c with hash := .zero } }

/-- The first fall of the checkpoints is reported, whatever else is broken. -/
theorem tangled_first_flaw :
    tangled.validate = .error (.checkpointsNotAscending 2 20 20) ∧
    tangled.checked = retold.checked ∧
    retold.validate = .error (.checkpointsNotAscending 2 20 20) := by
  obtain ⟨-, hfirst, hsame⟩ := validate_first_flaw
  have hname : tangled.Obeys .name := ⟨'r', by decide⟩
  have hfalls : Checkpoint.FallsAt (Checkpoint.heights tangled.checkpoints) 2 20 20 :=
    ⟨1, rfl, rfl, rfl, by decide⟩
  have hleast : ∀ i < 2, ∀ a b,
      ¬ Checkpoint.FallsAt (Checkpoint.heights tangled.checkpoints) i a b := by
    intro i hi a b hearlier
    obtain ⟨before, rfl, ha, hb, hle⟩ := hearlier
    obtain rfl : before = 0 := by omega
    obtain rfl : (10 : Int32) = a := Option.some.inj ha
    obtain rfl : (20 : Int32) = b := Option.some.inj hb
    exact absurd hle (by decide)
  have hflaw : tangled.validate = .error (.checkpointsNotAscending 2 20 20) := by
    refine (hfirst tangled _).mpr ⟨[.name], .checkpoints, _, rfl, ?_, 2, 20, 20, ?_, rfl⟩
    · exact List.forall_mem_singleton.mpr hname
    · exact ⟨hfalls, hleast⟩
  have hchecked : tangled.checked = retold.checked := rfl
  exact ⟨hflaw, hchecked, (hsame _ _ hchecked).symm.trans hflaw⟩

end ChainParams.ParameterSet

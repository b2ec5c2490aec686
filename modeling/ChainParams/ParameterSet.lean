import ChainParams.Checkpoint
import ChainParams.Genesis
import ChainParams.Magic
import ChainParams.Seed
import ChainParams.Text.Blank
import ChainParams.Text.Lowercase

/-!
# Parameter sets

A parameter set describes one network: how peers find and recognise each other,
the first block, the constants of the consensus rules, and the identifiers by
which addresses of the network are told apart.  Validation checks the laws that
tie the fields together, in a fixed order, and reports the first one broken.
-/

namespace ChainParams

/-- The parameters of one network.  Durations are in seconds. -/
structure ParameterSet where
  name : String
  magic : Magic
  defaultPort : UInt16
  seeds : List Seed
  genesis : Genesis
  powLimit : Nat
  powLimitBits : Compact
  bip34Height : Int32
  bip65Height : Int32
  bip66Height : Int32
  coinbaseMaturity : UInt16
  subsidyReductionInterval : Int32
  targetTimespan : UInt64
  targetTimePerBlock : UInt64
  retargetAdjustmentFactor : Int64
  reduceMinDifficulty : Bool
  minDifficultyReductionTime : UInt64
  generateSupported : Bool
  checkpoints : List Checkpoint
  ruleChangeThreshold : UInt32
  confirmationWindow : UInt32
  deployments : DeploymentTable
  relayNonStandard : Bool
  humanReadablePart : String
  pubKeyHashId : UInt8
  scriptHashId : UInt8
  privateKeyId : UInt8
  witnessPubKeyHashId : UInt8
  witnessScriptHashId : UInt8
  hdPrivateKeyId : Vector UInt8 4
  hdPublicKeyId : Vector UInt8 4
  hdCoinType : UInt32
  deriving DecidableEq

/-! ## Human-readable parts -/

/-- The number of bytes of the longest human-readable part. -/
def maxHumanReadablePart : Nat := 83

/-- Whether a text can start the bech32 addresses of a network: between 1 and 83
bytes, all of them printable ASCII characters other than the space, without
both small and capital letters. -/
def isHumanReadablePart (text : String) : Bool :=
  let bytes := utf8 text
  let printable := bytes.all fun b => 33 ≤ b.toNat && b.toNat ≤ 126
  let hasSmall := bytes.any fun b => 97 ≤ b.toNat && b.toNat ≤ 122
  let hasCapital := bytes.any fun b => 65 ≤ b.toNat && b.toNat ≤ 90
  !bytes.isEmpty && bytes.length ≤ maxHumanReadablePart && printable && !(hasSmall && hasCapital)

/-! ## Validation -/

/-- The highest version bit that a deployment can use. -/
def maxDeploymentBit : Nat := 31

/-- Checks the version bit of a slot and then its window. -/
def DeploymentId.check (id : DeploymentId) (d : Deployment) : Except Flaw Unit :=
  if maxDeploymentBit < d.bitNumber.toNat then .error (.deploymentBitTooHigh id d.bitNumber)
  else if d.expireTime < d.startTime then
    .error (.deploymentWindowInverted id d.startTime d.expireTime)
  else .ok ()

/-- Checks the slots in table order. -/
def DeploymentTable.check (table : DeploymentTable) : Except Flaw Unit :=
  table.slots.forM fun (id, d) => id.check d

namespace ParameterSet

/-- Checks that the name holds a character that can be seen. -/
def checkName (p : ParameterSet) : Except Flaw Unit :=
  if Text.isBlankText p.name then .error .blankName else .ok ()

/-- Checks the width of the highest target. -/
def checkPowLimit (p : ParameterSet) : Except Flaw Unit :=
  if maxTargetBits < bitLength p.powLimit then .error (.powLimitTooWide (bitLength p.powLimit))
  else .ok ()

/-- Checks that the two forms of the highest target agree. -/
def checkPowLimitBits (p : ParameterSet) : Except Flaw Unit :=
  if Compact.ofTarget p.powLimit = p.powLimitBits then .ok ()
  else .error (.powLimitBitsMismatch p.powLimitBits (Compact.ofTarget p.powLimit))

/-- Checks that the votes that activate a rule change fit into a window. -/
def checkThreshold (p : ParameterSet) : Except Flaw Unit :=
  if p.confirmationWindow < p.ruleChangeThreshold then
    .error (.thresholdAboveWindow p.ruleChangeThreshold p.confirmationWindow)
  else .ok ()

/-- Checks the human-readable part of addresses. -/
def checkHumanReadablePart (p : ParameterSet) : Except Flaw Unit :=
  if isHumanReadablePart p.humanReadablePart then .ok ()
  else .error (.badHumanReadablePart p.humanReadablePart)

/-- Checks every law of a parameter set and reports the first one broken.  The
header of the first block is not hashed here. -/
def validate (p : ParameterSet) : Except Flaw Unit := do
  p.checkName
  Checkpoint.checkAscending p.checkpoints
  p.deployments.check
  p.checkPowLimit
  p.checkPowLimitBits
  p.checkThreshold
  p.checkHumanReadablePart

/-! ## Views -/

/-- Checks the header of the first block against its digest. -/
def verifyGenesis (p : ParameterSet) : Except Flaw Unit :=
  p.genesis.verify p.name

/-- The newest checkpoint. -/
def latestCheckpoint (p : ParameterSet) : Option Checkpoint :=
  p.checkpoints.getLast?

/-- The last checkpoint at or below a height. -/
def checkpointAtOrBefore (p : ParameterSet) (height : Int32) : Option Checkpoint :=
  Checkpoint.atOrBefore p.checkpoints height

/-- The text that starts every bech32 address of the network: the human-readable
part in lowercase and the separator. -/
def bech32Start (p : ParameterSet) : String :=
  Text.lowercase p.humanReadablePart ++ "1"

/-- The connection attempts to the seeds of the network, in their order. -/
def endpoints (p : ParameterSet) : List String :=
  p.seeds.map (·.endpoint p.defaultPort)

end ParameterSet

end ChainParams

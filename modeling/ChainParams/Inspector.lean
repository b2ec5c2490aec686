import ChainParams.Config
import ChainParams.Inspector.Arguments
import ChainParams.Registry

/-!
# The inspector

The inspector shows the parameters of one network, as a summary or in the form
of a configuration file.  A custom network can be read from a file, and is then
registered behind the known ones.  A network is selected by what its name calls:
a name of a known network stands for that network, and any other text for the
first network that has it as its name.
-/

namespace ChainParams.Inspector

/-- Why the inspector shows nothing. -/
inductive Failure where
  | config (e : ConfigError)
  | refused (e : RegisterError)
  | notRegistered (name : String)

/-- The wording of a failure. -/
def Failure.message : Failure → String
  | config e => e.message
  | refused e => e.message
  | notRegistered name => "network " ++ name ++ " is not registered"

/-! ## The summary -/

/-- A text filled up with spaces on its right. -/
def padRight (width : Nat) (text : String) : String :=
  text ++ String.ofList (List.replicate (width - text.length) ' ')

/-- A text filled up with spaces on its left. -/
def padLeft (width : Nat) (text : String) : String :=
  String.ofList (List.replicate (width - text.length) ' ') ++ text

/-- A line of the summary, below a heading. -/
def line (label value : String) : String :=
  "  " ++ padRight 12 (label ++ ":") ++ " " ++ value

/-- How the peers of a network are found. -/
def networkLines (p : ParameterSet) : List String :=
  ["Network:       " ++ p.name,
    line "Magic" (p.magic.display ++ " (" ++ Hex.encode p.magic.wire.toList ++ ")"),
    line "Port" (toString p.defaultPort.toNat)] ++
    p.endpoints.map (line "Seed")

/-- The first block of a network. -/
def genesisLines (p : ParameterSet) : List String :=
  ["Genesis:",
    line "Hash" p.genesis.hash.toHex,
    line "Digest" p.genesis.headerDigest.toHex,
    line "Merkle Root" p.genesis.header.merkleRoot.toHex,
    line "Timestamp" (toString p.genesis.header.timestamp.toNat),
    line "Bits" p.genesis.header.bits.display]

/-- A slot of the deployment table. -/
def deploymentLine (slot : DeploymentId × Deployment) : String :=
  line slot.1.name
    ("bit " ++ padLeft 2 (toString slot.2.bitNumber.toNat) ++ ", " ++
      toString slot.2.startTime.toNat ++ " - " ++ toString slot.2.expireTime.toNat)

/-- The consensus rules of a network. -/
def consensusLines (p : ParameterSet) : List String :=
  ["Consensus:",
    line "PoW Limit" p.powLimitBits.display,
    line "Block Time" (toString p.targetTimePerBlock.toNat ++ "s"),
    line "Maturity" (toString p.coinbaseMaturity.toNat),
    line "Checkpoints" (toString p.checkpoints.length)] ++
    (p.latestCheckpoint.map fun c =>
      line "Latest" (c.hash.toHex ++ " @ " ++ toString c.height.toInt)).toList ++
    [line "Voting" (toString p.ruleChangeThreshold.toNat ++ "/" ++
      toString p.confirmationWindow.toNat)] ++
    p.deployments.slots.map deploymentLine

/-- A byte in two hexadecimal digits behind `0x`. -/
def displayByte (b : UInt8) : String := "0x" ++ Hex.padded 2 b.toNat

/-- The address identifiers of a network. -/
def addressLines (p : ParameterSet) : List String :=
  ["Addresses:",
    line "Bech32" p.bech32Start,
    line "PubKeyHash" (displayByte p.pubKeyHashId),
    line "ScriptHash" (displayByte p.scriptHashId),
    line "PrivateKey" (displayByte p.privateKeyId),
    line "HD Private" (Hex.encode p.hdPrivateKeyId.toList),
    line "HD Public" (Hex.encode p.hdPublicKeyId.toList),
    line "Coin Type" (toString p.hdCoinType.toNat)]

/-- The summary of a network: four groups of lines with an empty line between
them. -/
def summary (p : ParameterSet) : String :=
  let lines := networkLines p ++ "" :: genesisLines p ++ "" :: consensusLines p ++
    "" :: addressLines p
  String.join (lines.map (· ++ "\n"))

/-! ## The program -/

/-- The name of the network that a text calls. -/
def selectedName (text : String) : String :=
  match KnownNetwork.ofText? text with
  | some network => network.name
  | none => text

/-- The known networks, and the custom one if a file for it is given. -/
def registryWith : Option (Except FileError ByteArray) → Except Failure Registry
  | none => .ok .known
  | some file =>
    match Config.load file with
    | .error e => .error (.config e)
    | .ok p =>
      match Registry.known.register p with
      | .error e => .error (.refused e)
      | .ok r => .ok r

/-- The network that a text calls, among the known ones and the custom one. -/
def select (custom : Option (Except FileError ByteArray)) (network : String) :
    Except Failure ParameterSet := do
  let registry ← registryWith custom
  match registry.byName? (selectedName network) with
  | some p => return p
  | none => .error (.notRegistered (selectedName network))

/-- What is shown of a network. -/
def display (json : Bool) (p : ParameterSet) : String :=
  if json then Config.render p ++ "\n" else summary p

/-- What the inspector prints. -/
def output (custom : Option (Except FileError ByteArray)) (network : String) (json : Bool) :
    Except Failure String :=
  (select custom network).map (display json)

/-- What a run of the program comes to. -/
inductive Outcome where
  | shown (text : String)
  | failed (failure : Failure)
  /-- The arguments cannot be read. -/
  | misused
  | helped

namespace Outcome

/-- The code that the program exits with. -/
def exitCode : Outcome → UInt8
  | shown _ => 0
  | failed _ => 1
  | misused => 2
  | helped => 0

/-- What the program prints on standard output.  The text of the help belongs to the
reader of the arguments and is left out, as is everything on standard error. -/
def stdout : Outcome → String
  | shown text => text
  | _ => ""

@[simp] theorem exitCode_shown (text : String) : (shown text).exitCode = 0 := rfl

@[simp] theorem stdout_shown (text : String) : (shown text).stdout = text := rfl

@[simp] theorem exitCode_failed (failure : Failure) : (failed failure).exitCode = 1 := rfl

@[simp] theorem stdout_failed (failure : Failure) : (failed failure).stdout = "" := rfl

end Outcome

/-- Runs the program on its arguments, given what the files hold. -/
def run (files : String → Except FileError ByteArray) (args : List String) : Outcome :=
  match Invocation.ofArguments? args with
  | none => .misused
  | some .help => .helped
  | some (.show request) =>
    match output (request.custom.map files) request.network request.json with
    | .ok text => .shown text
    | .error failure => .failed failure

end ChainParams.Inspector

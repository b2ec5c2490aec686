import ChainParams.Known.Anchor
import ChainParams.Known.Checkpoints
import ChainParams.ParameterSet

/-!
# Known networks

The networks that need no configuration: the main network, the public test
network and the regression test network.  The two test networks share their
address identifiers and their extended-key versions.
-/

namespace ChainParams

namespace ParameterSet

/-- A day in seconds. -/
def day : UInt64 := 24 * 60 * 60

/-- The wanted time between blocks of every known network, in seconds. -/
def blockSpacing : UInt64 := 150

/-- How long a test network waits for a block before the difficulty drops, in
seconds. -/
def testPatience : UInt64 := 20 * 60

/-- The parameters of the main network. -/
def mainnet : ParameterSet where
  name := "mainnet"
  magic := ⟨0xbd6b0cbf⟩
  defaultPort := 9999
  seeds :=
    [⟨"dnsseed.dash.org", true⟩, ⟨"dnsseed.dashdot.io", true⟩, ⟨"dnsseed.masternode.io", false⟩,
      ⟨"dnsseed.dashpay.io", true⟩]
  genesis := Known.mainnetGenesis
  powLimit := Target.highest 224
  powLimitBits := ⟨0x1d00ffff⟩
  bip34Height := 1
  bip65Height := 388381
  bip66Height := 363725
  coinbaseMaturity := 100
  subsidyReductionInterval := 210240
  targetTimespan := day
  targetTimePerBlock := blockSpacing
  retargetAdjustmentFactor := 4
  reduceMinDifficulty := false
  minDifficultyReductionTime := 0
  generateSupported := false
  checkpoints := Known.mainnetCheckpoints
  ruleChangeThreshold := 1916
  confirmationWindow := 2016
  deployments :=
    { testDummy := ⟨28, 1199145601, 1230767999⟩
      csv := ⟨0, 1486252800, 1517788800⟩
      segwit := ⟨1, 1508025600, 1539561600⟩ }
  relayNonStandard := false
  humanReadablePart := "bc"
  pubKeyHashId := 0x4c
  scriptHashId := 0x10
  privateKeyId := 0xcc
  witnessPubKeyHashId := 0x06
  witnessScriptHashId := 0x0a
  hdPrivateKeyId := #v[0x04, 0x88, 0xad, 0xe4]
  hdPublicKeyId := #v[0x04, 0x88, 0xb2, 0x1e]
  hdCoinType := 5

/-- The parameters of the public test network. -/
def testnet3 : ParameterSet where
  name := "testnet3"
  magic := ⟨0xffcae2ce⟩
  defaultPort := 19999
  seeds := [⟨"testnet-seed.dashdot.io", true⟩, ⟨"test.dnsseed.masternode.io", true⟩]
  genesis := Known.testnet3Genesis
  powLimit := Target.highest 224
  powLimitBits := ⟨0x1d00ffff⟩
  bip34Height := 1
  bip65Height := 581885
  bip66Height := 330776
  coinbaseMaturity := 100
  subsidyReductionInterval := 210240
  targetTimespan := day
  targetTimePerBlock := blockSpacing
  retargetAdjustmentFactor := 4
  reduceMinDifficulty := true
  minDifficultyReductionTime := testPatience
  generateSupported := false
  checkpoints := Known.testnet3Checkpoints
  ruleChangeThreshold := 1512
  confirmationWindow := 2016
  deployments :=
    { testDummy := ⟨28, 1199145601, 1230767999⟩
      csv := ⟨0, 1456790400, 1493596800⟩
      segwit := ⟨1, 1462060800, 1493596800⟩ }
  relayNonStandard := true
  humanReadablePart := "tb"
  pubKeyHashId := 0x8c
  scriptHashId := 0x13
  privateKeyId := 0xef
  witnessPubKeyHashId := 0x03
  witnessScriptHashId := 0x28
  hdPrivateKeyId := #v[0x04, 0x35, 0x83, 0x94]
  hdPublicKeyId := #v[0x04, 0x35, 0x87, 0xcf]
  hdCoinType := 1

/-- The parameters of the regression test network, on which every deployment can
be voted on at any time. -/
def regtest : ParameterSet where
  name := "regtest"
  magic := ⟨0xdcb7c1fc⟩
  defaultPort := 19994
  seeds := []
  genesis := Known.regtestGenesis
  powLimit := Target.highest 255
  powLimitBits := ⟨0x207fffff⟩
  bip34Height := 100000000
  bip65Height := 1351
  bip66Height := 1251
  coinbaseMaturity := 100
  subsidyReductionInterval := 150
  targetTimespan := day
  targetTimePerBlock := blockSpacing
  retargetAdjustmentFactor := 4
  reduceMinDifficulty := true
  minDifficultyReductionTime := testPatience
  generateSupported := true
  checkpoints := []
  ruleChangeThreshold := 108
  confirmationWindow := 144
  deployments := ⟨.alwaysActive 28, .alwaysActive 0, .alwaysActive 1⟩
  relayNonStandard := true
  humanReadablePart := "tb"
  pubKeyHashId := 0x8c
  scriptHashId := 0x13
  privateKeyId := 0xef
  witnessPubKeyHashId := 0x00
  witnessScriptHashId := 0x00
  hdPrivateKeyId := #v[0x04, 0x35, 0x83, 0x94]
  hdPublicKeyId := #v[0x04, 0x35, 0x87, 0xcf]
  hdCoinType := 1

end ParameterSet

/-- The known networks. -/
inductive KnownNetwork where
  | mainnet
  | testnet3
  | regtest
  deriving DecidableEq

namespace KnownNetwork

/-- Every known network, in the order in which they are registered. -/
def all : List KnownNetwork := [mainnet, testnet3, regtest]

/-- The name of a known network. -/
def name : KnownNetwork → String
  | mainnet => "mainnet"
  | testnet3 => "testnet3"
  | regtest => "regtest"

/-- The parameters of a known network. -/
def params : KnownNetwork → ParameterSet
  | mainnet => .mainnet
  | testnet3 => .testnet3
  | regtest => .regtest

/-- The known network that one of its names, in small letters, calls. -/
def ofName? (name : String) : Option KnownNetwork :=
  if name = "mainnet" ∨ name = "main" then some mainnet
  else if name = "regtest" then some regtest
  else if name = "testnet3" ∨ name = "testnet" ∨ name = "test" then some testnet3
  else none

/-- The known network that a text calls.  Blanks around the name and the case of
its ASCII letters do not matter. -/
def ofText? (text : String) : Option KnownNetwork :=
  ofName? (Text.asciiLowercase (Text.trim text))

/-- The wording for a text that calls no known network. -/
def unknownMessage (text : String) : String := "unknown network: " ++ text

end KnownNetwork

end ChainParams

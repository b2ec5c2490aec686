import ChainParams.Compact
import ChainParams.Deployment
import ChainParams.Hash

/-!
# Flaws of a parameter set

The laws that a set of network parameters can break, each with the values that
break it.
-/

namespace ChainParams

/-- A broken law of a parameter set. -/
inductive Flaw where
  | blankName
  | checkpointsNotAscending (index : Nat) (previous height : Int32)
  | deploymentBitTooHigh (id : DeploymentId) (bit : UInt8)
  | deploymentWindowInverted (id : DeploymentId) (start expire : UInt64)
  | powLimitTooWide (bits : Nat)
  | powLimitBitsMismatch (declared encoded : Compact)
  | thresholdAboveWindow (threshold window : UInt32)
  | badHumanReadablePart (text : String)
  | genesisMismatch (network : String) (expected computed : Hash)
  deriving DecidableEq

namespace Flaw

/-- The wording of a flaw. -/
def message : Flaw → String
  | blankName => "network name is empty"
  | checkpointsNotAscending index previous height =>
    s!"checkpoint {index} at height {height.toInt} does not follow height {previous.toInt}"
  | deploymentBitTooHigh id bit =>
    s!"deployment {id.name} uses version bit {bit.toNat}, above 31"
  | deploymentWindowInverted id start expire =>
    s!"deployment {id.name} starts at {start.toNat} after it expires at {expire.toNat}"
  | powLimitTooWide bits => s!"pow limit is {bits} bits wide, above {maxTargetBits}"
  | powLimitBitsMismatch declared encoded =>
    "pow limit encodes to " ++ encoded.display ++ ", but pow limit bits are " ++
      declared.display
  | thresholdAboveWindow threshold window =>
    s!"rule change threshold {threshold.toNat} exceeds confirmation window {window.toNat}"
  | badHumanReadablePart text =>
    "invalid bech32 human-readable part " ++ Text.quoteText text
  | genesisMismatch network expected computed =>
    s!"genesis header digest mismatch on {network}: expected {expected.toHex}, " ++
      s!"computed {computed.toHex}"

end Flaw

end ChainParams

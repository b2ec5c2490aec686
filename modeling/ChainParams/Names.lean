import ChainParams.Registry.Identify
import ChainParams.Schema.Choice

/-!
# Names in texts

The names by which configuration texts call the known networks, the rule changes
and the kinds of address bytes.
-/

namespace ChainParams

/-- The known networks, in the order of their names. -/
def KnownNetwork.choice : Choice KnownNetwork where
  values := [mainnet, regtest, testnet3]
  name := KnownNetwork.name

/-- The name of the slot of a rule change. -/
def DeploymentId.slotName : DeploymentId → String
  | testDummy => "test_dummy"
  | csv => "csv"
  | segwit => "segwit"

/-- The rule changes, in table order. -/
def DeploymentId.choice : Choice DeploymentId where
  values := DeploymentId.all
  name := DeploymentId.slotName

/-- The kinds of address bytes. -/
def AddressIdKind.choice : Choice AddressIdKind where
  values := [pubKeyHash, scriptHash, ambiguous, unknown]
  name := AddressIdKind.name

end ChainParams

import ChainParams.Bytes

/-!
# Deployments of rule changes

Miners vote on a rule change by setting one bit of the block version inside a
window of time.  Every network has one slot for each known rule change, so a
table without a slot cannot be written down.
-/

namespace ChainParams

/-- The known rule changes. -/
inductive DeploymentId where
  | testDummy
  | csv
  | segwit
  deriving DecidableEq

namespace DeploymentId

/-- Every rule change, in table order. -/
def all : List DeploymentId := [testDummy, csv, segwit]

/-- The name that messages use. -/
def name : DeploymentId → String
  | testDummy => "testdummy"
  | csv => "csv"
  | segwit => "segwit"

end DeploymentId

/-- How one rule change is voted on: the version bit, and the median block
times between which votes count. -/
structure Deployment where
  bitNumber : UInt8
  startTime : UInt64
  expireTime : UInt64
  deriving DecidableEq

/-- A deployment whose vote is open from the first block on and never expires. -/
def Deployment.alwaysActive (bitNumber : UInt8) : Deployment :=
  ⟨bitNumber, 0, 0x7fffffffffffffff⟩

/-- One slot for each rule change. -/
structure DeploymentTable where
  testDummy : Deployment
  csv : Deployment
  segwit : Deployment
  deriving DecidableEq

namespace DeploymentTable

/-- The slot of a rule change. -/
def get (table : DeploymentTable) : DeploymentId → Deployment
  | .testDummy => table.testDummy
  | .csv => table.csv
  | .segwit => table.segwit

/-- Every slot with its rule change, in table order. -/
def slots (table : DeploymentTable) : List (DeploymentId × Deployment) :=
  [(.testDummy, table.testDummy), (.csv, table.csv), (.segwit, table.segwit)]

/-- The slots in table order are those that the rule changes name. -/
theorem slots_eq_map (table : DeploymentTable) :
    table.slots = DeploymentId.all.map fun id => (id, table.get id) := rfl

end DeploymentTable

end ChainParams

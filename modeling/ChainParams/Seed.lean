/-!
# Seeds

A node that knows no peer asks the seeds of its network, in the order in which
they are listed.
-/

namespace ChainParams

/-- A host that hands out addresses of peers, and whether it can filter them by
the services they offer. -/
structure Seed where
  host : String
  hasFiltering : Bool
  deriving DecidableEq

/-- The host and the port of a connection attempt. -/
def Seed.endpoint (s : Seed) (port : UInt16) : String :=
  s.host ++ ":" ++ toString port.toNat

end ChainParams

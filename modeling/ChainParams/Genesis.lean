import ChainParams.Flaw
import ChainParams.Header

/-!
# First blocks

Every network is anchored to its first block.  The anchor keeps the header, the
only transaction of the block, the hash by which nodes call the block, and the
double SHA-256 hash of the header, against which the header fields are checked.
The hash that nodes report comes from another hash function and is data here.
-/

namespace ChainParams

/-- The single transaction of a first block. -/
structure Coinbase where
  version : Int32
  previousOutputIndex : UInt32
  signatureScript : List UInt8
  sequence : UInt32
  value : Int64
  publicKeyScript : List UInt8
  lockTime : UInt32
  deriving DecidableEq

/-- The anchor of a network. -/
structure Genesis where
  header : Header
  coinbase : Coinbase
  hash : Hash
  headerDigest : Hash
  deriving DecidableEq

/-- Checks that the header fields of the anchor of a network give the digest
that is kept with them. -/
def Genesis.verify (g : Genesis) (network : String) : Except Flaw Unit :=
  if g.header.digest = g.headerDigest then .ok ()
  else .error (.genesisMismatch network g.headerDigest g.header.digest)

end ChainParams

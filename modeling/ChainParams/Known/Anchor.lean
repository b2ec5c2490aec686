import ChainParams.Genesis

/-!
# Anchors of the known networks

The first blocks of the known networks share their transaction, and therefore
the root of their transactions; they differ in time, difficulty and nonce.
-/

namespace ChainParams.Known

/-- The root of the transactions of every first block. -/
def merkleRoot : Hash :=
  .ofNat 0xe0028eb9648db56b1ac77cf090b99048a8007e2bb64b68f092c03c7f56a662c7

/-- The input script of the transaction: a difficulty, a counter, and the
headline of a newspaper. -/
def signatureScript : List UInt8 :=
  [0x04, 0xff, 0xff, 0x00, 0x1d, 0x01, 0x04, 0x45] ++
    utf8 "The Times 03/Jan/2009 Chancellor on brink of second bailout for banks"

/-- The output script of the transaction: a public key and the instruction to
check a signature against it. -/
def publicKeyScript : List UInt8 :=
  (bigEndian 67 0x4104678afdb0fe5548271967f1a67130b7105cd6a828e03909a67962e0ea1f61deb649f6bc3f4cef38c4f35504e51ec112de5c384df7ba0b8d578a4c702b6bf11d5fac).toList

/-- The transaction of every first block. -/
def coinbase : Coinbase where
  version := 1
  previousOutputIndex := 0xffffffff
  signatureScript := signatureScript
  sequence := 0xffffffff
  value := 5000000000
  publicKeyScript := publicKeyScript
  lockTime := 0

/-- The header of a first block. -/
def firstHeader (timestamp bits nonce : UInt32) : Header :=
  ⟨1, .zero, merkleRoot, timestamp, ⟨bits⟩, nonce⟩

/-- The first block of the main network. -/
def mainnetGenesis : Genesis where
  header := firstHeader 0x52db2d02 0x1e0ffff0 0x0121b062
  coinbase := coinbase
  hash := .ofNat 0x00000ffd590b1485b3caadc19b22e6379c733355108f107a430458cdf3407ab6
  headerDigest := .ofNat 0xb190c52a0ecdabf5a21079cb9ee0792156e3c1e8ee7f1721826c9bd02fa1975e

/-- The first block of the public test network. -/
def testnet3Genesis : Genesis where
  header := firstHeader 1390666206 0x1e0ffff0 0xe627c9c3
  coinbase := coinbase
  hash := .ofNat 0x00000bafbc94add76cb75e2ec92894837288a481e5c005f6563d91623bf8bc2c
  headerDigest := .ofNat 0x12975675a54c72736e7cc2fb27df543bdda9d4e98825dcb6db718f62f9fd457b

/-- The first block of the regression test network. -/
def regtestGenesis : Genesis where
  header := firstHeader 1417713337 0x207fffff 1096447
  coinbase := coinbase
  hash := .ofNat 0x000008ca1832a4baf228eb1553c03d3a2c8e02399550dd6ea8d65cec3ef23d2e
  headerDigest := .ofNat 0x352e09fd884cef12f39f91fe08475f15841d29ec006d6f081c74ac78a6ccf367

end ChainParams.Known

import ChainParams.Compact
import ChainParams.Hash

/-!
# Block headers

A header is six fields of fixed width, 80 bytes in all, and its double SHA-256
hash identifies it.
-/

namespace ChainParams

/-- The fields of a block header, in the order in which they are laid out. -/
structure Header where
  version : Int32
  previous : Hash
  merkleRoot : Hash
  timestamp : UInt32
  bits : Compact
  nonce : UInt32
  deriving DecidableEq

namespace Header

/-- The layout of a header: numbers are little-endian, and hashes are in
internal order. -/
def toBytes (h : Header) : Vector UInt8 80 :=
  littleEndian 4 h.version.toUInt32.toNat ++ h.previous.bytes ++ h.merkleRoot.bytes ++
    littleEndian 4 h.timestamp.toNat ++ littleEndian 4 h.bits.code.toNat ++
    littleEndian 4 h.nonce.toNat

/-- The double SHA-256 hash of the layout. -/
def digest (h : Header) : Hash :=
  doubleSha256 h.toBytes.toList

/-- Whether the header has no predecessor. -/
def isFirst (h : Header) : Bool :=
  h.previous.isZero

end Header

end ChainParams

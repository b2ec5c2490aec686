import ChainParams.Bytes.Hex
import ChainParams.Hash.Sha256

/-!
# Hashes

A hash is 32 bytes.  It is stored in the order in which the hash function emits
it and displayed in the opposite order, as the tools of the chain do.
-/

namespace ChainParams

/-- A 32-byte hash in internal order. -/
structure Hash where
  bytes : Vector UInt8 32
  deriving DecidableEq

namespace Hash

/-- The hash of zero bytes only, which stands for "no previous block". -/
def zero : Hash := ⟨Vector.replicate 32 0⟩

/-- Whether every byte is zero. -/
def isZero (h : Hash) : Bool := h == zero

/-- The display form: the bytes in reversed order, as small hexadecimal
digits. -/
def toHex (h : Hash) : String :=
  Hex.encode h.bytes.reverse.toList

/-- The hash with the given display form. -/
def ofHex (text : String) : Except HexError Hash := do
  let bytes ← Hex.decodeExactly 32 text
  return ⟨bytes.reverse⟩

/-- The hash whose display form is the given number in hexadecimal. -/
def ofNat (n : Nat) : Hash := ⟨littleEndian 32 n⟩

/-- Hashes are ordered by their bytes in internal order. -/
def order (a b : Hash) : Ordering :=
  compare a.bytes.toList b.bytes.toList

end Hash

/-- The SHA-256 hash of a sequence of bytes. -/
def sha256 (data : List UInt8) : Hash := ⟨Sha256.digest data⟩

/-- SHA-256 applied twice, which identifies blocks. -/
def doubleSha256 (data : List UInt8) : Hash := ⟨Sha256.digest (Sha256.digest data).toList⟩

end ChainParams

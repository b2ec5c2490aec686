import ChainParams.Bytes.Hex

/-!
# Network magics

Every message between peers starts with four bytes that name the network.  The
bytes are the little-endian form of a 32-bit number.
-/

namespace ChainParams

/-- The number that names a network on the wire. -/
structure Magic where
  value : UInt32
  deriving DecidableEq

namespace Magic

/-- The bytes at the start of a message, in wire order. -/
def wire (m : Magic) : Vector UInt8 4 :=
  littleEndian 4 m.value.toNat

/-- The magic with the given wire bytes. -/
def ofWire (bytes : Vector UInt8 4) : Magic :=
  ⟨UInt32.ofNat (ofLittleEndian bytes.toList)⟩

/-- The number in eight hexadecimal digits behind `0x`. -/
def display (m : Magic) : String :=
  "0x" ++ Hex.padded 8 m.value.toNat

end Magic

end ChainParams

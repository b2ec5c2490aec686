import ChainParams.Bytes.Hex
import ChainParams.Target

/-!
# Compact targets

Headers carry a target in 32 bits: one byte counts the length of the target in
bytes, one bit is a sign, and 23 bits hold the leading part of the target.
Targets are never negative, so a set sign bit stands for zero.  Encoding keeps
the three leading bytes, or two of them where the leading bit would reach the
sign bit.
-/

namespace ChainParams

/-- A target in compact form. -/
structure Compact where
  code : UInt32
  deriving DecidableEq

namespace Compact

/-- The length in bytes that the code announces. -/
def exponent (c : Compact) : Nat := c.code.toNat / 0x1000000

/-- The leading part of the target. -/
def mantissa (c : Compact) : Nat := c.code.toNat % 0x800000

/-- Whether the sign bit is set. -/
def isNegative (c : Compact) : Bool := c.code.toNat / 0x800000 % 2 == 1

/-- The target that a code stands for. -/
def target (c : Compact) : Nat :=
  if c.isNegative then 0
  else if c.exponent ≤ 3 then c.mantissa / Nat.pow 256 (3 - c.exponent)
  else c.mantissa * Nat.pow 256 (c.exponent - 3)

/-- The three leading bytes of a target, with zero bytes below it if it is
shorter. -/
def leading (t : Nat) : Nat :=
  if byteLength t ≤ 3 then t * Nat.pow 256 (3 - byteLength t)
  else t / Nat.pow 256 (byteLength t - 3)

/-- The code with the given length and leading part.  A length of more than a
byte keeps its lowest eight bits. -/
def ofParts (exponent mantissa : Nat) : Compact :=
  ⟨UInt32.ofNat (exponent % 256 * 0x1000000 + mantissa)⟩

/-- The code of a target. -/
def ofTarget (t : Nat) : Compact :=
  if t = 0 then ⟨0⟩
  else if leading t < 0x800000 then ofParts (byteLength t) (leading t)
  else ofParts (byteLength t + 1) (leading t / 256)

/-- The code as it is shown: eight hexadecimal digits behind `0x`. -/
def display (c : Compact) : String := "0x" ++ Hex.padded 8 c.code.toNat

end Compact

end ChainParams

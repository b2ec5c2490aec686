/-!
# Hexadecimal digits

The value of a digit, by its code point.  Bytes of a text and characters share
this rule, since all digits are below the code points that take two bytes.
-/

namespace ChainParams.Text

/-- The value of the hexadecimal digit, small or capital, with a code point. -/
def hexValue? (code : Nat) : Option Nat :=
  if 0x30 ≤ code ∧ code ≤ 0x39 then some (code - 0x30)
  else if 0x41 ≤ code ∧ code ≤ 0x46 then some (code - 0x41 + 10)
  else if 0x61 ≤ code ∧ code ≤ 0x66 then some (code - 0x61 + 10)
  else none

/-- A digit is worth less than sixteen. -/
theorem hexValue_lt {code value : Nat} (h : hexValue? code = some value) : value < 16 := by
  unfold hexValue? at h
  grind

end ChainParams.Text

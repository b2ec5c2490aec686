import ChainParams.Text.HexDigit

/-!
# Proof-of-work targets

A target is a natural number, written as hexadecimal digits.  Reading is more
generous than writing: any number of `0x` marks may come first, then one plus
sign, and underscores may stand anywhere after the first digit.  A target that
a text gives is at most 256 bits wide.
-/

namespace ChainParams

/-- The number of bits a number is wide. -/
def bitLength (n : Nat) : Nat :=
  if n = 0 then 0 else n.log2 + 1

/-- The number of bytes a number is long. -/
def byteLength (n : Nat) : Nat :=
  (bitLength n + 7) / 8

/-- The width of the widest target. -/
def maxTargetBits : Nat := 256

/-- Why a text does not give a target. -/
inductive TargetError where
  | noDigits
  | badDigit
  | tooWide (bits : Nat)
  deriving DecidableEq

/-- The wording of a target error. -/
def TargetError.message : TargetError → String
  | noDigits => "cannot parse integer from empty string"
  | badDigit => "invalid digit found in string"
  | tooWide bits =>
    "target is " ++ toString bits ++ " bits wide, above " ++ toString maxTargetBits

namespace Target

/-- The text without the `0x` marks at its start. -/
def dropMarks : List Char → List Char
  | '0' :: 'x' :: rest => dropMarks rest
  | text => text

/-- The text without a plus sign at its start, unless a second one follows. -/
def dropPlus : List Char → List Char
  | '+' :: '+' :: rest => '+' :: '+' :: rest
  | '+' :: rest => rest
  | text => text

/-- The number that digits and underscores stand for, on top of the digits
already read. -/
def readDigits (value : Nat) : List Char → Except TargetError Nat
  | [] => .ok value
  | '_' :: rest => readDigits value rest
  | c :: rest =>
    match Text.hexValue? c.toNat with
    | some d => readDigits (16 * value + d) rest
    | none => .error .badDigit

/-- The number that a text without marks and sign stands for. -/
def readNumber : List Char → Except TargetError Nat
  | [] => .error .noDigits
  | '_' :: _ => .error .badDigit
  | digits => readDigits 0 digits

/-- The target that a text gives. -/
def ofText (text : String) : Except TargetError Nat := do
  let target ← readNumber (dropPlus (dropMarks text.toList))
  if bitLength target > maxTargetBits then .error (.tooWide (bitLength target)) else .ok target

/-- The target as small hexadecimal digits. -/
def toText (target : Nat) : String :=
  String.ofList (Nat.toDigits 16 target)

/-- The highest target that is `bits` bits wide. -/
def highest (bits : Nat) : Nat := Nat.pow 2 bits - 1

end Target

end ChainParams

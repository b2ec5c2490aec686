import ChainParams.Bytes
import ChainParams.Text.HexDigit
import ChainParams.Text.Quoted

/-!
# Hexadecimal texts

A byte is written as two small hexadecimal digits.  Reading takes digits of
either case and works on the UTF-8 bytes of the text: an odd count of them is
refused first, then a count that does not fit the wanted width, then the first
byte that is not a digit.
-/

namespace ChainParams

/-- Why a text is not the hexadecimal form of the wanted bytes. -/
inductive HexError where
  | oddLength
  | wrongLength
  | badDigit (byte : UInt8) (position : Nat)
  deriving DecidableEq

/-- The wording of a hexadecimal error; a bad byte is shown as the character
whose code point is its value. -/
def HexError.message : HexError → String
  | oddLength => "Odd number of digits"
  | wrongLength => "Invalid string length"
  | badDigit byte position =>
    "Invalid character " ++ Text.quoteChar (Char.ofNat byte.toNat) ++ " at position " ++
      toString position

namespace Hex

/-- The two hexadecimal digits of a byte. -/
def byteDigits (b : UInt8) : List Char :=
  [Nat.digitChar (b.toNat / 16), Nat.digitChar (b.toNat % 16)]

/-- Bytes in reading order as small hexadecimal digits. -/
def encode (bytes : List UInt8) : String :=
  String.ofList (bytes.flatMap byteDigits)

/-- A number in at least `width` small hexadecimal digits. -/
def padded (width n : Nat) : String :=
  let digits := Nat.toDigits 16 n
  String.ofList (List.replicate (width - digits.length) '0' ++ digits)

/-- The value of the digit at a position, or the error that names it. -/
def digitAt (position : Nat) (b : UInt8) : Except HexError Nat :=
  match Text.hexValue? b.toNat with
  | some n => .ok n
  | none => .error (.badDigit b position)

/-- The bytes that pairs of digits stand for; `position` counts the digits
already read. -/
def decodePairs (position : Nat) : List UInt8 → Except HexError (List UInt8)
  | [] => .ok []
  | [_] => .error .oddLength
  | high :: low :: rest => do
    let h ← digitAt position high
    let l ← digitAt (position + 1) low
    let bytes ← decodePairs (position + 2) rest
    return UInt8.ofNat (16 * h + l) :: bytes

/-- The bytes that a hexadecimal text of any even length stands for. -/
def decode (text : String) : Except HexError (List UInt8) :=
  let digits := utf8 text
  if digits.length % 2 = 1 then .error .oddLength else decodePairs 0 digits

/-- Reading pairs of digits gives half as many bytes as there are digits. -/
theorem length_of_decodePairs {digits bytes : List UInt8} {position : Nat}
    (h : decodePairs position digits = .ok bytes) : 2 * bytes.length = digits.length := by
  fun_induction decodePairs position digits generalizing bytes with
  | case1 position => simp_all
  | case2 position b => simp at h
  | case3 position high low rest ih =>
      cases hh : digitAt position high with
      | error e => simp [hh, bind, Except.bind] at h
      | ok a =>
          cases hl : digitAt (position + 1) low with
          | error e => simp [hh, hl, bind, Except.bind] at h
          | ok b =>
              cases hr : decodePairs (position + 2) rest with
              | error e => simp [hh, hl, hr, bind, Except.bind] at h
              | ok tail =>
                  simp only [hh, hl, hr, bind, Except.bind, pure, Except.pure,
                    Except.ok.injEq] at h
                  subst h
                  have hlength := ih hr
                  simp only [List.length_cons]
                  omega

/-- The bytes that a hexadecimal text stands for, of which there must be
exactly `width`. -/
def decodeExactly (width : Nat) (text : String) : Except HexError (Vector UInt8 width) :=
  let digits := utf8 text
  if digits.length % 2 = 1 then .error .oddLength
  else if hwidth : digits.length / 2 = width then
    match h : decodePairs 0 digits with
    | .ok bytes =>
      .ok ⟨bytes.toArray, by have := length_of_decodePairs h; simp; omega⟩
    | .error e => .error e
  else .error .wrongLength

end Hex

end ChainParams

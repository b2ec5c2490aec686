import ChainParams.Json.Fault
import ChainParams.Schema

/-!
# Leaves

How the formats at the leaves of a schema are read and written.  A number must
be an integer literal within the range of its format; a text may have a format
of its own, which is read after the string around it.
-/

namespace ChainParams

open Json (Fault Mismatch)

/-! ## Integers -/

/-- An integer between two bounds. -/
def readInteger (wanted : String) (low high : Int) : Json → Except Fault Int
  | .num l =>
    match l.integer? with
    | some n => if low ≤ n ∧ n ≤ high then .ok n else .error (.data (.outOfRange n wanted))
    | none => .error (Json.mistaken wanted (.num l))
  | j => .error (Json.mistaken wanted j)

/-! ## Texts -/

/-- A text. -/
def readText : Json → Except Fault String
  | .str (some text) => .ok text
  | j => .error (Json.mistaken "a string" j)

/-- A text in a hexadecimal format. -/
def readHex {α : Type} (read : String → Except HexError α) (j : Json) : Except Fault α := do
  let text ← readText j
  match read text with
  | .ok value => .ok value
  | .error e => .error (.data (.badHex e))

/-- A text that gives a target. -/
def readTarget (j : Json) : Except Fault Nat := do
  let text ← readText j
  match Target.ofText text with
  | .ok value => .ok value
  | .error e => .error (.data (.badTarget e))

/-! ## Formats -/

namespace Kind

/-- Reads a value of a format. -/
def read (kind : Kind) (j : Json) : Except Fault kind.Value :=
  match kind with
  | u8 => (readInteger "u8" 0 0xff j).map fun n => UInt8.ofNat n.toNat
  | u16 => (readInteger "u16" 0 0xffff j).map fun n => UInt16.ofNat n.toNat
  | u32 => (readInteger "u32" 0 0xffffffff j).map fun n => UInt32.ofNat n.toNat
  | u64 => (readInteger "u64" 0 0xffffffffffffffff j).map fun n => UInt64.ofNat n.toNat
  | i32 => (readInteger "i32" (-0x80000000) 0x7fffffff j).map Int32.ofInt
  | i64 => (readInteger "i64" (-0x8000000000000000) 0x7fffffffffffffff j).map Int64.ofInt
  | boolean =>
    match j with
    | .bool b => .ok b
    | j => .error (Json.mistaken "a boolean" j)
  | text => readText j
  | hash => readHex Hash.ofHex j
  | bytes => readHex Hex.decode j
  | bytes4 => readHex (Hex.decodeExactly 4) j
  | target => readTarget j

/-- Writes a value of a format. -/
def write (kind : Kind) (value : kind.Value) : Json :=
  match kind, value with
  | u8, (n : UInt8) => .ofInt n.toNat
  | u16, (n : UInt16) => .ofInt n.toNat
  | u32, (n : UInt32) => .ofInt n.toNat
  | u64, (n : UInt64) => .ofInt n.toNat
  | i32, (n : Int32) => .ofInt n.toInt
  | i64, (n : Int64) => .ofInt n.toInt
  | boolean, (b : Bool) => .bool b
  | text, (s : String) => .ofText s
  | hash, (h : Hash) => .ofText h.toHex
  | bytes, (bs : List UInt8) => .ofText (Hex.encode bs)
  | bytes4, (bs : Vector UInt8 4) => .ofText (Hex.encode bs.toList)
  | target, (n : Nat) => .ofText (Target.toText n)

end Kind

end ChainParams

/-!
# Bytes

Texts as their UTF-8 bytes, and numbers as fixed counts of bytes in either
order.  Fixed-width byte strings are vectors, so their length is part of the
type; the arithmetic is on natural numbers, where it can be reasoned about.
-/

namespace ChainParams

/-- The UTF-8 bytes of a text. -/
def utf8 (text : String) : List UInt8 :=
  text.toList.flatMap String.utf8EncodeChar

/-- The lowest `width` bytes of a number, least significant first. -/
def littleEndian (width n : Nat) : Vector UInt8 width :=
  Vector.ofFn fun i => UInt8.ofNat (n / Nat.pow 256 i.val)

/-- The number whose bytes, least significant first, are the given ones. -/
def ofLittleEndian : List UInt8 → Nat
  | [] => 0
  | b :: rest => b.toNat + 256 * ofLittleEndian rest

/-- The lowest `width` bytes of a number, most significant first. -/
def bigEndian (width n : Nat) : Vector UInt8 width :=
  (littleEndian width n).reverse

end ChainParams

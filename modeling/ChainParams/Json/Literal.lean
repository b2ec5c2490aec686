import ChainParams.Decimal.Shortest

/-!
# Number literals

A literal keeps what distinguishes one number of a text from another: its sign,
its whole part, the digits of its fraction and its exponent.  It is an integer
when it has neither fraction nor exponent, is not a negative zero and fits in 64
bits; every other literal is a floating-point number, and is worth what double
precision makes of its leading digits.
-/

namespace ChainParams.Json

/-- A number as it is written.  An empty fraction stands for none. -/
structure Literal where
  negative : Bool
  whole : Nat
  fraction : List (Fin 10)
  exponent : Option Int
  deriving DecidableEq

namespace Literal

/-- The literal of an integer. -/
def ofInt (n : Int) : Literal := ⟨n < 0, n.natAbs, [], none⟩

/-- The digit that a character writes. -/
def digit? (c : Char) : Option (Fin 10) :=
  if h : 48 ≤ c.toNat ∧ c.toNat < 58 then some ⟨c.toNat - 48, by omega⟩ else none

/-- The character of a digit. -/
def digitChar (d : Fin 10) : Char := Nat.digitChar d.val

/-- The number that digits stand for, most significant first. -/
def ofDigits (digits : List (Fin 10)) : Nat :=
  digits.foldl (fun n d => 10 * n + d.val) 0

/-! ## Writing -/

/-- The spelling of a literal. -/
def spelling (l : Literal) : List Char :=
  (if l.negative then ['-'] else []) ++ Nat.toDigits 10 l.whole ++
    (match l.fraction with
      | [] => []
      | digits => '.' :: digits.map digitChar) ++
    (match l.exponent with
      | none => []
      | some e => 'e' :: (if e < 0 then ['-'] else []) ++ Nat.toDigits 10 e.natAbs)

/-! ## Reading -/

/-- What stands at the start of a text where a number begins. -/
inductive Scan where
  | number (l : Literal) (rest : List Char)
  | cut
  | malformed

/-- The digits at the start of a text, and what follows them. -/
def takeDigits : List Char → List (Fin 10) × List Char
  | [] => ([], [])
  | c :: rest =>
    match digit? c with
    | some d => (d :: (takeDigits rest).1, (takeDigits rest).2)
    | none => ([], c :: rest)

/-- The sign of an exponent, and what follows it. -/
def takeSign : List Char → Bool × List Char
  | '-' :: rest => (true, rest)
  | '+' :: rest => (false, rest)
  | text => (false, text)

/-- Reads the sign and the digits of an exponent. -/
def scanExponentDigits (l : Literal) (text : List Char) : Scan :=
  match takeDigits (takeSign text).2 with
  | ([], []) => .cut
  | ([], _ :: _) => .malformed
  | (digits, rest) =>
    let e : Int := ofDigits digits
    .number { l with exponent := some (if (takeSign text).1 then -e else e) } rest

/-- Reads an exponent, if one stands here. -/
def scanExponent (l : Literal) : List Char → Scan
  | [] => .number l []
  | c :: rest => if c = 'e' ∨ c = 'E' then scanExponentDigits l rest else .number l (c :: rest)

/-- Reads a fraction, if one stands here, and an exponent. -/
def scanFraction (l : Literal) (text : List Char) : Scan :=
  match text with
  | '.' :: rest =>
    match takeDigits rest with
    | ([], []) => .cut
    | ([], _ :: _) => .malformed
    | (digits, rest) => scanExponent { l with fraction := digits } rest
  | _ => scanExponent l text

/-- Reads a literal without its sign.  A zero is not followed by a digit. -/
def scanMagnitude (negative : Bool) (text : List Char) : Scan :=
  match takeDigits text with
  | ([], []) => .cut
  | ([], _ :: _) => .malformed
  | (d :: digits, rest) =>
    if d = 0 ∧ digits ≠ [] then .malformed
    else scanFraction ⟨negative, ofDigits (d :: digits), [], none⟩ rest

/-- Reads a literal. -/
def scan (text : List Char) : Scan :=
  match text with
  | '-' :: rest => scanMagnitude true rest
  | _ => scanMagnitude false text

/-! ## Values -/

/-- The value of a literal with neither fraction nor exponent. -/
def signed (l : Literal) : Int := if l.negative then -(l.whole : Int) else l.whole

/-- The value of a literal that is an integer of at most 64 bits. -/
def integer? (l : Literal) : Option Int :=
  if l.fraction = [] ∧ l.exponent = none ∧ ¬(l.negative ∧ l.whole = 0) ∧
      -0x8000000000000000 ≤ l.signed ∧ l.signed < 0x10000000000000000 then some l.signed
  else none

/-- The leading digits of a number that fit in 64 bits, and how many digits
follow them. -/
def clip (n : Nat) : Nat × Nat :=
  if n < 0x10000000000000000 then (n, 0)
  else ((clip (n / 10)).1, (clip (n / 10)).2 + 1)
termination_by n
decreasing_by all_goals omega

/-- Takes digits in behind a number while it fits in 64 bits, and counts
them. -/
def absorb (n : Nat) : List (Fin 10) → Nat × Nat
  | [] => (n, 0)
  | d :: digits =>
    if 10 * n + d.val < 0x10000000000000000 then
      ((absorb (10 * n + d.val) digits).1, (absorb (10 * n + d.val) digits).2 + 1)
    else (n, 0)

/-- A power of ten in double precision. -/
def powerOfTen (n : Nat) : Float := Float.ofScientific 1 false n

/-- Scales a number by a power of ten, at most 308 places at a time; `none` if
the result leaves the range of double precision. -/
def scaled (x : Float) (e : Int) : Option Float :=
  if 308 < e then if x == 0 then some x else none
  else if 0 ≤ e then
    let y := x * powerOfTen e.toNat
    if y.isInf then none else some y
  else if -308 ≤ e then some (x / powerOfTen (-e).toNat)
  else if x == 0 then some x
  else scaled (x / powerOfTen 308) (e + 308)
termination_by e.natAbs

/-- The magnitude of a literal in double precision; `none` if it is out of
range. -/
def magnitude? (l : Literal) : Option Float :=
  let (head, up) := clip l.whole
  let (head, down) := absorb head l.fraction
  let e := l.exponent.getD 0
  if 0x80000000 ≤ e.natAbs then
    if head ≠ 0 ∧ 0 < e then none else some 0
  else scaled (UInt64.ofNat head).toFloat ((up : Int) - (down : Int) + e)

/-- The value of a literal in double precision; `none` if it is out of
range. -/
def double? (l : Literal) : Option Float :=
  l.magnitude?.map fun x => if l.negative then -x else x

/-- Floating-point numbers are shown without an exponent while their leading
digit lies between the fifth place after the point and the sixteenth before it. -/
def style : Decimal.Style := ⟨-5, 15⟩

/-- The value of a literal as a floating-point number in the fewest digits. -/
def displayDouble (l : Literal) : String :=
  style.writeDouble (l.double?.getD 0)

end Literal

end ChainParams.Json

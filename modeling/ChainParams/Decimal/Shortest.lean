/-!
# Shortest decimals

A binary floating-point number stands for every real number that rounds to it.
The shortest decimal is taken from the coarsest grid `10 ^ e` that has a point
among those reals; of two such points the one nearer to the number wins, and of
two equally near ones the even one.  All comparisons are exact.
-/

namespace ChainParams.Decimal

/-- A positive binary number `mantissa * 2 ^ exponent`; `narrow` says that the
gap to the next number below is half the gap to the next one above. -/
structure Binary where
  mantissa : Nat
  exponent : Int
  narrow : Bool

/-- A decimal number `digits * 10 ^ exponent`. -/
structure Scaled where
  digits : Nat
  exponent : Int
  deriving DecidableEq

/-- The point of the grid `10 ^ e` that a binary number is written as, if one
rounds to it.  Both sides of every comparison are scaled to whole numbers in
quarters of the last binary place. -/
def onGrid (x : Binary) (e : Int) : Option Scaled :=
  let unit := Nat.pow 2 (x.exponent - 2).toNat * Nat.pow 10 (-e).toNat
  let step := Nat.pow 10 e.toNat * Nat.pow 2 (2 - x.exponent).toNat
  let value := 4 * x.mantissa * unit
  let low := (4 * x.mantissa - if x.narrow then 1 else 2) * unit
  let high := (4 * x.mantissa + 2) * unit
  let even := x.mantissa % 2 = 0
  let inside (n : Nat) : Bool :=
    if even then low ≤ n * step && n * step ≤ high else low < n * step && n * step < high
  let below := value / step
  let above := below + 1
  if inside below && inside above then
    let down := value - below * step
    let up := above * step - value
    if down < up ∨ (down = up ∧ below % 2 = 0) then some ⟨below, e⟩ else some ⟨above, e⟩
  else if inside below then some ⟨below, e⟩
  else if inside above then some ⟨above, e⟩
  else none

/-- Tries the given number of grids from `10 ^ e` on, each ten times as fine as
the one before. -/
def firstGrid (x : Binary) : Nat → Int → Option Scaled
  | 0, _ => none
  | grids + 1, e => (onGrid x e).or (firstGrid x grids (e - 1))

/-- The shortest decimal that rounds to a double-precision number: every finite
one has a point on a grid from `10 ^ 310` down to `10 ^ -344`. -/
def shortest (x : Binary) : Scaled :=
  (firstGrid x 655 310).getD ⟨0, 0⟩

/-- How a decimal is written: in which range of exponents of the leading digit
it is written without an exponent. -/
structure Style where
  lowest : Int
  highest : Int

/-- A run of zeros. -/
def zeros (n : Nat) : List Char := List.replicate n '0'

/-- A positive decimal, with at least one digit after the point unless it has
an exponent, whose sign is always written. -/
def Style.write (style : Style) (d : Scaled) : String :=
  let digits := Nat.toDigits 10 d.digits
  let leading := d.exponent + digits.length - 1
  String.ofList <|
    if style.lowest ≤ leading ∧ leading ≤ style.highest then
      if 0 ≤ d.exponent then digits ++ zeros d.exponent.toNat ++ ".0".toList
      else if 0 ≤ leading then
        digits.take (leading.toNat + 1) ++ '.' :: digits.drop (leading.toNat + 1)
      else "0.".toList ++ zeros (-leading - 1).toNat ++ digits
    else
      let mantissa :=
        match digits with
        | d :: [] => [d]
        | d :: rest => d :: '.' :: rest
        | [] => []
      mantissa ++ ['e', if leading < 0 then '-' else '+'] ++ Nat.toDigits 10 leading.natAbs

/-- The magnitude of a finite double-precision number; zero has none. -/
def ofDouble (x : Float) : Option Binary :=
  let bits : Nat := x.toBits.toNat % 0x8000000000000000
  let field : Nat := bits / 0x10000000000000
  let fraction : Nat := bits % 0x10000000000000
  if bits = 0 then none
  else if field = 0 then some ⟨fraction, -1074, false⟩
  else some ⟨fraction + 0x10000000000000, Int.ofNat field - 1075, fraction = 0 && 1 < field⟩

/-- A finite double-precision number in the fewest digits that read back. -/
def Style.writeDouble (style : Style) (x : Float) : String :=
  let sign := if 0x8000000000000000 ≤ x.toBits.toNat then "-" else ""
  match ofDouble x with
  | none => sign ++ "0.0"
  | some b => sign ++ style.write (shortest b)

end ChainParams.Decimal

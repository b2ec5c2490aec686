import ChainParams.Json.Tree
import Mathlib.Data.List.Induction
import Mathlib.Data.Nat.Digits.Defs

/-!
# Numerals

A numeral is a number as the grammar of JSON has it: a sign, digits of which a zero is only the
first one if it is the only one, and then possibly a fraction and an exponent.  It may be of any
length.  A numeral is read off the front of every text that does not go on with it
(`Numeral.scan_letters`), and the literal that is kept of it tells whether it is an integer and
which one, as far as 64 bits reach (`Numeral.integer?_literal`).
-/

namespace ChainParams.Json

namespace Literal

/-- What follows a number in a text does not go on with it. -/
def Closes (rest : List Char) : Prop :=
  ∀ c ∈ rest.head?, digit? c = none ∧ c ≠ '.' ∧ c ≠ 'e' ∧ c ≠ 'E'

/-! ## Digits -/

@[simp] theorem digit?_digitChar (d : Fin 10) : digit? (digitChar d) = some d := by
  revert d
  decide

/-- The digits at the start of a text end at the first character that is none. -/
theorem takeDigits_append (digits : List (Fin 10)) {rest : List Char}
    (hrest : ∀ c ∈ rest.head?, digit? c = none) :
    takeDigits (digits.map digitChar ++ rest) = (digits, rest) := by
  induction digits with
  | nil =>
      cases rest with
      | nil => rfl
      | cons c rest => simp [takeDigits, hrest c (by simp)]
  | cons d digits ih => simp [takeDigits, ih]

theorem takeSign_digitChar (d : Fin 10) (rest : List Char) :
    takeSign (digitChar d :: rest) = (false, digitChar d :: rest) := by
  have hsign : ∀ d : Fin 10, digitChar d ≠ '-' ∧ digitChar d ≠ '+' := by decide
  unfold takeSign
  split
  · rename_i heq
    exact absurd (List.cons.inj heq).1 (hsign d).1
  · rename_i heq
    exact absurd (List.cons.inj heq).1 (hsign d).2
  · rfl

theorem scanFraction_of_ne (l : Literal) {text : List Char} (h : ∀ c ∈ text.head?, c ≠ '.') :
    scanFraction l text = scanExponent l text := by
  unfold scanFraction
  split
  · exact absurd rfl (h '.' rfl)
  · rfl

theorem ofDigits_concat (digits : List (Fin 10)) (d : Fin 10) :
    ofDigits (digits ++ [d]) = 10 * ofDigits digits + d.val := by
  rw [ofDigits, ofDigits, List.foldl_append]
  rfl

/-- Digits stand for the number of which they are the decimal digits. -/
theorem ofDigits_eq (digits : List (Fin 10)) :
    ofDigits digits = Nat.ofDigits 10 (digits.reverse.map Fin.val) := by
  induction digits using List.reverseRecOn with
  | nil => rfl
  | append_singleton digits d ih =>
      rw [ofDigits_concat, ih, List.reverse_append, List.reverse_singleton, List.singleton_append,
        List.map_cons, Nat.ofDigits_cons, Nat.add_comm]

/-- Only zeros stand for zero. -/
theorem eq_zero_of_ofDigits_eq_zero {digits : List (Fin 10)} (h : ofDigits digits = 0) :
    ∀ d ∈ digits, d = 0 := by
  induction digits using List.reverseRecOn with
  | nil => exact List.forall_mem_nil _
  | append_singleton digits d ih =>
      rw [ofDigits_concat] at h
      rw [List.forall_mem_append, List.forall_mem_singleton]
      exact ⟨ih (by omega), Fin.ext (by omega)⟩

end Literal

open Literal (Closes digitChar digit? takeDigits_append)

/-! ## The grammar -/

/-- The sign of an exponent, if it has one. -/
inductive Sign where
  | none
  | plus
  | minus
  deriving DecidableEq

def Sign.letters : Sign → List Char
  | none => []
  | plus => ['+']
  | minus => ['-']

/-- An exponent: its mark, a sign and digits. -/
structure Exponent where
  capital : Bool
  sign : Sign
  digits : List (Fin 10)
  digits_ne_nil : digits ≠ []

namespace Exponent

def letters (e : Exponent) : List Char :=
  (if e.capital then 'E' else 'e') :: (e.sign.letters ++ e.digits.map digitChar)

def value (e : Exponent) : Int :=
  if e.sign = .minus then -(Literal.ofDigits e.digits : Int) else Literal.ofDigits e.digits

end Exponent

/-- A zero comes first only where it is the only digit. -/
structure NoLeadingZero (digits : List (Fin 10)) : Prop where
  alone : digits.head? = some 0 → digits = [0]

/-- A numeral: a sign, the digits of the whole part, and those of the fraction, which has none if
there is no fraction. -/
structure Numeral where
  negative : Bool
  whole : List (Fin 10)
  fraction : List (Fin 10)
  exponent : Option Exponent
  whole_ne_nil : whole ≠ []
  no_leading_zero : NoLeadingZero whole

namespace Numeral

/-- A fraction as it is written. -/
def fractionLetters : List (Fin 10) → List Char
  | [] => []
  | digits => '.' :: digits.map digitChar

/-- An exponent as it is written, if there is one. -/
def exponentLetters : Option Exponent → List Char
  | none => []
  | some e => e.letters

/-- A numeral as it is written. -/
def letters (n : Numeral) : List Char :=
  (if n.negative then ['-'] else []) ++
    (n.whole.map digitChar ++ (fractionLetters n.fraction ++ exponentLetters n.exponent))

/-- A numeral as a text. -/
def text (n : Numeral) : String := String.ofList n.letters

/-- What is kept of a numeral. -/
def literal (n : Numeral) : Literal :=
  ⟨n.negative, Literal.ofDigits n.whole, n.fraction, n.exponent.map Exponent.value⟩

/-- The value that a numeral spells. -/
def json (n : Numeral) : Json := .num n.literal

/-! ## Reading -/

theorem takeSign_letters (sign : Sign) (d : Fin 10) (rest : List Char) :
    Literal.takeSign (sign.letters ++ digitChar d :: rest) =
      (decide (sign = .minus), digitChar d :: rest) := by
  cases sign with
  | none => exact Literal.takeSign_digitChar d rest
  | plus => rfl
  | minus => rfl

section

variable {rest : List Char} (hrest : Closes rest)
include hrest

theorem scanExponentDigits_letters (l : Literal) (e : Exponent) :
    Literal.scanExponentDigits l (e.sign.letters ++ (e.digits.map digitChar ++ rest)) =
      .number { l with exponent := some e.value } rest := by
  obtain ⟨capital, sign, digits, hdigits⟩ := e
  obtain ⟨d, digits, rfl⟩ := List.exists_cons_of_ne_nil hdigits
  have htake := takeDigits_append (d :: digits) fun c hc => (hrest c hc).1
  rw [List.map_cons, List.cons_append] at htake
  unfold Literal.scanExponentDigits
  rw [List.map_cons, List.cons_append, takeSign_letters]
  simp only [htake, Exponent.value, decide_eq_true_eq]

theorem scanExponent_letters {l : Literal} (hl : l.exponent = none) (e : Option Exponent) :
    Literal.scanExponent l (exponentLetters e ++ rest) =
      .number { l with exponent := e.map Exponent.value } rest := by
  cases e with
  | none =>
      have hsame : { l with exponent := none } = l := by rw [← hl]
      rw [exponentLetters, List.nil_append, Option.map_none, hsame]
      cases rest with
      | nil => rfl
      | cons c rest =>
          obtain ⟨-, -, hsmall, hcapital⟩ := hrest c rfl
          exact if_neg (not_or.mpr ⟨hsmall, hcapital⟩)
  | some e =>
      have hmark : (if e.capital then 'E' else 'e') = 'e' ∨
          (if e.capital then 'E' else 'e') = 'E' := by cases e.capital <;> simp
      rw [exponentLetters, Exponent.letters, List.cons_append, List.append_assoc]
      exact (if_pos hmark).trans (scanExponentDigits_letters hrest l e)

/-- Behind a fraction stands an exponent, or what closes the number. -/
theorem not_digit_of_exponentLetters (e : Option Exponent) :
    ∀ c ∈ (exponentLetters e ++ rest).head?, digit? c = none ∧ c ≠ '.' := by
  cases e with
  | none => exact fun c hc => ⟨(hrest c hc).1, (hrest c hc).2.1⟩
  | some e =>
      intro c hc
      obtain rfl := Option.some.inj hc
      cases e.capital <;> decide

theorem scanFraction_letters {l : Literal} (hfraction : l.fraction = [])
    (hexponent : l.exponent = none) (digits : List (Fin 10)) (e : Option Exponent) :
    Literal.scanFraction l (fractionLetters digits ++ (exponentLetters e ++ rest)) =
      .number { l with fraction := digits, exponent := e.map Exponent.value } rest := by
  have hnext := not_digit_of_exponentLetters hrest e
  cases digits with
  | nil =>
      rw [fractionLetters, List.nil_append,
        Literal.scanFraction_of_ne l fun c hc => (hnext c hc).2,
        scanExponent_letters hrest hexponent, ← hfraction]
  | cons d digits =>
      have htake := takeDigits_append (d :: digits) fun c hc => (hnext c hc).1
      simp only [fractionLetters, List.cons_append, Literal.scanFraction, htake]
      exact scanExponent_letters (l := { l with fraction := d :: digits }) hrest hexponent e

/-- Behind the whole part stands a fraction, an exponent, or what closes the number. -/
theorem not_digit_of_fractionLetters (digits : List (Fin 10)) (e : Option Exponent) :
    ∀ c ∈ (fractionLetters digits ++ (exponentLetters e ++ rest)).head?, digit? c = none := by
  cases digits with
  | nil => exact fun c hc => (not_digit_of_exponentLetters hrest e c hc).1
  | cons d digits =>
      intro c hc
      obtain rfl : '.' = c := Option.some.inj hc
      decide

theorem scanMagnitude_letters (n : Numeral) :
    Literal.scanMagnitude n.negative (n.whole.map digitChar ++
      (fractionLetters n.fraction ++ (exponentLetters n.exponent ++ rest))) =
        .number n.literal rest := by
  obtain ⟨negative, whole, fraction, exponent, hwhole, hleading⟩ := n
  obtain ⟨d, digits, rfl⟩ := List.exists_cons_of_ne_nil hwhole
  have htake := takeDigits_append (d :: digits)
    (not_digit_of_fractionLetters hrest fraction exponent)
  have hzero : ¬ (d = 0 ∧ digits ≠ []) := by
    rintro ⟨rfl, hne⟩
    exact hne (List.cons.inj (hleading.alone rfl)).2
  unfold Literal.scanMagnitude
  simp only [htake, if_neg hzero]
  exact scanFraction_letters (l := ⟨negative, _, [], none⟩) hrest rfl rfl fraction exponent

/-- A numeral is read off the front of a text that does not go on with it. -/
theorem scan_letters (n : Numeral) : Literal.scan (n.letters ++ rest) = .number n.literal rest := by
  have hminus : ∀ d : Fin 10, digitChar d ≠ '-' := by decide
  have hread := scanMagnitude_letters hrest n
  rw [letters, List.append_assoc, List.append_assoc, List.append_assoc]
  cases hsign : n.negative with
  | true =>
      rw [hsign] at hread
      exact hread
  | false =>
      rw [hsign] at hread
      obtain ⟨d, digits, hwhole⟩ := List.exists_cons_of_ne_nil n.whole_ne_nil
      rw [hwhole] at hread ⊢
      unfold Literal.scan
      split
      · rename_i heq
        exact absurd (List.cons.inj heq).1 (hminus d)
      · exact hread

end

/-- A numeral begins with a minus sign or a digit. -/
theorem letters_eq_cons (n : Numeral) :
    ∃ c tail, n.letters = c :: tail ∧ (c = '-' ∨ ∃ d, c = digitChar d) := by
  obtain ⟨d, digits, hwhole⟩ := List.exists_cons_of_ne_nil n.whole_ne_nil
  rw [letters, hwhole]
  cases n.negative with
  | true => exact ⟨'-', _, rfl, .inl rfl⟩
  | false => exact ⟨digitChar d, _, rfl, .inr ⟨d, rfl⟩⟩

/-! ## Integers -/

/-- A numeral without fraction and exponent that is not a negative zero. -/
structure IsInteger (n : Numeral) : Prop where
  fraction : n.fraction = []
  exponent : n.exponent = none
  not_negative_zero : ¬ (n.negative = true ∧ n.whole = [0])

/-- The number of which the whole part has the decimal digits. -/
def magnitude (n : Numeral) : Nat := Nat.ofDigits 10 (n.whole.reverse.map Fin.val)

/-- The number that the whole part stands for with the sign. -/
def value (n : Numeral) : Int := if n.negative then -(n.magnitude : Int) else n.magnitude

theorem signed_literal (n : Numeral) : n.literal.signed = n.value := by
  rw [Literal.signed, value, magnitude, ← Literal.ofDigits_eq]
  rfl

theorem whole_eq_zero_iff (n : Numeral) : Literal.ofDigits n.whole = 0 ↔ n.whole = [0] := by
  constructor
  · intro h
    obtain ⟨d, digits, hwhole⟩ := List.exists_cons_of_ne_nil n.whole_ne_nil
    have hd : d = 0 := Literal.eq_zero_of_ofDigits_eq_zero h d (hwhole ▸ List.mem_cons_self)
    exact n.no_leading_zero.alone (by rw [hwhole, hd, List.head?_cons])
  · intro h
    rw [h]
    rfl

/-- Of what is kept of a numeral an integer is made exactly if the numeral is one, of at most 64
bits, and then it is its value. -/
theorem integer?_literal {n : Numeral} {m : Int} : n.literal.integer? = some m ↔
    n.IsInteger ∧ n.value = m ∧ -0x8000000000000000 ≤ m ∧ m < 0x10000000000000000 := by
  have hinteger : (n.literal.fraction = [] ∧ n.literal.exponent = none ∧
      ¬ (n.literal.negative = true ∧ n.literal.whole = 0)) ↔ n.IsInteger := by
    change (n.fraction = [] ∧ n.exponent.map Exponent.value = none ∧
      ¬ (n.negative = true ∧ Literal.ofDigits n.whole = 0)) ↔ _
    rw [Option.map_eq_none_iff, whole_eq_zero_iff]
    exact ⟨fun ⟨hfraction, hexponent, hzero⟩ => ⟨hfraction, hexponent, hzero⟩,
      fun h => ⟨h.fraction, h.exponent, h.not_negative_zero⟩⟩
  rw [Literal.integer?, signed_literal, Option.ite_none_right_eq_some, Option.some.injEq]
  constructor
  · rintro ⟨⟨hfraction, hexponent, hzero, hlow, hhigh⟩, rfl⟩
    exact ⟨hinteger.mp ⟨hfraction, hexponent, hzero⟩, rfl, hlow, hhigh⟩
  · rintro ⟨hn, rfl, hlow, hhigh⟩
    obtain ⟨hfraction, hexponent, hzero⟩ := hinteger.mpr hn
    exact ⟨⟨hfraction, hexponent, hzero, hlow, hhigh⟩, rfl⟩

end Numeral

end ChainParams.Json

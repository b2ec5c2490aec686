import ChainParams.Proofs.Json.Numeral

/-!
# Literals are written as numerals

A literal is written as a numeral whose whole part has no zero in front of other digits
(`Literal.letters_numeral`), and all of the literal can be told from this numeral
(`Literal.literal_numeral`).  So a written number is read back wherever the numeral is.
-/

namespace ChainParams.Json.Literal

/-! ## Digits -/

/-- The digits of a number, most significant first. -/
def digitsOf (n : Nat) : List (Fin 10) :=
  if h : n < 10 then [⟨n, h⟩] else digitsOf (n / 10) ++ [⟨n % 10, by omega⟩]

theorem map_digitChar_digitsOf (n : Nat) : (digitsOf n).map digitChar = Nat.toDigits 10 n := by
  fun_induction digitsOf n with
  | case1 n hn => rw [Nat.toDigits_of_lt_base hn]; rfl
  | case2 n hn ih =>
      rw [Nat.toDigits_of_base_le (by decide) (by omega), List.map_append, ih]
      rfl

theorem ofDigits_digitsOf (n : Nat) : ofDigits (digitsOf n) = n := by
  fun_induction digitsOf n with
  | case1 n hn => simp [ofDigits]
  | case2 n hn ih =>
      rw [ofDigits_concat, ih]
      exact Nat.div_add_mod n 10

theorem digitsOf_ne_nil (n : Nat) : digitsOf n ≠ [] := by
  unfold digitsOf
  split <;> simp

/-- Only zero itself begins with a zero. -/
theorem eq_zero_of_head_digitsOf {n : Nat} (h : (digitsOf n).head? = some 0) : n = 0 := by
  fun_induction digitsOf n with
  | case1 n hn => simpa [Fin.ext_iff] using h
  | case2 n hn ih =>
      rw [List.head?_append, Option.or_of_isSome (by simp [digitsOf_ne_nil])] at h
      have := ih h
      omega

theorem noLeadingZero_digitsOf (n : Nat) : NoLeadingZero (digitsOf n) := by
  constructor
  intro h
  rw [eq_zero_of_head_digitsOf h]
  unfold digitsOf
  rfl

/-! ## Numerals of literals -/

/-- The exponent as it is written: only a minus sign is. -/
def exponentOf (e : Int) : Exponent :=
  ⟨false, if e < 0 then .minus else .none, digitsOf e.natAbs, digitsOf_ne_nil _⟩

theorem value_exponentOf (e : Int) : (exponentOf e).value = e := by
  rw [Exponent.value, exponentOf, ofDigits_digitsOf]
  by_cases he : e < 0
  · rw [if_pos he, if_pos rfl]
    omega
  · rw [if_neg he, if_neg Sign.noConfusion]
    omega

/-- The numeral as which a literal is written. -/
def numeral (l : Literal) : Numeral where
  negative := l.negative
  whole := digitsOf l.whole
  fraction := l.fraction
  exponent := l.exponent.map exponentOf
  whole_ne_nil := digitsOf_ne_nil _
  no_leading_zero := noLeadingZero_digitsOf _

theorem literal_numeral (l : Literal) : l.numeral.literal = l := by
  have hexponent : (l.exponent.map exponentOf).map Exponent.value = l.exponent := by
    rw [Option.map_map]
    exact (congrArg (Option.map · l.exponent) (funext value_exponentOf)).trans Option.map_id_apply
  change (⟨l.negative, ofDigits (digitsOf l.whole), l.fraction,
    (l.exponent.map exponentOf).map Exponent.value⟩ : Literal) = l
  rw [ofDigits_digitsOf, hexponent]

theorem letters_exponentOf (e : Int) :
    (exponentOf e).letters = 'e' :: (if e < 0 then ['-'] else []) ++ Nat.toDigits 10 e.natAbs := by
  rw [Exponent.letters, exponentOf, map_digitChar_digitsOf]
  by_cases he : e < 0
  · rw [if_pos he, if_pos he]
    rfl
  · rw [if_neg he, if_neg he]
    rfl

theorem letters_numeral (l : Literal) : l.numeral.letters = l.spelling := by
  obtain ⟨negative, whole, fraction, exponent⟩ := l
  rw [Numeral.letters, spelling, ← map_digitChar_digitsOf, List.append_assoc, List.append_assoc]
  cases exponent with
  | none => rfl
  | some e => exact congrArg (fun tail => _ ++ (_ ++ (_ ++ tail))) (letters_exponentOf e)

/-! ## Numerals of integers -/

theorem isInteger_numeral_ofInt (n : Int) : (ofInt n).numeral.IsInteger where
  fraction := rfl
  exponent := rfl
  not_negative_zero := by
    rintro ⟨hnegative, hwhole⟩
    have hn : n < 0 := of_decide_eq_true hnegative
    have hzero : n.natAbs = 0 := by
      rw [← ofDigits_digitsOf n.natAbs, show digitsOf n.natAbs = [0] from hwhole]
      rfl
    omega

theorem value_numeral_ofInt (n : Int) : (ofInt n).numeral.value = n := by
  rw [← Numeral.signed_literal, literal_numeral]
  simp only [signed, ofInt, decide_eq_true_eq]
  split <;> omega

/-- An integer of at most 64 bits is the value of its literal. -/
theorem integer?_ofInt {n : Int} (hlow : -0x8000000000000000 ≤ n)
    (hhigh : n < 0x10000000000000000) : (ofInt n).integer? = some n := by
  have hinteger := Numeral.integer?_literal.mpr
    ⟨isInteger_numeral_ofInt n, value_numeral_ofInt n, hlow, hhigh⟩
  rwa [literal_numeral] at hinteger

end ChainParams.Json.Literal

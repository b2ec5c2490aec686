import ChainParams.Proofs.Bytes.Hex
import ChainParams.Target
import Mathlib.Data.List.Forall2
import Mathlib.Data.Nat.Digits.Defs

/-!
# Targets are read as they were written

A target is written as its bare digits.  The marks, the sign and the underscores
that reading also takes never occur among digits, so reading goes straight through
them and finds the number that they stand for (`Denotes.ofText_eq`); only its width
can still be refused.
-/

namespace ChainParams.Target

/-! ## Digits -/

/-- Digits, small or capital, that stand for a number.  Zeros may come first. -/
def Denotes (digits : List Char) (n : Nat) : Prop :=
  digits ≠ [] ∧ ∃ values : List Nat,
    digits.Forall₂ (fun c d => Text.hexValue? c.toNat = some d) values ∧
      Nat.ofDigits 16 values.reverse = n

/-- No digit is a mark, a sign or an underscore. -/
theorem ne_of_hexValue? {c : Char} {d : Nat} (h : Text.hexValue? c.toNat = some d) :
    c ≠ 'x' ∧ c ≠ '+' ∧ c ≠ '_' := by
  refine ⟨?_, ?_, ?_⟩ <;> rintro rfl <;> cases h

theorem readDigits_cons {c : Char} {d : Nat} (h : Text.hexValue? c.toNat = some d) (value : Nat)
    (rest : List Char) : readDigits value (c :: rest) = readDigits (16 * value + d) rest := by
  rw [readDigits.eq_def]
  split
  · rename_i heq
    cases heq
  · rename_i heq
    exact absurd (List.cons.inj heq).1 (ne_of_hexValue? h).2.2
  · rename_i c' rest' _ heq
    obtain ⟨rfl, rfl⟩ := List.cons.inj heq
    rw [h]

theorem exists_hexValue?_of_mem {digits : List Char} {values : List Nat}
    (h : digits.Forall₂ (fun c d => Text.hexValue? c.toNat = some d) values) :
    ∀ c ∈ digits, ∃ d, Text.hexValue? c.toNat = some d := by
  induction h with
  | nil => exact List.forall_mem_nil _
  | cons hc _ ih => exact List.forall_mem_cons.mpr ⟨⟨_, hc⟩, ih⟩

/-- Digits are read behind those that were read before, each of which counts sixteen times as
much for every digit behind it. -/
theorem readDigits_eq {digits : List Char} {values : List Nat}
    (h : digits.Forall₂ (fun c d => Text.hexValue? c.toNat = some d) values) (value : Nat) :
    readDigits value digits =
      .ok (Nat.ofDigits 16 values.reverse + 16 ^ values.length * value) := by
  induction h generalizing value with
  | nil => exact congrArg Except.ok (by simp)
  | @cons c d digits values hc _ ih =>
      have hvalue : 16 ^ values.length * (16 * value + d) =
          16 ^ values.length * d + 16 ^ (values.length + 1) * value := by
        rw [Nat.mul_add, Nat.pow_succ, Nat.mul_assoc, Nat.add_comm]
      rw [readDigits_cons hc, ih, Nat.ofDigits_reverse_cons, List.length_cons, hvalue,
        Nat.add_assoc]

theorem Denotes.readDigits_eq {digits : List Char} {n : Nat} (h : Denotes digits n) :
    readDigits 0 digits = .ok n := by
  obtain ⟨-, values, hvalues, rfl⟩ := h
  rw [Target.readDigits_eq hvalues, Nat.mul_zero, Nat.add_zero]

/-! ## The digits of a number -/

theorem Denotes.append_digitChar {digits : List Char} {n d : Nat} (h : Denotes digits n)
    (hd : d < 16) : Denotes (digits ++ [Nat.digitChar d]) (16 * n + d) := by
  obtain ⟨-, values, hvalues, rfl⟩ := h
  refine ⟨by simp, values ++ [d], ?_, ?_⟩
  · exact List.rel_append hvalues (.cons (Text.hexValue?_digitChar hd) .nil)
  · rw [List.reverse_append, List.reverse_singleton, List.singleton_append, Nat.ofDigits_cons,
      Nat.add_comm]

theorem Denotes.zero_cons {digits : List Char} {n : Nat} (h : Denotes digits n) :
    Denotes ('0' :: digits) n := by
  obtain ⟨-, values, hvalues, rfl⟩ := h
  refine ⟨by simp, 0 :: values, .cons rfl hvalues, ?_⟩
  rw [Nat.ofDigits_reverse_cons, Nat.mul_zero, Nat.add_zero]

theorem denotes_digitChar {n : Nat} (h : n < 16) : Denotes [Nat.digitChar n] n :=
  ⟨by simp, [n], .cons (Text.hexValue?_digitChar h) .nil, Nat.ofDigits_singleton ..⟩

/-- The digits of a number stand for it. -/
theorem denotes_toDigits (n : Nat) : Denotes (Nat.toDigits 16 n) n := by
  induction n using Nat.strongRecOn with
  | ind n ih =>
      rw [Nat.toDigits_eq_if (by decide)]
      split
      · rename_i hn
        exact denotes_digitChar hn
      · rename_i hn
        have hfront := (ih (n / 16) (by omega)).append_digitChar (Nat.mod_lt n (by decide))
        rwa [Nat.div_add_mod] at hfront

theorem denotes_replicate_append (n zeros : Nat) :
    Denotes (List.replicate zeros '0' ++ Nat.toDigits 16 n) n := by
  induction zeros with
  | zero => exact denotes_toDigits n
  | succ zeros ih =>
      rw [List.replicate_succ, List.cons_append]
      exact ih.zero_cons

/-! ## Whole texts -/

/-- The first character of a number is a digit: no mark, sign or underscore stands there, and
a mark does not stand behind a zero. -/
theorem Denotes.readNumber_eq {digits : List Char} {n : Nat} (h : Denotes digits n) :
    readNumber (dropPlus (dropMarks digits)) = .ok n := by
  have hread := h.readDigits_eq
  obtain ⟨hnil, values, hvalues, -⟩ := h
  have hne : ∀ c ∈ digits, c ≠ 'x' ∧ c ≠ '+' ∧ c ≠ '_' := by
    intro c hc
    obtain ⟨d, hd⟩ := exists_hexValue?_of_mem hvalues c hc
    exact ne_of_hexValue? hd
  -- Marks, sign and underscore each need a character that is no digit.
  have hmarks : dropMarks digits = digits := by
    rw [dropMarks.eq_def]
    split
    · exact absurd rfl (hne 'x' (by simp)).1
    · rfl
  have hplus : dropPlus digits = digits := by
    rw [dropPlus.eq_def]
    split
    · rfl
    · exact absurd rfl (hne '+' (by simp)).2.1
    · rfl
  rw [hmarks, hplus, readNumber.eq_def]
  split
  · exact absurd rfl hnil
  · exact absurd rfl (hne '_' (by simp)).2.2
  · exact hread

/-- A text of digits gives the number that they stand for, unless it is too wide. -/
theorem Denotes.ofText_eq {digits : List Char} {n : Nat} (h : Denotes digits n) :
    ofText (String.ofList digits) =
      if maxTargetBits < bitLength n then .error (.tooWide (bitLength n)) else .ok n := by
  unfold ofText
  rw [String.toList_ofList, h.readNumber_eq]
  rfl

/-- A target is read back from its text, unless it is too wide. -/
theorem ofText_toText (n : Nat) :
    ofText (toText n) =
      if maxTargetBits < bitLength n then .error (.tooWide (bitLength n)) else .ok n :=
  (denotes_toDigits n).ofText_eq

end ChainParams.Target

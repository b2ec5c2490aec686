import ChainParams.Json.Layout
import ChainParams.Proofs.Json.Literal
import ChainParams.Proofs.Json.Text

/-!
# Tokens are read as they were spelled

A token is read back from its spelling before everything in which it ends.  For most
tokens this is every text; only a number goes on with what could belong to it.  A mark or a
blank never does, so it may stand behind a number, and the gaps of both styles are blank.
-/

namespace ChainParams.Json

open Literal (Closes)

/-! ## One token -/

/-- Whether a token that stands before the rest of a text ends there: a number
must not go on. -/
def Token.EndsBefore (rest : List Char) : Token → Prop
  | num _ => Closes rest
  | _ => True

theorem scanWord_append (t : Token) (word rest : List Char) :
    scanWord t word (word ++ rest) = .token t rest := by
  induction word with
  | nil => rfl
  | cons c word ih => simp [scanWord, ih]

/-- A text that begins with a minus sign or a digit is read as a number. -/
theorem nextToken_number {c : Char} {tail rest : List Char} {l : Literal}
    (hc : c = '-' ∨ ∃ d, c = Literal.digitChar d)
    (hscan : Literal.scan (c :: tail) = .number l rest) :
    nextToken (c :: tail) = .token (.num l) rest := by
  have hmark : c ∉ ['[', ']', '\x7b', '\x7d', ',', ':', 'n', 't', 'f', '\"'] := by
    have hdigit : ∀ d, Literal.digitChar d ∉
        ['[', ']', '\x7b', '\x7d', ',', ':', 'n', 't', 'f', '\"'] := by decide
    rcases hc with rfl | ⟨d, rfl⟩
    · decide
    · exact hdigit d
  have hstart : c = '-' ∨ (Literal.digit? c).isSome := by
    rcases hc with rfl | ⟨d, rfl⟩
    · exact .inl rfl
    · exact .inr (by simp)
  rw [nextToken.eq_def]
  split
  -- The last alternative is the one for numbers; every other one names its first character.
  case h_12 =>
    rename_i heq
    obtain ⟨rfl, rfl⟩ := List.cons.inj heq
    rw [if_pos hstart, hscan]
  all_goals
    rename_i heq
    simp_all

/-- A numeral is read as the literal that is kept of it. -/
theorem nextToken_letters (n : Numeral) {rest : List Char} (hrest : Closes rest) :
    nextToken (n.letters ++ rest) = .token (.num n.literal) rest := by
  obtain ⟨c, tail, hletters, hc⟩ := n.letters_eq_cons
  have hscan := n.scan_letters hrest
  rw [hletters, List.cons_append] at hscan ⊢
  exact nextToken_number hc hscan

/-- A token is read back from its spelling. -/
theorem nextToken_spelling (t : Token) {rest : List Char} (hrest : t.EndsBefore rest) :
    nextToken (t.spelling ++ rest) = .token t rest := by
  cases t with
  | openArr => rfl
  | closeArr => rfl
  | openObj => rfl
  | closeObj => rfl
  | comma => rfl
  | colon => rfl
  | null => exact scanWord_append .null "ull".toList rest
  | bool b =>
      cases b with
      | true => exact scanWord_append (.bool true) "rue".toList rest
      | false => exact scanWord_append (.bool false) "alse".toList rest
  | num l =>
      have hread := nextToken_letters l.numeral hrest
      rwa [l.letters_numeral, l.literal_numeral] at hread
  | str text =>
      obtain ⟨tail, hspelling, hscan⟩ := textSpelling_eq_cons text
      change nextToken (textSpelling text ++ rest) = .token (.str text) rest
      rw [hspelling, List.cons_append, nextToken, hscan rest]

/-! ## What may stand behind a number -/

/-- A blank closes a number. -/
theorem closes_of_isGap {c : Char} (hc : isGap c = true) (after : List Char) :
    Closes (c :: after) := by
  rintro _ ⟨⟩
  simp only [isGap, Bool.or_eq_true, decide_eq_true_eq] at hc
  rcases hc with ((rfl | rfl) | rfl) | rfl <;> decide

theorem closes_mark {c : Char} (hc : c ∈ [',', ']', '\x7d']) (after : List Char) :
    Closes ([c] ++ after) := by
  intro c' hc'
  obtain rfl : c = c' := by simpa using hc'
  revert hc
  simp only [List.mem_cons, List.not_mem_nil, or_false]
  rintro (rfl | rfl | rfl) <;> decide

/-! ## Styles -/

/-- A style whose gaps are blank. -/
def Style.Blank (style : Style) : Prop :=
  (∀ depth, ∀ c ∈ style.line depth, isGap c = true) ∧ ∀ c ∈ style.afterColon, isGap c = true

theorem Style.blank_compact : Style.compact.Blank := by
  simp [Style.Blank, compact]

theorem Style.blank_indented : Style.indented.Blank := by
  refine ⟨fun depth c hc => ?_, by simp [indented, isGap]⟩
  rcases List.mem_cons.mp hc with rfl | hc
  · rfl
  · obtain rfl := List.eq_of_mem_replicate hc
    rfl

end ChainParams.Json

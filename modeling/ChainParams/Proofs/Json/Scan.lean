import ChainParams.Proofs.Json.Layout

/-!
# What is read off the front of a text

Scanning reads a token off the front of a text and gives back what follows it.  The
characters it takes decide alone which token this is: before any other text it takes the
same ones and finds the same token, unless this is a number and the other text goes on
with it (`nextToken_front`).  So the spellings of a token can be told on their own, and
that is how the layout of a whole text is described later.
-/

namespace ChainParams.Json

open Literal (Closes)

/-! ## The front of a text -/

/-- What may not begin a text may not begin it with another end either. -/
theorem head?_append {P : Char → Prop} {front rest after : List Char}
    (hrest : ∀ c ∈ (front ++ rest).head?, P c) (hafter : ∀ c ∈ after.head?, P c) :
    ∀ c ∈ (front ++ after).head?, P c := by
  cases front with
  | nil => exact hafter
  | cons c front => exact hrest

/-- What is taken off a text is something if less is left. -/
theorem exists_cons_of_length_lt {front rest : List Char}
    (h : rest.length < (front ++ rest).length) : ∃ c tail, front = c :: tail := by
  cases front with
  | nil => exact absurd h (Nat.lt_irrefl _)
  | cons c tail => exact ⟨c, tail, rfl⟩

namespace Literal

/-! ## Numbers -/

theorem digit?_eq_some_iff {c : Char} {d : Fin 10} : digit? c = some d ↔ c = digitChar d := by
  constructor
  · intro h
    rw [digit?] at h
    split at h
    · next hc =>
      obtain rfl := Option.some.inj h
      have hchar : ∀ n < 58, 48 ≤ n → Nat.digitChar (n - 48) = Char.ofNat n := by decide
      rw [digitChar, hchar c.toNat hc.2 hc.1, Char.ofNat_toNat]
    · cases h
  · rintro rfl
    exact digit?_digitChar d

/-- The digits that are taken are the digits of the text up to the first character that
is none. -/
theorem eq_append_of_takeDigits {text rest : List Char} {digits : List (Fin 10)}
    (h : takeDigits text = (digits, rest)) :
    text = digits.map digitChar ++ rest ∧ ∀ c ∈ rest.head?, digit? c = none := by
  induction text generalizing digits rest with
  | nil =>
      obtain ⟨rfl, rfl⟩ := Prod.ext_iff.mp h
      exact ⟨rfl, nofun⟩
  | cons c text ih =>
      rw [takeDigits] at h
      cases hdigit : digit? c with
      | none =>
          rw [hdigit] at h
          obtain ⟨rfl, rfl⟩ := Prod.ext_iff.mp h
          refine ⟨rfl, ?_⟩
          intro c' hc'
          obtain rfl := Option.some.inj hc'
          exact hdigit
      | some d =>
          rw [hdigit] at h
          obtain ⟨rfl, rfl⟩ := Prod.ext_iff.mp h
          obtain ⟨htext, hrest⟩ := ih rfl
          refine ⟨?_, hrest⟩
          rw [digit?_eq_some_iff.mp hdigit]
          exact congrArg _ htext

/-- A scanner of numbers reads the characters that it takes the same before everything
that closes a number. -/
def Local (scanner : List Char → Scan) : Prop :=
  ∀ {text rest : List Char} {n : Literal}, scanner text = .number n rest →
    ∃ front, text = front ++ rest ∧
      ∀ after, Closes after → scanner (front ++ after) = .number n after

theorem exists_takeSign (text : List Char) :
    ∃ sign, text = sign ++ (takeSign text).2 ∧ ∀ (d : Fin 10) (after : List Char),
      takeSign (sign ++ digitChar d :: after) = ((takeSign text).1, digitChar d :: after) := by
  unfold takeSign
  split
  · exact ⟨['-'], rfl, fun _ _ => rfl⟩
  · exact ⟨['+'], rfl, fun _ _ => rfl⟩
  · exact ⟨[], rfl, takeSign_digitChar⟩

/-- Where a number is found, digits were taken: without any the text is cut off or is no
number. -/
theorem ne_nil_of_number {digits : List (Fin 10)} {rest : List Char}
    (hcut : digits = [] → rest = [] → False)
    (hbad : ∀ c tail, digits = [] → rest = c :: tail → False) : digits ≠ [] := by
  rintro rfl
  cases rest with
  | nil => exact hcut rfl rfl
  | cons c tail => exact hbad c tail rfl rfl

theorem local_scanExponentDigits (l : Literal) : Local (scanExponentDigits l) := by
  intro text rest n h
  obtain ⟨sign, htext, hsign⟩ := exists_takeSign text
  unfold scanExponentDigits at h
  split at h
  · cases h
  · cases h
  · rename_i digits after hended hgoes htake
    obtain ⟨hdigits, -⟩ := eq_append_of_takeDigits htake
    obtain ⟨d, digits, rfl⟩ := List.exists_cons_of_ne_nil (ne_nil_of_number hended hgoes)
    obtain ⟨rfl, rfl⟩ := Scan.number.inj h
    refine ⟨sign ++ (d :: digits).map digitChar, ?_, ?_⟩
    · rw [List.append_assoc, ← hdigits]
      exact htext
    · intro after hafter
      have htake := takeDigits_append (d :: digits) fun c hc => (hafter c hc).1
      unfold scanExponentDigits
      rw [List.append_assoc, List.map_cons, List.cons_append, hsign]
      rw [List.map_cons, List.cons_append] at htake
      simp only [htake]

theorem local_scanExponent (l : Literal) : Local (scanExponent l) := by
  have hnone (after : List Char) (hafter : Closes after) :
      scanExponent l after = .number l after := by
    cases after with
    | nil => rfl
    | cons c after =>
        obtain ⟨-, -, hsmall, hcapital⟩ := hafter c rfl
        exact if_neg (not_or.mpr ⟨hsmall, hcapital⟩)
  intro text rest n h
  cases text with
  | nil =>
      obtain ⟨rfl, rfl⟩ := Scan.number.inj h
      exact ⟨[], rfl, hnone⟩
  | cons c text =>
      rw [scanExponent] at h
      split at h
      · next hmark =>
        obtain ⟨front, rfl, hfront⟩ := local_scanExponentDigits l h
        refine ⟨c :: front, rfl, ?_⟩
        intro after hafter
        exact (if_pos hmark).trans (hfront after hafter)
      · obtain ⟨rfl, rfl⟩ := Scan.number.inj h
        exact ⟨[], rfl, hnone⟩

theorem local_scanFraction (l : Literal) : Local (scanFraction l) := by
  intro text rest n h
  -- Behind a point there are digits, which end at the exponent or at the end of the number.
  by_cases hpoint : text.head? = some '.'
  · obtain ⟨tail, rfl⟩ := List.head?_eq_some_iff.mp hpoint
    simp only [scanFraction] at h
    split at h
    · cases h
    · cases h
    · rename_i digits more hcut hbad htake
      obtain ⟨rfl, hmore⟩ := eq_append_of_takeDigits htake
      obtain ⟨front, rfl, hfront⟩ := local_scanExponent _ h
      refine ⟨'.' :: (digits.map digitChar ++ front), by simp, ?_⟩
      intro after hafter
      have hclosed := head?_append hmore fun c hc => (hafter c hc).1
      have htake := takeDigits_append digits hclosed
      obtain ⟨d, digits, rfl⟩ := List.exists_cons_of_ne_nil (ne_nil_of_number hcut hbad)
      simp only [List.cons_append, List.append_assoc, scanFraction]
      rw [htake]
      exact hfront after hafter
  · have hne : ∀ c ∈ text.head?, c ≠ '.' := by
      rintro c hc rfl
      exact hpoint hc
    rw [scanFraction_of_ne l hne] at h
    obtain ⟨front, rfl, hfront⟩ := local_scanExponent l h
    refine ⟨front, rfl, ?_⟩
    intro after hafter
    rw [scanFraction_of_ne l (head?_append hne fun c hc => (hafter c hc).2.1)]
    exact hfront after hafter

theorem local_scanMagnitude (negative : Bool) : Local (scanMagnitude negative) := by
  intro text rest n h
  unfold scanMagnitude at h
  split at h
  · cases h
  · cases h
  · rename_i d digits more htake
    obtain ⟨rfl, hmore⟩ := eq_append_of_takeDigits htake
    split at h
    · cases h
    · next hzero =>
      obtain ⟨front, rfl, hfront⟩ := local_scanFraction _ h
      refine ⟨(d :: digits).map digitChar ++ front, (List.append_assoc ..).symm, ?_⟩
      intro after hafter
      have hclosed := head?_append hmore fun c hc => (hafter c hc).1
      have htake := takeDigits_append (d :: digits) hclosed
      unfold scanMagnitude
      rw [List.append_assoc, htake]
      simp only [if_neg hzero]
      exact hfront after hafter

theorem local_scan : Local scan := by
  intro text rest n h
  unfold scan at h
  -- A number without a sign does not begin with one before another end either.
  split at h
  · obtain ⟨front, rfl, hfront⟩ := local_scanMagnitude true h
    exact ⟨'-' :: front, rfl, hfront⟩
  · next hminus =>
    obtain ⟨front, rfl, hfront⟩ := local_scanMagnitude false h
    obtain ⟨c, tail, rfl⟩ := exists_cons_of_length_lt (length_of_scanMagnitude h)
    refine ⟨c :: tail, rfl, ?_⟩
    intro after hafter
    unfold scan
    split
    · next heq =>
      obtain ⟨rfl, -⟩ := List.cons.inj heq
      exact absurd rfl (hminus _)
    · exact hfront after hafter

end Literal


/-! ## Strings and words -/

theorem scanText_escape (pieces : List Piece) {e c : Char} (h : shortEscape? e = some c)
    (rest : List Char) :
    scanText pieces ('\\' :: e :: rest) = scanText (.char c :: pieces) rest := by
  unfold shortEscape? at h
  split at h <;> cases h <;> rfl

/-- The pieces of a string are read one by one, each by its own characters. -/
theorem scanText_front_of_piece {pieces : List Piece} {piece : Piece} (letters : List Char)
    {tail rest : List Char} {content : Option String}
    (hpiece : ∀ after, scanText pieces (letters ++ after) = scanText (piece :: pieces) after)
    (htail : ∃ front, tail = front ++ rest ∧
      ∀ after, scanText (piece :: pieces) (front ++ after) = .text content after) :
    ∃ front, letters ++ tail = front ++ rest ∧
      ∀ after, scanText pieces (front ++ after) = .text content after := by
  obtain ⟨front, rfl, hfront⟩ := htail
  refine ⟨letters ++ front, (List.append_assoc ..).symm, ?_⟩
  intro after
  rw [List.append_assoc, hpiece]
  exact hfront after

/-- A string ends at its closing quote, whatever stands behind the quote. -/
theorem scanText_front {pieces : List Piece} {text rest : List Char} {content : Option String}
    (h : scanText pieces text = .text content rest) :
    ∃ front, text = front ++ rest ∧
      ∀ after, scanText pieces (front ++ after) = .text content after := by
  fun_induction scanText pieces text with
  | case1 => cases h
  | case2 pieces tail =>
      obtain ⟨rfl, rfl⟩ := TextScan.text.inj h
      exact ⟨['\"'], rfl, fun _ => by rw [List.singleton_append, scanText]⟩
  | case3 pieces a b c d tail n hn ih =>
      refine scanText_front_of_piece ['\\', 'u', a, b, c, d] ?_ (ih h)
      intro after
      simp only [List.cons_append, List.nil_append, scanText, hn]
  | case4 => cases h
  | case5 => cases h
  | case6 => cases h
  | case7 => cases h
  | case8 pieces e tail _ _ c hc ih =>
      exact scanText_front_of_piece ['\\', e] (scanText_escape pieces hc) (ih h)
  | case9 => cases h
  | case10 => cases h
  | case11 pieces c tail hquote _ _ hlast hslash hcontrol ih =>
      refine scanText_front_of_piece [c] ?_ (ih h)
      intro after
      refine scanText_plain pieces after hquote ?_ hcontrol
      intro heq
      cases htail : tail with
      | nil => exact hlast heq htail
      | cons e tail => exact hslash e tail heq htail

theorem eq_append_of_scanWord {t s : Token} {word text rest : List Char}
    (h : scanWord t word text = .token s rest) : s = t ∧ text = word ++ rest := by
  fun_induction scanWord t word text with
  | case1 =>
      obtain ⟨rfl, rfl⟩ := Next.token.inj h
      exact ⟨rfl, rfl⟩
  | case2 => cases h
  | case3 due word text ih =>
      obtain ⟨rfl, rfl⟩ := ih h
      exact ⟨rfl, rfl⟩
  | case4 => cases h

/-! ## Tokens -/

theorem scanWord_front {t s : Token} {word text rest : List Char}
    (h : scanWord t word text = .token s rest) :
    ∃ front, text = front ++ rest ∧ ∀ after, scanWord t word (front ++ after) = .token s after := by
  obtain ⟨rfl, rfl⟩ := eq_append_of_scanWord h
  exact ⟨word, rfl, scanWord_append s word⟩

theorem number_front {c : Char} {tail rest : List Char} {l : Literal}
    (hstart : c = '-' ∨ (Literal.digit? c).isSome)
    (hscan : Literal.scan (c :: tail) = .number l rest) :
    ∃ front, c :: tail = front ++ rest ∧
      ∀ after, Closes after → nextToken (front ++ after) = .token (.num l) after := by
  have hc : c = '-' ∨ ∃ d, c = Literal.digitChar d := by
    rcases hstart with rfl | hdigit
    · exact .inl rfl
    · obtain ⟨d, hd⟩ := Option.isSome_iff_exists.mp hdigit
      exact .inr ⟨d, Literal.digit?_eq_some_iff.mp hd⟩
  have hlength := Literal.length_of_scan hscan
  obtain ⟨front, htext, hfront⟩ := Literal.local_scan hscan
  rw [htext] at hlength
  obtain ⟨c', front, rfl⟩ := exists_cons_of_length_lt hlength
  obtain ⟨rfl, rfl⟩ := List.cons.inj htext
  exact ⟨c :: front, rfl, fun after hafter => nextToken_number hc (hfront after hafter)⟩

/-- The characters of a token are read as this token before every text in which it ends
behind them. -/
theorem nextToken_front {t : Token} {text rest : List Char} (h : nextToken text = .token t rest) :
    ∃ front, text = front ++ rest ∧
      ∀ after, t.EndsBefore after → nextToken (front ++ after) = .token t after := by
  rw [nextToken.eq_def] at h
  split at h
  case h_1 => cases h
  case h_8 =>
      obtain ⟨front, rfl, hfront⟩ := scanWord_front h
      exact ⟨'n' :: front, rfl, fun after _ => hfront after⟩
  case h_9 =>
      obtain ⟨front, rfl, hfront⟩ := scanWord_front h
      exact ⟨'t' :: front, rfl, fun after _ => hfront after⟩
  case h_10 =>
      obtain ⟨front, rfl, hfront⟩ := scanWord_front h
      exact ⟨'f' :: front, rfl, fun after _ => hfront after⟩
  case h_11 =>
      split at h
      · rename_i htext
        obtain ⟨rfl, rfl⟩ := Next.token.inj h
        obtain ⟨front, rfl, hfront⟩ := scanText_front htext
        refine ⟨'\"' :: front, rfl, ?_⟩
        intro after _
        rw [List.cons_append, nextToken, hfront]
      · cases h
      · cases h
  case h_12 =>
      split at h
      · next hstart =>
        split at h
        · rename_i hscan
          obtain ⟨rfl, rfl⟩ := Next.token.inj h
          exact number_front hstart hscan
        · cases h
        · cases h
      · cases h
  all_goals
    obtain ⟨rfl, rfl⟩ := Next.token.inj h
    exact ⟨[_], rfl, fun _ _ => rfl⟩

theorem scanWord_ne_ended (t : Token) (word text : List Char) :
    scanWord t word text ≠ .stop .ended := by
  intro h
  fun_induction scanWord t word text with
  | case1 => cases h
  | case2 => cases h
  | case3 due word text ih => exact ih h
  | case4 => cases h

/-- Only nothing at all ends between tokens: every other text begins with something. -/
theorem eq_nil_of_nextToken {text : List Char} (h : nextToken text = .stop .ended) :
    text = [] := by
  rw [nextToken.eq_def] at h
  split at h
  case h_1 => rfl
  case h_8 => exact absurd h (scanWord_ne_ended _ _ _)
  case h_9 => exact absurd h (scanWord_ne_ended _ _ _)
  case h_10 => exact absurd h (scanWord_ne_ended _ _ _)
  case h_11 => split at h <;> cases h
  case h_12 =>
      split at h
      · split at h <;> cases h
      · cases h
  all_goals cases h

end ChainParams.Json

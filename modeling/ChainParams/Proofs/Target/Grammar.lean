import ChainParams.Proofs.Check
import ChainParams.Proofs.Target
import ChainParams.Proofs.Target.Width
import ChainParams.Proofs.Text.HexDigit
import ChainParams.Schema.Leaf

/-!
# Which texts give a target

A target is written behind marks and a sign, both of which may be left out, as a body of
digits with underscores among them.  Reading strips the front and looks at what is left.
A zero both begins a mark and is a digit, but no body goes on with the letter of a mark, so
what is left is the body wherever a text has one (`Fronted.rest_eq`).  Of the body only the
digits count (`readDigits_digitsIn`).  Whatever else is left, reading fails for one of two
reasons (`readNumber_nil`, `readNumber_of_not_isBody`), and the width is looked at last.
-/

namespace ChainParams

namespace Target

open Text (hexValue? IsHexDigit)

/-! ## The grammar -/

/-- Whether a text is marks, then one plus sign or none, and then the given rest. -/
inductive Fronted : List Char → List Char → Prop where
  | bare (rest : List Char) : Fronted rest rest
  | signed (rest : List Char) : Fronted ('+' :: rest) rest
  | marked {text rest : List Char} (h : Fronted text rest) : Fronted ('0' :: 'x' :: text) rest

/-- Whether a text is a digit and then digits and underscores. -/
def IsBody (body : List Char) : Prop :=
  ∃ first rest, body = first :: rest ∧ IsHexDigit first.toNat ∧
    ∀ c ∈ rest, IsHexDigit c.toNat ∨ c = '_'

/-- The digits of a body. -/
def digitsIn (body : List Char) : List Char := body.filter (· ≠ '_')

/-- Whether a text has a body whose digits stand for a number. -/
def Gives (text : String) (n : Nat) : Prop :=
  ∃ body, Fronted text.toList body ∧ IsBody body ∧ Denotes (digitsIn body) n

/-- What is wrong with a text that does not give a target: nothing is left behind the front, what
is left is no body, or the number takes more bits than there are. -/
inductive Refused (text : String) : TargetError → Prop where
  | noDigits (hempty : Fronted text.toList []) : Refused text .noDigits
  | badDigit (hempty : ¬ Fronted text.toList [])
      (hbody : ∀ body, Fronted text.toList body → ¬ IsBody body) : Refused text .badDigit
  | tooWide {n bits : Nat} (hgives : Gives text n) (hwide : 2 ^ 256 ≤ n)
      (hlow : 2 ^ (bits - 1) ≤ n) (hhigh : n < 2 ^ bits) : Refused text (.tooWide bits)

/-! ## The front of a text -/

/-- What reading leaves of a text before it looks at digits. -/
def rest (text : List Char) : List Char := dropPlus (dropMarks text)

theorem fronted_dropPlus (text : List Char) : Fronted text (dropPlus text) := by
  rw [dropPlus.eq_def]
  split
  · exact .bare _
  · exact .signed _
  · exact .bare _

theorem fronted_rest (text : List Char) : Fronted text (rest text) := by
  unfold rest
  induction text using dropMarks.induct with
  | case1 text ih => exact .marked ih
  | case2 text hmarks =>
      rw [dropMarks.eq_2 _ hmarks]
      exact fronted_dropPlus text

theorem IsBody.not_mark {body : List Char} (h : IsBody body) : 'x' ∉ body := by
  obtain ⟨first, rest, rfl, hfirst, hrest⟩ := h
  intro hmem
  rcases List.mem_cons.mp hmem with rfl | hmem
  · exact absurd hfirst (by decide)
  · rcases hrest _ hmem with hdigit | hscore
    · exact absurd hdigit (by decide)
    · exact absurd hscore (by decide)

theorem IsBody.not_plus {body : List Char} (h : IsBody ('+' :: body)) : False := by
  obtain ⟨first, rest, hcons, hfirst, -⟩ := h
  obtain ⟨rfl, -⟩ := List.cons.inj hcons
  exact absurd hfirst (by decide)

theorem dropMarks_of_not_mem {text : List Char} (h : 'x' ∉ text) : dropMarks text = text := by
  rw [dropMarks.eq_def]
  split
  · exact absurd (by simp) h
  · rfl

theorem dropPlus_of_ne {text : List Char} (h : ∀ tail, text ≠ '+' :: tail) :
    dropPlus text = text := by
  rw [dropPlus.eq_def]
  split
  · rfl
  · exact absurd rfl (h _)
  · rfl

theorem dropPlus_plus {text : List Char} (h : ∀ tail, text ≠ '+' :: tail) :
    dropPlus ('+' :: text) = text := by
  rw [dropPlus.eq_def]
  split
  · rename_i tail heq
    exact absurd (List.cons.inj heq).2 (h tail)
  · rename_i heq
    exact (List.cons.inj heq).2.symm
  · rename_i hne
    exact absurd rfl (hne text)

/-- Reading strips the front of a text down to its body. -/
theorem Fronted.rest_eq {text body : List Char} (h : Fronted text body)
    (hbody : body = [] ∨ IsBody body) : rest text = body := by
  have hmark : 'x' ∉ body := by
    rcases hbody with rfl | hbody
    · simp
    · exact hbody.not_mark
  have hplus : ∀ tail, body ≠ '+' :: tail := by
    rintro tail rfl
    rcases hbody with hnil | hbody
    · cases hnil
    · exact hbody.not_plus
  -- So neither a mark nor a sign is taken from the body, and each step stops there.
  unfold rest
  induction h with
  | bare body => rw [dropMarks_of_not_mem hmark, dropPlus_of_ne hplus]
  | signed body => rw [dropMarks_of_not_mem (by simp [hmark]), dropPlus_plus hplus]
  | marked _ ih => exact ih hbody hmark hplus

/-! ## Digits -/

theorem digitsIn_cons (c : Char) (body : List Char) :
    digitsIn (c :: body) = if c = '_' then digitsIn body else c :: digitsIn body := by
  unfold digitsIn
  rw [List.filter_cons]
  by_cases hc : c = '_' <;> simp [hc]

theorem readDigits_of_not_digit {c : Char} (hscore : c ≠ '_') (hc : ¬ IsHexDigit c.toNat)
    (value : Nat) (rest : List Char) : readDigits value (c :: rest) = .error .badDigit := by
  rw [readDigits.eq_3 _ _ _ hscore, Text.hexValue?_eq_none_iff.mpr hc]

/-- Underscores are passed over. -/
theorem readDigits_digitsIn (value : Nat) (body : List Char) :
    readDigits value body = readDigits value (digitsIn body) := by
  induction body generalizing value with
  | nil => rfl
  | cons c body ih =>
      rw [digitsIn_cons]
      by_cases hscore : c = '_'
      · subst hscore
        rw [if_pos rfl]
        exact ih value
      · rw [if_neg hscore]
        cases hc : hexValue? c.toNat with
        | none =>
            have hnot := Text.hexValue?_eq_none_iff.mp hc
            rw [readDigits_of_not_digit hscore hnot, readDigits_of_not_digit hscore hnot]
        | some d => rw [readDigits_cons hc, readDigits_cons hc, ih]

/-- Digits always stand for a number. -/
theorem exists_denotes {digits : List Char} (hne : digits ≠ [])
    (h : ∀ c ∈ digits, IsHexDigit c.toNat) : ∃ n, Denotes digits n := by
  have hvalues : ∃ values : List Nat,
      digits.Forall₂ (fun c d => hexValue? c.toNat = some d) values := by
    clear hne
    induction digits with
    | nil => exact ⟨[], .nil⟩
    | cons c digits ih =>
        obtain ⟨hc, hdigits⟩ := List.forall_mem_cons.mp h
        obtain ⟨d, hd⟩ := Text.exists_hexValue?_iff.mpr hc
        obtain ⟨values, hvalues⟩ := ih hdigits
        exact ⟨d :: values, .cons hd hvalues⟩
  obtain ⟨values, hvalues⟩ := hvalues
  exact ⟨_, hne, values, hvalues, rfl⟩

theorem readDigits_of_exists {digits : List Char} (hscore : '_' ∉ digits)
    (h : ∃ c ∈ digits, ¬ IsHexDigit c.toNat) (value : Nat) :
    readDigits value digits = .error .badDigit := by
  induction digits generalizing value with
  | nil =>
      obtain ⟨c, hc, -⟩ := h
      cases hc
  | cons c digits ih =>
      rw [List.mem_cons, not_or] at hscore
      cases hc : hexValue? c.toNat with
      | none =>
          have hnot := Text.hexValue?_eq_none_iff.mp hc
          exact readDigits_of_not_digit (Ne.symm hscore.1) hnot value digits
      | some d =>
          have hdigit := Text.exists_hexValue?_iff.mp ⟨d, hc⟩
          rw [readDigits_cons hc]
          apply ih hscore.2
          obtain ⟨e, he, hnot⟩ := h
          rcases List.mem_cons.mp he with rfl | he
          · exact absurd hdigit hnot
          · exact ⟨e, he, hnot⟩

/-! ## Bodies -/

theorem digitsIn_cons_of_digit {first : Char} (h : IsHexDigit first.toNat) (rest : List Char) :
    digitsIn (first :: rest) = first :: digitsIn rest := by
  rw [digitsIn_cons, if_neg]
  rintro rfl
  exact absurd h (by decide)

theorem IsBody.exists_denotes {body : List Char} (h : IsBody body) :
    ∃ n, Denotes (digitsIn body) n := by
  obtain ⟨first, rest, rfl, hfirst, hrest⟩ := h
  rw [digitsIn_cons_of_digit hfirst]
  apply Target.exists_denotes (List.cons_ne_nil _ _)
  rw [List.forall_mem_cons]
  refine ⟨hfirst, ?_⟩
  intro c hc
  obtain ⟨hmem, hscore⟩ := List.mem_filter.mp hc
  exact (hrest c hmem).resolve_right (of_decide_eq_true hscore)

theorem readNumber_of_ne {body : List Char} (hne : body ≠ []) (hscore : body.head? ≠ some '_') :
    readNumber body = readDigits 0 (digitsIn body) := by
  rw [readNumber.eq_3 _ hne, readDigits_digitsIn]
  rintro rest rfl
  exact hscore rfl

theorem IsBody.readNumber_eq {body : List Char} {n : Nat} (h : IsBody body)
    (hn : Denotes (digitsIn body) n) : readNumber body = .ok n := by
  obtain ⟨first, rest, rfl, hfirst, -⟩ := h
  rw [readNumber_of_ne (List.cons_ne_nil _ _), hn.readDigits_eq]
  rintro ⟨⟩
  exact absurd hfirst (by decide)

theorem readNumber_of_not_isBody {body : List Char} (hne : body ≠ []) (h : ¬ IsBody body) :
    readNumber body = .error .badDigit := by
  obtain ⟨first, rest, rfl⟩ := List.exists_cons_of_ne_nil hne
  by_cases hscore : first = '_'
  · subst hscore
    rfl
  rw [readNumber_of_ne hne (by simpa using hscore)]
  apply readDigits_of_exists (by simp [digitsIn])
  -- Were all of them digits, there would be a body.
  by_contra hdigits
  push Not at hdigits
  apply h
  rw [digitsIn_cons, if_neg hscore] at hdigits
  refine ⟨first, rest, rfl, hdigits first (List.mem_cons_self ..), ?_⟩
  intro c hc
  by_cases hc' : c = '_'
  · exact .inr hc'
  · exact .inl (hdigits c (List.mem_cons_of_mem _ (List.mem_filter.mpr ⟨hc, decide_eq_true hc'⟩)))

/-! ## Whole texts -/

section

variable {text : String} {n : Nat}

theorem readNumber_rest_eq_ok_iff : readNumber (rest text.toList) = .ok n ↔ Gives text n := by
  constructor
  · intro h
    by_cases hnil : rest text.toList = []
    · rw [hnil] at h
      cases h
    by_cases hbody : IsBody (rest text.toList)
    · obtain ⟨m, hm⟩ := hbody.exists_denotes
      obtain rfl : m = n := by
        rw [hbody.readNumber_eq hm] at h
        exact Except.ok.inj h
      exact ⟨_, fronted_rest _, hbody, hm⟩
    · rw [readNumber_of_not_isBody hnil hbody] at h
      cases h
  · rintro ⟨body, hfront, hbody, hn⟩
    rw [hfront.rest_eq (.inr hbody)]
    exact hbody.readNumber_eq hn

theorem readNumber_rest_eq_error_iff {e : TargetError} :
    readNumber (rest text.toList) = .error e ↔
      (Fronted text.toList [] ∧ e = .noDigits) ∨
      (¬ Fronted text.toList [] ∧ (∀ body, Fronted text.toList body → ¬ IsBody body) ∧
        e = .badDigit) := by
  have hnil : Fronted text.toList [] ↔ rest text.toList = [] := by
    constructor
    · exact fun h => h.rest_eq (.inl rfl)
    · exact fun h => h ▸ fronted_rest _
  have hbody : (∀ body, Fronted text.toList body → ¬ IsBody body) ↔ ¬ IsBody (rest text.toList) := by
    constructor
    · exact fun h => h _ (fronted_rest _)
    · intro h body hfront hbody
      rw [hfront.rest_eq (.inr hbody)] at h
      exact h hbody
  rw [hnil, hbody]
  by_cases hempty : rest text.toList = []
  · rw [hempty, readNumber]
    simp [eq_comm]
  by_cases hdigits : IsBody (rest text.toList)
  · obtain ⟨m, hm⟩ := hdigits.exists_denotes
    rw [hdigits.readNumber_eq hm]
    simp [hempty, hdigits]
  · rw [readNumber_of_not_isBody hempty hdigits]
    simp [hempty, hdigits, eq_comm]

theorem ofText_of_ok (h : readNumber (rest text.toList) = .ok n) :
    ofText text = if n < 2 ^ 256 then .ok n else .error (.tooWide (bitLength n)) := by
  have hread : ofText text =
      if maxTargetBits < bitLength n then .error (.tooWide (bitLength n)) else .ok n := by
    unfold rest at h
    unfold ofText
    rw [h]
    rfl
  rw [hread, maxTargetBits]
  simp only [lt_bitLength_iff, ← Nat.not_lt, ite_not]

theorem ofText_of_error {e : TargetError} (h : readNumber (rest text.toList) = .error e) :
    ofText text = .error e := by
  unfold rest at h
  unfold ofText
  rw [h]
  rfl

theorem ofText_eq_ok_iff : ofText text = .ok n ↔ Gives text n ∧ n < 2 ^ 256 := by
  rw [← readNumber_rest_eq_ok_iff]
  cases hread : readNumber (rest text.toList) with
  | error e => simp [ofText_of_error hread]
  | ok m =>
      rw [ofText_of_ok hread]
      by_cases hm : m < 2 ^ 256
      · rw [if_pos hm, Except.ok.injEq]
        constructor
        · rintro rfl
          exact ⟨rfl, hm⟩
        · exact fun h => h.1
      · rw [if_neg hm, Except.ok.injEq]
        constructor
        · intro h
          cases h
        · rintro ⟨rfl, hn⟩
          exact absurd hn hm

theorem ofText_eq_error_iff {e : TargetError} : ofText text = .error e ↔ Refused text e := by
  constructor
  · intro h
    cases hread : readNumber (rest text.toList) with
    | ok n =>
        rw [ofText_of_ok hread] at h
        split at h
        · cases h
        · rename_i hn
          cases h
          have hwide := Nat.not_lt.mp hn
          have hpos : n ≠ 0 := by omega
          obtain ⟨hlow, hhigh⟩ := (bitLength_eq_iff hpos).mp rfl
          exact .tooWide (readNumber_rest_eq_ok_iff.mp hread) hwide hlow hhigh
    | error e' =>
        obtain rfl : e' = e := by
          rw [ofText_of_error hread] at h
          exact Except.error.inj h
        rcases readNumber_rest_eq_error_iff.mp hread with ⟨hempty, rfl⟩ | ⟨hempty, hbody, rfl⟩
        · exact .noDigits hempty
        · exact .badDigit hempty hbody
  · intro h
    cases h with
    | noDigits hempty =>
        exact ofText_of_error (readNumber_rest_eq_error_iff.mpr (.inl ⟨hempty, rfl⟩))
    | badDigit hempty hbody =>
        exact ofText_of_error (readNumber_rest_eq_error_iff.mpr (.inr ⟨hempty, hbody, rfl⟩))
    | @tooWide n bits hgives hwide hlow hhigh =>
        have hpos : n ≠ 0 := by omega
        rw [ofText_of_ok (readNumber_rest_eq_ok_iff.mpr hgives), if_neg (Nat.not_lt.mpr hwide),
          (bitLength_eq_iff hpos).mpr ⟨hlow, hhigh⟩]

end

end Target

/-! ## The leaf of a configuration file -/

/-- A string is read as the target that its text gives, and refused for what is wrong with the
text. -/
theorem readTarget_ofText (text : String) :
    readTarget (.ofText text) = (Target.ofText text).mapError fun e => .data (.badTarget e) := by
  simp only [readTarget, readText, Json.ofText, bind, Except.bind]
  cases Target.ofText text <;> rfl

/-- A text is read as a target exactly if it is marks, a sign or none and a body whose digits stand
for a number below `2 ^ 256`, and as that number, whatever marks, zeros and underscores there
are.  Every other text is refused for what is wrong with it, and what is written for a
target is read back. -/
theorem Kind.target_grammar :
    (∀ (text : String) (n : Nat), Kind.target.read (.ofText text) = .ok n ↔
      Target.Gives text n ∧ n < 2 ^ 256) ∧
    (∀ text body n zeros, Target.Fronted text.toList body → Target.IsBody body →
      Target.digitsIn body = List.replicate zeros '0' ++ Nat.toDigits 16 n → n < 2 ^ 256 →
        Kind.target.read (.ofText text) = .ok n) ∧
    (∀ text fault, Kind.target.read (.ofText text) = .error fault ↔
      ∃ e, Target.Refused text e ∧ fault = .data (.badTarget e)) ∧
    (∀ n : Nat, n < 2 ^ 256 → Kind.target.read (Kind.target.write n) = .ok n) ∧
    (Json.Mismatch.badTarget .noDigits).message = "cannot parse integer from empty string" ∧
    (Json.Mismatch.badTarget .badDigit).message = "invalid digit found in string" ∧
    ∀ bits, (Json.Mismatch.badTarget (.tooWide bits)).message =
      "target is " ++ toString bits ++ " bits wide, above 256" := by
  have hread : ∀ (text : String) (n : Nat), Kind.target.read (.ofText text) = .ok n ↔
      Target.Gives text n ∧ n < 2 ^ 256 := by
    intro text n
    change readTarget (.ofText text) = .ok n ↔ _
    rw [readTarget_ofText, mapError_eq_ok_iff, Target.ofText_eq_ok_iff]
  have hlimit : " bits wide, above " ++ toString maxTargetBits = " bits wide, above 256" := by
    decide +kernel
  refine ⟨hread, ?_, ?_, ?_, rfl, rfl, ?_⟩
  · intro text body n zeros hfront hbody hdigits hn
    have hdenotes := Target.denotes_replicate_append n zeros
    rw [← hdigits] at hdenotes
    exact (hread text n).mpr ⟨⟨body, hfront, hbody, hdenotes⟩, hn⟩
  · intro text fault
    change readTarget (.ofText text) = .error fault ↔ _
    rw [readTarget_ofText, mapError_eq_error_iff]
    simp only [Target.ofText_eq_error_iff]
  · intro n hn
    change readTarget (.ofText (Target.toText n)) = .ok n
    rw [readTarget_ofText, mapError_eq_ok_iff, Target.ofText_toText, maxTargetBits, if_neg]
    rw [lt_bitLength_iff]
    exact Nat.not_le.mpr hn
  · intro bits
    change "target is " ++ toString bits ++ " bits wide, above " ++ toString maxTargetBits = _
    rw [String.append_assoc, hlimit]

/-- Two marks, a sign, zeros, an underscore and a capital do not change what the digits stand for;
a mark behind the sign is no mark, and a mark alone leaves nothing to read. -/
theorem dressed_grammar :
    Kind.target.read (.ofText "0x0x+00_fF") = .ok (255 : Nat) ∧
    Kind.target.read (.ofText "+0x1") = .error (.data (.badTarget .badDigit)) ∧
    Kind.target.read (.ofText "0x") = .error (.data (.badTarget .noDigits)) := by
  obtain ⟨hread, -, hrefuse, -⟩ := Kind.target_grammar
  have hdressed : "0x0x+00_fF".toList = ['0', 'x', '0', 'x', '+', '0', '0', '_', 'f', 'F'] := by
    decide
  have hlate : "+0x1".toList = ['+', '0', 'x', '1'] := by decide
  have hmark : "0x".toList = ['0', 'x'] := by decide
  refine ⟨(hread _ 255).mpr ⟨?_, by decide⟩, (hrefuse _ _).mpr ⟨_, .badDigit ?_ ?_, rfl⟩,
    (hrefuse _ _).mpr ⟨_, .noDigits ?_, rfl⟩⟩
  · refine ⟨['0', '0', '_', 'f', 'F'], ?_, ?_, ?_⟩
    · rw [hdressed]
      exact .marked (.marked (.signed _))
    · have hrest : ∀ c ∈ ['0', '_', 'f', 'F'], Text.IsHexDigit c.toNat ∨ c = '_' := by
        intro c hc
        simp only [List.mem_cons, List.not_mem_nil, or_false] at hc
        rcases hc with rfl | rfl | rfl | rfl <;> decide
      exact ⟨'0', ['0', '_', 'f', 'F'], rfl, by decide, hrest⟩
    · have hvalues : List.Forall₂ (fun (c : Char) d => Text.hexValue? c.toNat = some d)
          ['0', '0', 'f', 'F'] [0, 0, 15, 15] := by
        simp only [List.forall₂_cons, List.forall₂_nil_left_iff, and_true]
        decide
      exact ⟨by decide, _, hvalues, by decide⟩
  · rw [hlate]
    intro hfront
    have hleft := hfront.rest_eq (.inl rfl)
    cases hleft
  · rw [hlate]
    intro body hfront hbody
    have hleft := hfront.rest_eq (.inr hbody)
    cases hleft
    exact hbody.not_mark (by decide)
  · rw [hmark]
    exact .marked (.bare [])

end ChainParams

import ChainParams.Proofs.Json.Document
import ChainParams.Proofs.Json.Scan
import Mathlib.Data.List.TakeWhile

/-!
# The texts of a value

A text spells a value if it is made of the tokens of the value, each in one of its
spellings, with blanks before, between and behind them.  These are the texts that hold the
value and nothing else, and no others (`Document.ofText_eq_whole_iff`).

* What is spelled is found.  Scanning finds the tokens that are laid out in a text
  (`Laid.scanAfter_eq`), since in a value only a comma or a closing mark follows a number
  (`delimited_tokens`).
* Nothing else is found.  The tokens that scanning finds are laid out in the text
  (`exists_laid_of_scanAfter`), and only the tokens of a value lead to this value.

A written value is laid out in its style, so it is read back (`Document.ofText_write`).
-/

namespace ChainParams.Json

open Literal (Closes)

/-! ## Spellings -/

/-- Letters that are read as a token when nothing follows them. -/
def Token.SpelledBy (t : Token) (letters : List Char) : Prop := nextToken letters = .token t []

/-- A text made of tokens in this order, each in one of its spellings, with blanks before,
between and behind them. -/
inductive Laid : List Token → List Char → Prop
  | nil {gap : List Char} (hgap : ∀ c ∈ gap, isGap c = true) : Laid [] gap
  | cons {gap letters text : List Char} {t : Token} {tokens : List Token}
    (hgap : ∀ c ∈ gap, isGap c = true) (hletters : t.SpelledBy letters)
    (htext : Laid tokens text) : Laid (t :: tokens) (gap ++ (letters ++ text))

/-- A text that spells a value. -/
def Spells (text : String) (j : Json) : Prop := Laid j.tokens text.toList

theorem Laid.append {tokens : List Token} {text gap : List Char} (h : Laid tokens text)
    (hgap : ∀ c ∈ gap, isGap c = true) : Laid tokens (text ++ gap) := by
  induction h with
  | nil hfront =>
      refine .nil ?_
      intro c hc
      rcases List.mem_append.mp hc with hc | hc
      · exact hfront c hc
      · exact hgap c hc
  | cons hfront hletters _ ih =>
      rw [List.append_assoc, List.append_assoc]
      exact .cons hfront hletters ih

/-! ### Scanning finds what is laid out -/

/-- A blank gap is passed over, and nothing behind it is. -/
theorem dropWhile_isGap {gap text : List Char} (hgap : ∀ c ∈ gap, isGap c = true)
    (htext : ∀ c ∈ text.head?, isGap c = false) : (gap ++ text).dropWhile isGap = text := by
  rw [List.dropWhile_append_of_pos hgap]
  cases text with
  | nil => rfl
  | cons c text => exact List.dropWhile_cons_of_neg (by simp [htext c rfl])

theorem scanAfter_token {text rest : List Char} {t : Token} (taken : List Token)
    (h : nextToken (text.dropWhile isGap) = .token t rest) :
    scanAfter taken text = scanAfter (t :: taken) rest := by
  rw [scanAfter.eq_def taken text]
  split
  · rename_i h'
    obtain ⟨rfl, rfl⟩ := Next.token.inj (h.symm.trans h')
    rfl
  · rename_i h'
    cases h.symm.trans h'

theorem scanAfter_stop {text : List Char} {b : Break} (taken : List Token)
    (h : nextToken (text.dropWhile isGap) = .stop b) :
    scanAfter taken text = (taken.reverse, b) := by
  rw [scanAfter.eq_def]
  split
  · rename_i h'
    cases h.symm.trans h'
  · rename_i h'
    obtain rfl := Next.stop.inj (h.symm.trans h')
    rfl

/-- The tokens that may stand behind a number. -/
def Token.Closing : Token → Prop
  | .comma | .closeArr | .closeObj => True
  | _ => False

/-- Tokens of which no number is followed by anything but a comma or a closing mark. -/
def Delimited : List Token → Prop
  | [] => True
  | t :: rest => ((∃ n, t = .num n) → ∀ next ∈ rest.head?, next.Closing) ∧ Delimited rest

/-- The marks that may stand behind a number have one spelling each. -/
theorem Token.SpelledBy.closes {t : Token} {letters : List Char} (h : t.SpelledBy letters)
    (ht : t.Closing) (after : List Char) : Closes (letters ++ after) := by
  have hword {s : Token} {word rest : List Char} (hs : scanWord s word rest = .token t [])
      (hnot : ¬ s.Closing) : False := hnot ((eq_append_of_scanWord hs).1 ▸ ht)
  rw [Token.SpelledBy, nextToken.eq_def] at h
  split at h
  case h_1 => cases h
  case h_8 => exact (hword h id).elim
  case h_9 => exact (hword h id).elim
  case h_10 => exact (hword h id).elim
  case h_11 =>
      split at h
      · obtain ⟨rfl, -⟩ := Next.token.inj h
        exact ht.elim
      · cases h
      · cases h
  case h_12 =>
      split at h
      · split at h
        · obtain ⟨rfl, -⟩ := Next.token.inj h
          exact ht.elim
        · cases h
        · cases h
      · cases h
  all_goals
    obtain ⟨rfl, rfl⟩ := Next.token.inj h
    first
    | exact closes_mark (by decide) after
    | exact ht.elim

theorem not_isGap_of_nextToken {t : Token} {text rest : List Char}
    (h : nextToken text = .token t rest) : ∀ c ∈ text.head?, isGap c = false := by
  intro c hc
  obtain ⟨tail, rfl⟩ := List.head?_eq_some_iff.mp hc
  cases hgap : isGap c with
  | false => rfl
  | true =>
      simp only [isGap, Bool.or_eq_true, decide_eq_true_eq] at hgap
      rcases hgap with ((rfl | rfl) | rfl) | rfl <;> cases h

/-- A number ends before a text that begins with a closing token or with nothing. -/
theorem Laid.closes {tokens : List Token} {text : List Char} (h : Laid tokens text)
    (hnext : ∀ next ∈ tokens.head?, next.Closing) : Closes text := by
  have hblank {gap after : List Char} (hgap : ∀ c ∈ gap, isGap c = true) (hafter : Closes after) :
      Closes (gap ++ after) := by
    cases gap with
    | nil => exact hafter
    | cons c gap => exact closes_of_isGap (hgap c (List.mem_cons_self ..)) _
  cases h with
  | nil hgap =>
      have h := hblank hgap (show Closes [] by simp [Closes])
      rwa [List.append_nil] at h
  | cons hgap hletters htext => exact hblank hgap (hletters.closes (hnext _ rfl) _)

/-- The tokens that are laid out in a text are found in it. -/
theorem Laid.scanAfter_eq {tokens : List Token} {text : List Char} (h : Laid tokens text)
    (hdelimited : Delimited tokens) (taken : List Token) :
    scanAfter taken text = (taken.reverse ++ tokens, .ended) := by
  induction h generalizing taken with
  | nil hgap =>
      have hdrop : List.dropWhile isGap _ = [] := List.dropWhile_eq_nil_iff.mpr hgap
      rw [scanAfter_stop taken (b := .ended) (by rw [hdrop]; rfl), List.append_nil]
  | @cons gap letters text t tokens hgap hletters htext ih =>
      obtain ⟨hnumber, hrest⟩ := hdelimited
      -- Only a number could go on, and what is laid out behind it closes it.
      have hends : t.EndsBefore text := by
        cases t with
        | num n => exact htext.closes (hnumber ⟨n, rfl⟩)
        | _ => trivial
      obtain ⟨front, hfront, hread⟩ := nextToken_front hletters
      obtain rfl : letters = front := hfront.trans (List.append_nil front)
      have hnext := hread text hends
      rw [← dropWhile_isGap hgap (not_isGap_of_nextToken hnext)] at hnext
      rw [scanAfter_token taken hnext, ih hrest, List.reverse_cons, List.append_assoc,
        List.singleton_append]

/-- Every token ends where the text ends. -/
theorem Token.endsBefore_nil (t : Token) : t.EndsBefore [] := by
  cases t with
  | num n => simp [EndsBefore, Closes]
  | _ => trivial

/-- A text is laid out as the tokens that are found in it. -/
theorem exists_laid_of_scanAfter (taken : List Token) (text : List Char)
    (h : (scanAfter taken text).2 = .ended) :
    ∃ tokens, (scanAfter taken text).1 = taken.reverse ++ tokens ∧ Laid tokens text := by
  fun_induction scanAfter taken text with
  | case1 taken text t rest hnext ih =>
      obtain ⟨tokens, htokens, hrest⟩ := ih h
      obtain ⟨front, hfront, hread⟩ := nextToken_front hnext
      have hletters : t.SpelledBy front := by
        have h := hread [] t.endsBefore_nil
        rwa [List.append_nil] at h
      refine ⟨t :: tokens, by simp [htokens], ?_⟩
      rw [← List.takeWhile_append_dropWhile (p := isGap) (l := text), hfront]
      exact .cons (fun c hc => List.mem_takeWhile_imp hc) hletters hrest
  | case2 taken text b hnext =>
      obtain rfl : b = .ended := h
      have hdrop := List.dropWhile_eq_nil_iff.mp (eq_nil_of_nextToken hnext)
      exact ⟨[], (List.append_nil _).symm, .nil hdrop⟩

/-! ### The tokens of a value are delimited -/

/-- Delimited tokens that a number may stand in front of. -/
def Closed (tokens : List Token) : Prop :=
  Delimited tokens ∧ ∀ next ∈ tokens.head?, next.Closing

theorem closed_nil : Closed [] := by
  refine ⟨trivial, ?_⟩
  intro next hnext
  cases hnext

theorem closed_cons {t : Token} {rest : List Token} (ht : t.Closing) (hrest : Delimited rest) :
    Closed (t :: rest) := by
  refine ⟨⟨?_, hrest⟩, ?_⟩
  · rintro ⟨n, rfl⟩
    exact ht.elim
  · rintro _ ⟨⟩
    exact ht

mutual

/-- The tokens of a value are delimited before everything that may follow a number. -/
theorem delimited_tokens : ∀ (j : Json) {rest : List Token}, Closed rest →
    Delimited (j.tokens ++ rest)
  | .null, _, hrest => ⟨nofun, hrest.1⟩
  | .bool _, _, hrest => ⟨nofun, hrest.1⟩
  | .num _, _, hrest => ⟨fun _ => hrest.2, hrest.1⟩
  | .str _, _, hrest => ⟨nofun, hrest.1⟩
  | .arr [], _, hrest => ⟨nofun, nofun, hrest.1⟩
  | .obj [], _, hrest => ⟨nofun, nofun, hrest.1⟩
  | .arr (item :: items), rest, hrest => by
      have hclose : Closed (.closeArr :: rest) := closed_cons trivial hrest.1
      have hitem := delimited_tokens item (closed_eachItem items hclose)
      simp only [tokens, eachItem, commaed_cons, List.cons_append, List.append_assoc,
        List.nil_append]
      exact ⟨nofun, hitem⟩
  | .obj ((key, value) :: members), rest, hrest => by
      have hclose : Closed (.closeObj :: rest) := closed_cons trivial hrest.1
      have hvalue := delimited_tokens value (closed_eachMember members hclose)
      simp only [tokens, eachMember, commaed_cons, List.cons_append, List.append_assoc,
        List.nil_append]
      exact ⟨nofun, nofun, nofun, hvalue⟩

theorem closed_eachItem : ∀ (items : List Json) {rest : List Token}, Closed rest →
    Closed ((eachItem items).flatMap (.comma :: ·) ++ rest)
  | [], _, hrest => hrest
  | item :: items, rest, hrest => by
      have hitem := delimited_tokens item (closed_eachItem items hrest)
      simp only [eachItem, List.flatMap_cons, List.cons_append, List.append_assoc]
      exact closed_cons trivial hitem

theorem closed_eachMember : ∀ (members : Members) {rest : List Token}, Closed rest →
    Closed ((eachMember members).flatMap (.comma :: ·) ++ rest)
  | [], _, hrest => hrest
  | (key, value) :: members, rest, hrest => by
      have hvalue := delimited_tokens value (closed_eachMember members hrest)
      simp only [eachMember, List.flatMap_cons, List.cons_append, List.append_assoc]
      exact closed_cons trivial ⟨nofun, nofun, hvalue⟩

end

/-! ## Documents -/

/-- Scanning finds the tokens of a value exactly in the texts that spell it. -/
theorem scanTokens_eq_iff {text : String} {j : Json} :
    scanTokens text.toList = (j.tokens, .ended) ↔ Spells text j := by
  constructor
  · intro h
    have hended : (scanAfter [] text.toList).2 = .ended := by rw [← scanTokens, h]
    obtain ⟨tokens, htokens, hlaid⟩ := exists_laid_of_scanAfter [] text.toList hended
    rw [← scanTokens, h] at htokens
    rw [Spells, show j.tokens = tokens from htokens]
    exact hlaid
  · intro h
    have hdelimited := delimited_tokens j closed_nil
    rw [List.append_nil] at hdelimited
    exact h.scanAfter_eq hdelimited []

/-- A text holds a value and nothing else if and only if it spells this value. -/
theorem Document.ofText_eq_whole_iff {text : String} {j : Json} :
    Document.ofText text = .whole j false ↔ Spells text j := by
  unfold Document.ofText
  rw [← scanTokens_eq_iff, run_eq_whole_iff, Prod.ext_iff]

/-- A text spells one value at most. -/
theorem Spells.unique {text : String} {j j' : Json} (h : Spells text j) (h' : Spells text j') :
    j = j' := by
  rw [← Document.ofText_eq_whole_iff] at h h'
  exact (Document.whole.inj (h.symm.trans h')).1

/-- Blanks behind a text do not change what it spells. -/
theorem Spells.append {text gap : String} {j : Json} (h : Spells text j)
    (hgap : ∀ c ∈ gap.toList, isGap c = true) : Spells (text ++ gap) j := by
  rw [Spells, String.toList_append]
  exact Laid.append h hgap

/-! ## Written values -/

theorem Token.spelledBy_spelling (t : Token) : t.SpelledBy t.spelling := by
  have h := nextToken_spelling t t.endsBefore_nil
  rwa [List.append_nil] at h

/-- A written token is laid out before what is laid out behind it. -/
theorem Laid.cons_spell {gap after : List Char} {t : Token} {tokens : List Token}
    {more : List Spaced} (hgap : ∀ c ∈ gap, isGap c = true)
    (h : Laid tokens (spell more ++ after)) :
    Laid (t :: tokens) (spell ((gap, t) :: more) ++ after) := by
  have htext : spell ((gap, t) :: more) ++ after =
      gap ++ (t.spelling ++ (spell more ++ after)) := by
    simp [spell]
  rw [htext]
  exact .cons hgap t.spelledBy_spelling h

theorem spell_append (tokens more : List Spaced) :
    spell (tokens ++ more) = spell tokens ++ spell more :=
  List.flatMap_append

section

variable {style : Style} (hstyle : style.Blank)
include hstyle

mutual

/-- A value is laid out in a style before everything that is laid out behind it. -/
theorem laid_spaced : ∀ (j : Json) (depth : Nat) {gap : List Char} {rest : List Token}
    {after : List Char}, (∀ c ∈ gap, isGap c = true) → Laid rest after →
      Laid (j.tokens ++ rest) (spell (spaced style depth gap j) ++ after)
  | .null, _, _, _, _, hgap, hrest => .cons_spell hgap hrest
  | .bool _, _, _, _, _, hgap, hrest => .cons_spell hgap hrest
  | .num _, _, _, _, _, hgap, hrest => .cons_spell hgap hrest
  | .str _, _, _, _, _, hgap, hrest => .cons_spell hgap hrest
  | .arr [], _, _, _, _, hgap, hrest => .cons_spell hgap (.cons_spell (List.forall_mem_nil _) hrest)
  | .obj [], _, _, _, _, hgap, hrest => .cons_spell hgap (.cons_spell (List.forall_mem_nil _) hrest)
  | .arr (item :: items), depth, gap, rest, after, hgap, hrest => by
      have hclose : Laid (.closeArr :: rest) (spell [(style.line depth, .closeArr)] ++ after) :=
        .cons_spell (hstyle.1 depth) hrest
      have hitems := laid_spacedItems items (depth + 1) hclose
      have hitem := laid_spaced item (depth + 1) (hstyle.1 (depth + 1)) hitems
      simp only [tokens, eachItem, commaed_cons, spaced, List.cons_append, List.append_assoc,
        List.nil_append]
      apply Laid.cons_spell hgap
      simp only [spell_append, List.append_assoc]
      exact hitem
  | .obj ((key, value) :: members), depth, gap, rest, after, hgap, hrest => by
      have hclose : Laid (.closeObj :: rest) (spell [(style.line depth, .closeObj)] ++ after) :=
        .cons_spell (hstyle.1 depth) hrest
      have hmembers := laid_spacedMembers members (depth + 1) hclose
      have hvalue := laid_spaced value (depth + 1) hstyle.2 hmembers
      simp only [tokens, eachMember, commaed_cons, spaced, List.cons_append, List.append_assoc,
        List.nil_append]
      apply Laid.cons_spell hgap
      apply Laid.cons_spell (hstyle.1 (depth + 1))
      apply Laid.cons_spell (List.forall_mem_nil _)
      simp only [spell_append, List.append_assoc]
      exact hvalue

theorem laid_spacedItems : ∀ (items : List Json) (depth : Nat) {rest : List Token}
    {after : List Char}, Laid rest after →
      Laid ((eachItem items).flatMap (.comma :: ·) ++ rest)
        (spell (spacedItems style depth items) ++ after)
  | [], _, _, _, hrest => hrest
  | item :: items, depth, rest, after, hrest => by
      have hitems := laid_spacedItems items depth hrest
      have hitem := laid_spaced item depth (hstyle.1 depth) hitems
      simp only [eachItem, List.flatMap_cons, spacedItems, List.cons_append, List.append_assoc]
      apply Laid.cons_spell (List.forall_mem_nil _)
      simp only [spell_append, List.append_assoc]
      exact hitem

theorem laid_spacedMembers : ∀ (members : Members) (depth : Nat) {rest : List Token}
    {after : List Char}, Laid rest after →
      Laid ((eachMember members).flatMap (.comma :: ·) ++ rest)
        (spell (spacedMembers style depth members) ++ after)
  | [], _, _, _, hrest => hrest
  | (key, value) :: members, depth, rest, after, hrest => by
      have hmembers := laid_spacedMembers members depth hrest
      have hvalue := laid_spaced value depth hstyle.2 hmembers
      simp only [eachMember, List.flatMap_cons, spacedMembers, List.cons_append,
        List.append_assoc]
      apply Laid.cons_spell (List.forall_mem_nil _)
      apply Laid.cons_spell (hstyle.1 depth)
      apply Laid.cons_spell (List.forall_mem_nil _)
      simp only [spell_append, List.append_assoc]
      exact hvalue

end

/-- The text of a value spells this value. -/
theorem spells_write (j : Json) : Spells (j.write style) j := by
  have h := laid_spaced hstyle j 0 (List.forall_mem_nil _) (.nil (List.forall_mem_nil _))
  rw [List.append_nil, List.append_nil] at h
  rw [Spells, Json.write, String.toList_ofList]
  exact h

/-- The text of a value holds this value and nothing else. -/
theorem Document.ofText_write (j : Json) : Document.ofText (j.write style) = .whole j false :=
  Document.ofText_eq_whole_iff.mpr (spells_write hstyle j)

end

end ChainParams.Json

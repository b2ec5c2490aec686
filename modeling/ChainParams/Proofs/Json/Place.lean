import ChainParams.Proofs.Json.Grammar
import ChainParams.Proofs.Schema.Path

/-!
# A number in a text

A part of a value has its tokens in one piece, between tokens that do not depend on it
(`Replaces.exists_tokens`).  If the part is a number, this piece is one token, and one piece of
every text that spells the value.  Whatever numeral is put there instead, the text then spells
the value with this number in the place of the other (`Spells.exists_number`).
-/

namespace ChainParams.Json

/-! ## Tokens of a part -/

theorem commaed_append_cons (front : List (List Token)) (part : List Token)
    (back : List (List Token)) :
    commaed (front ++ part :: back) =
      front.flatMap (· ++ [.comma]) ++ (part ++ back.flatMap (.comma :: ·)) := by
  induction front with
  | nil => exact commaed_cons part back
  | cons first front ih =>
      have hnext : commaed (first :: (front ++ part :: back)) =
          first ++ .comma :: commaed (front ++ part :: back) := by
        cases front <;> simp [commaed_cons]
      rw [List.cons_append, hnext, ih, List.flatMap_cons]
      simp

theorem exists_tokens_arr (front back : List Json) : ∃ before after, ∀ item : Json,
    (Json.arr (front ++ item :: back)).tokens = before ++ (item.tokens ++ after) := by
  refine ⟨.openArr :: (eachItem front).flatMap (· ++ [.comma]),
    (eachItem back).flatMap (.comma :: ·) ++ [.closeArr], ?_⟩
  intro item
  rw [tokens, eachItem_append, eachItem, commaed_append_cons]
  simp

theorem exists_tokens_obj (front back : Members) (key : Option String) :
    ∃ before after, ∀ value : Json,
      (Json.obj (front ++ (key, value) :: back)).tokens = before ++ (value.tokens ++ after) := by
  refine ⟨.openObj :: (eachMember front).flatMap (· ++ [.comma]) ++ [.str key, .colon],
    (eachMember back).flatMap (.comma :: ·) ++ [.closeObj], ?_⟩
  intro value
  rw [tokens, eachMember_append, eachMember, commaed_append_cons]
  simp

/-- The tokens of a part stand in one piece among those of the whole, and every other value can
be put in its place without changing the tokens around it. -/
theorem Replaces.exists_tokens {old any : Json} {path : List Step} {j j₀ : Json}
    (h : Replaces old any path j j₀) :
    ∃ before after, j.tokens = before ++ (old.tokens ++ after) ∧
      ∀ new, ∃ j', Replaces old new path j j' ∧ j'.tokens = before ++ (new.tokens ++ after) := by
  induction h with
  | here => exact ⟨[], [], by simp, fun new => ⟨new, .here, by simp⟩⟩
  | field front key back _ ih =>
      obtain ⟨before, after, hold, hother⟩ := ih
      obtain ⟨outer, rest, htokens⟩ := exists_tokens_obj front back (some key)
      refine ⟨outer ++ before, after ++ rest, by simp [htokens, hold], ?_⟩
      intro new
      obtain ⟨j', hreplaces, hnew⟩ := hother new
      exact ⟨_, .field front key back hreplaces, by simp [htokens, hnew]⟩
  | item front back _ ih =>
      obtain ⟨before, after, hold, hother⟩ := ih
      obtain ⟨outer, rest, htokens⟩ := exists_tokens_arr front back
      refine ⟨outer ++ before, after ++ rest, by simp [htokens, hold], ?_⟩
      intro new
      obtain ⟨j', hreplaces, hnew⟩ := hother new
      exact ⟨_, .item front back hreplaces, by simp [htokens, hnew]⟩

/-! ## Letters of a token -/

/-- A token is one piece of a text in which it is laid out, and every other token can be put in
its place. -/
theorem Laid.exists_letters {before after : List Token} {t : Token} {text : List Char}
    (h : Laid (before ++ t :: after) text) :
    ∃ front letters back, text = front ++ (letters ++ back) ∧ t.SpelledBy letters ∧
      ∀ (t' : Token) (letters' : List Char), t'.SpelledBy letters' →
        Laid (before ++ t' :: after) (front ++ (letters' ++ back)) := by
  induction before generalizing text with
  | nil =>
      cases h with
      | @cons gap letters text _ _ hgap hletters htext =>
          exact ⟨gap, letters, text, rfl, hletters, fun _ _ hother => .cons hgap hother htext⟩
  | cons s before ih =>
      cases h with
      | @cons gap first text _ _ hgap hfirst htext =>
          obtain ⟨front, letters, back, rfl, hletters, hother⟩ := ih htext
          refine ⟨gap ++ (first ++ front), letters, back, by simp, hletters, ?_⟩
          intro t' letters' ht'
          rw [List.append_assoc, List.append_assoc]
          exact .cons hgap hfirst (hother t' letters' ht')

/-! ## Numerals -/

theorem Numeral.spelledBy_letters (n : Numeral) : (Token.num n.literal).SpelledBy n.letters := by
  have h := nextToken_letters n (Token.num n.literal).endsBefore_nil
  rwa [List.append_nil] at h

/-- Where a text spells a number, every numeral can stand instead. -/
theorem Spells.exists_number {text : String} {l : Literal} {any : Json} {path : List Step}
    {j j₀ : Json} (h : Spells text j) (hplace : Replaces (.num l) any path j j₀) :
    ∃ front number back : String, text = front ++ number ++ back ∧ Spells number (.num l) ∧
      ∀ n : Numeral, ∃ j', Replaces (.num l) n.json path j j' ∧
        Spells (front ++ n.text ++ back) j' := by
  obtain ⟨before, after, hold, hother⟩ := hplace.exists_tokens
  rw [Spells, hold] at h
  obtain ⟨front, letters, back, htext, hletters, hlaid⟩ := Laid.exists_letters h
  refine ⟨String.ofList front, String.ofList letters, String.ofList back, ?_, ?_, ?_⟩
  · rw [← String.toList_inj, htext]
    simp
  · rw [Spells, String.toList_ofList]
    have hnumber := Laid.cons (List.forall_mem_nil _) hletters (.nil (List.forall_mem_nil _))
    rwa [List.nil_append, List.append_nil] at hnumber
  · intro n
    obtain ⟨j', hreplaces, hnew⟩ := hother n.json
    refine ⟨j', hreplaces, ?_⟩
    rw [Spells, hnew]
    change Laid (before ++ .num n.literal :: after) _
    simpa [Numeral.text] using hlaid (.num n.literal) n.letters n.spelledBy_letters

end ChainParams.Json

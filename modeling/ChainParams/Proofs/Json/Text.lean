import ChainParams.Json.Text
import ChainParams.Proofs.Bytes.Hex

/-!
# Strings are read as they were written

Every character is written as one piece of a string, by itself or as an escape,
and scanning takes these pieces one by one and stops at the closing quote.  The
pieces spell the characters again: the only numbers among them are those of
control characters, none of which is half a surrogate pair.
-/

namespace ChainParams.Json

/-! ## One character -/

/-- The piece as which a written character is read. -/
def Piece.ofChar (c : Char) : Piece :=
  if c.toNat < 0x20 ∧ c ∉ ['\x08', '\x0c', '\n', '\r', '\t'] then .code c.toNat else .char c

/-- A number that is not half a surrogate pair spells its character. -/
theorem Piece.spell?_code_cons {n : Nat} (hn : n < 0xd800) (rest : List Piece) :
    spell? (.code n :: rest) = (spell? rest).map (Char.ofNat n :: ·) := by
  have hhigh : isHigh n = false := by simp [isHigh]; omega
  have hlow : isLow n = false := by simp [isLow]; omega
  cases rest with
  | nil => simp [spell?, hhigh, hlow]
  | cons piece rest =>
      cases piece with
      | char c => simp [spell?, hhigh, hlow]
      | code low => simp [spell?, hhigh, hlow]

theorem Piece.spell?_ofChar_cons (c : Char) (rest : List Piece) :
    spell? (ofChar c :: rest) = (spell? rest).map (c :: ·) := by
  unfold ofChar
  split
  · rename_i hc
    rw [spell?_code_cons (by omega), Char.ofNat_toNat]
  · rfl

theorem Piece.spell?_map_ofChar (text : List Char) : spell? (text.map ofChar) = some text := by
  induction text with
  | nil => rfl
  | cons c text ih => rw [List.map_cons, spell?_ofChar_cons, ih, Option.map_some]

/-- The escape of a control character without a short one gives its number. -/
theorem hexNumber?_control {n : Nat} (hn : n < 0x20) :
    hexNumber? '0' '0' (Nat.digitChar (n / 16)) (Nat.digitChar (n % 16)) = some n := by
  have hzero : Text.hexValue? ('0').toNat = some 0 := rfl
  simp only [hexNumber?, hzero, Text.hexValue?_digitChar (show n / 16 < 16 by omega),
    Text.hexValue?_digitChar (show n % 16 < 16 by omega), bind, Option.bind, pure]
  congr 1
  omega

/-- A character that is not escaped is read by itself. -/
theorem scanText_plain (pieces : List Piece) {c : Char} (rest : List Char) (hquote : c ≠ '\"')
    (hslash : c ≠ '\\') (hcontrol : ¬ c.toNat < 0x20) :
    scanText pieces (c :: rest) = scanText (.char c :: pieces) rest := by
  rw [scanText.eq_def]
  split
  -- The last alternative takes the character as it is; the others begin with a quote or slash.
  case h_7 heq =>
      obtain ⟨rfl, rfl⟩ := List.cons.inj heq
      exact if_neg hcontrol
  all_goals simp_all

/-- The characters that have an escape of a single letter. -/
def shortEscaped : List Char := ['\"', '\\', '\x08', '\x0c', '\n', '\r', '\t']

theorem scanText_shortEscape (pieces : List Piece) {c : Char} (hc : c ∈ shortEscaped)
    (rest : List Char) :
    scanText pieces (escapeChar c ++ rest) = scanText (.ofChar c :: pieces) rest := by
  simp only [shortEscaped, List.mem_cons, List.not_mem_nil, or_false] at hc
  rcases hc with rfl | rfl | rfl | rfl | rfl | rfl | rfl <;> rfl

theorem escapeChar_of_notMem {c : Char} (hc : c ∉ shortEscaped) :
    escapeChar c = if c.toNat < 0x20 then
      ['\\', 'u', '0', '0', Nat.digitChar (c.toNat / 16), Nat.digitChar (c.toNat % 16)]
      else [c] := by
  simp only [shortEscaped, List.mem_cons, List.not_mem_nil, or_false, not_or] at hc
  obtain ⟨hquote, hslash, hback, hform, hline, hreturn, htab⟩ := hc
  rw [escapeChar, if_neg hquote, if_neg hslash, if_neg hback, if_neg hform, if_neg hline,
    if_neg hreturn, if_neg htab]

/-- A written character is read as one piece. -/
theorem scanText_escapeChar (pieces : List Piece) (c : Char) (rest : List Char) :
    scanText pieces (escapeChar c ++ rest) = scanText (.ofChar c :: pieces) rest := by
  by_cases hshort : c ∈ shortEscaped
  · exact scanText_shortEscape pieces hshort rest
  · rw [escapeChar_of_notMem hshort]
    by_cases hcontrol : c.toNat < 0x20
    · have hpiece : Piece.ofChar c = .code c.toNat :=
        if_pos ⟨hcontrol, fun hmem => hshort (List.mem_cons_of_mem _ (List.mem_cons_of_mem _ hmem))⟩
      rw [if_pos hcontrol, hpiece]
      simp only [List.cons_append, List.nil_append, scanText, hexNumber?_control hcontrol]
    · have hpiece : Piece.ofChar c = .char c := if_neg fun h => hcontrol h.1
      have hquote : c ≠ '\"' := by
        rintro rfl
        exact hshort (by decide)
      have hslash : c ≠ '\\' := by
        rintro rfl
        exact hshort (by decide)
      rw [if_neg hcontrol, hpiece, List.singleton_append,
        scanText_plain pieces rest hquote hslash hcontrol]

/-! ## Whole strings -/

theorem scanText_flatMap_escapeChar (pieces : List Piece) (text rest : List Char) :
    scanText pieces (text.flatMap escapeChar ++ '\"' :: rest) =
      .text ((Piece.spell? (pieces.reverse ++ text.map .ofChar)).map String.ofList) rest := by
  induction text generalizing pieces with
  | nil => simp [scanText]
  | cons c text ih =>
      rw [List.flatMap_cons, List.append_assoc, scanText_escapeChar, ih]
      simp

theorem textSpelling_some (text : String) :
    textSpelling (some text) = '\"' :: (text.toList.flatMap escapeChar ++ ['\"']) := rfl

theorem textSpelling_none :
    textSpelling none = ['\"', '\\', 'u', 'd', '8', '0', '0', '\"'] := by decide

/-- Every spelling begins with a quote, and a string is read back from what
stands behind it. -/
theorem textSpelling_eq_cons (text : Option String) :
    ∃ tail, textSpelling text = '\"' :: tail ∧
      ∀ rest, scanText [] (tail ++ rest) = .text text rest := by
  cases text with
  | none =>
      have hhalf : hexNumber? 'd' '8' '0' '0' = some 0xd800 := by decide
      refine ⟨_, textSpelling_none, fun rest => ?_⟩
      simp [scanText, hhalf, Piece.spell?, Piece.isHigh]
  | some text =>
      refine ⟨_, textSpelling_some text, fun rest => ?_⟩
      rw [List.append_assoc, List.singleton_append, scanText_flatMap_escapeChar, List.reverse_nil,
        List.nil_append, Piece.spell?_map_ofChar, Option.map_some, String.ofList_toList]

end ChainParams.Json

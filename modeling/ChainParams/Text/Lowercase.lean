import ChainParams.Text.CaseTable

/-!
# Lowercase of a text

Every character is replaced by its small form.  Two rules go beyond a table of
single characters: the capital I with a dot becomes a small i followed by a
combining dot, and a capital sigma becomes a final sigma at the end of a word
and the ordinary small sigma elsewhere.  A sigma ends a word when, skipping the
characters that case ignores, a cased character comes before it and none comes
after it.
-/

namespace ChainParams.Text

/-- Whether a character is a letter with a case, or is treated as one. -/
def isCased (c : Char) : Bool :=
  if c.toNat < 0x80 then c.isAlpha else inRanges casedRanges c

/-- Whether a character is passed over when looking for the letters around a
sigma. -/
def isCaseIgnorable (c : Char) : Bool :=
  if c.toNat < 0x80 then c ∈ ['\x27', '.', ':', '^', '\x60'] else inRanges caseIgnorableRanges c

/-- The small form of a single character, wherever it stands. -/
def lowercaseChar (c : Char) : List Char :=
  if c.toNat < 0x80 then [c.toLower]
  else if c = '\u0130' then ['i', '\u0307']
  else
    match caseRuns.find? (·.holds c.toNat) with
    | some run => [Char.ofNat (c.toNat + run.distance).toNat]
    | none => [c]

/-- Whether the first character that case does not ignore is cased. -/
def leadsToCased (text : List Char) : Bool :=
  match text.dropWhile isCaseIgnorable with
  | [] => false
  | c :: _ => isCased c

/-- The small form of a capital sigma between the text before it, read
backwards, and the text after it. -/
def lowercaseSigma (before after : List Char) : Char :=
  if leadsToCased before && !leadsToCased after then '\u03c2' else '\u03c3'

/-- The lowercase of the rest of a text, given the part before it read
backwards. -/
def lowercaseAfter (before : List Char) : List Char → List Char
  | [] => []
  | c :: after =>
    (if c = '\u03a3' then [lowercaseSigma before after] else lowercaseChar c) ++
      lowercaseAfter (c :: before) after

/-- The lowercase of a text. -/
def lowercase (text : String) : String :=
  String.ofList (lowercaseAfter [] text.toList)

end ChainParams.Text

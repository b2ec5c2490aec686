import ChainParams.Text.HexDigit

/-!
# Strings of JSON

Inside its quotes a string is a run of pieces: characters that stand for
themselves, short escapes, and escapes that give a number of four hexadecimal
digits.  Two numbers side by side may be the halves of a surrogate pair and
spell one character together; a half on its own spells nothing, so such a
string is well-formed and yet has no text.
-/

namespace ChainParams.Json

/-- A piece of a string: a character, or the number of an escape. -/
inductive Piece where
  | char (c : Char)
  | code (n : Nat)

namespace Piece

/-- Whether a number is the first half of a surrogate pair. -/
def isHigh (n : Nat) : Bool := 0xd800 ≤ n && n < 0xdc00

/-- Whether a number is the second half of a surrogate pair. -/
def isLow (n : Nat) : Bool := 0xdc00 ≤ n && n < 0xe000

/-- The character that a surrogate pair spells. -/
def paired (high low : Nat) : Char :=
  Char.ofNat (0x10000 + (high - 0xd800) * 0x400 + (low - 0xdc00))

/-- The text that pieces spell, unless half a surrogate pair is among them. -/
def spell? : List Piece → Option (List Char)
  | [] => some []
  | .char c :: rest => (spell? rest).map (c :: ·)
  | .code high :: .code low :: rest =>
    if isHigh high then
      if isLow low then (spell? rest).map (paired high low :: ·) else none
    else if isLow high then none
    else (spell? (.code low :: rest)).map (Char.ofNat high :: ·)
  | .code n :: rest =>
    if isHigh n || isLow n then none else (spell? rest).map (Char.ofNat n :: ·)

/-- The pieces, latest first, without a first half that is still waiting for the
second one. -/
def dropWaiting : List Piece → List Piece
  | .code n :: earlier => if isHigh n then earlier else .code n :: earlier
  | pieces => pieces

end Piece

/-! ## Writing -/

/-- A character as it stands inside quotes. -/
def escapeChar (c : Char) : List Char :=
  if c = '\"' then ['\\', '\"']
  else if c = '\\' then ['\\', '\\']
  else if c = '\x08' then ['\\', 'b']
  else if c = '\x0c' then ['\\', 'f']
  else if c = '\n' then ['\\', 'n']
  else if c = '\r' then ['\\', 'r']
  else if c = '\t' then ['\\', 't']
  else if c.toNat < 0x20 then
    ['\\', 'u', '0', '0', Nat.digitChar (c.toNat / 16), Nat.digitChar (c.toNat % 16)]
  else [c]

/-- The spelling of a string; one without a text is spelled as half a surrogate
pair. -/
def textSpelling : Option String → List Char
  | some text => '\"' :: text.toList.flatMap escapeChar ++ ['\"']
  | none => "\"\\ud800\"".toList

/-! ## Reading -/

/-- The character that a short escape stands for. -/
def shortEscape? : Char → Option Char
  | '\"' => some '\"'
  | '\\' => some '\\'
  | '/' => some '/'
  | 'b' => some '\x08'
  | 'f' => some '\x0c'
  | 'n' => some '\n'
  | 'r' => some '\r'
  | 't' => some '\t'
  | _ => none

/-- The number that four hexadecimal digits give. -/
def hexNumber? (a b c d : Char) : Option Nat := do
  let a ← Text.hexValue? a.toNat
  let b ← Text.hexValue? b.toNat
  let c ← Text.hexValue? c.toNat
  let d ← Text.hexValue? d.toNat
  return ((a * 16 + b) * 16 + c) * 16 + d

/-- What a text holds behind an opening quote: a string and what follows it, a
string that the end of the text cuts off, or no string.  Of a string that is
cut off it is kept whether all before the cut spells a text. -/
inductive TextScan where
  | text (content : Option String) (rest : List Char)
  | cut (spelled : Bool)
  | malformed

/-- The end of the text inside a string, after the given pieces. -/
def cutAfter (pieces : List Piece) : TextScan :=
  .cut (Piece.spell? (Piece.dropWaiting pieces).reverse).isSome

/-- Reads the rest of a string; `pieces` are those already read, latest first.
The number of an escape takes four bytes, so the text is cut off where fewer
are left. -/
def scanText (pieces : List Piece) : List Char → TextScan
  | [] => cutAfter pieces
  | '\"' :: rest => .text ((Piece.spell? pieces.reverse).map String.ofList) rest
  | '\\' :: 'u' :: a :: b :: c :: d :: rest =>
    match hexNumber? a b c d with
    | some n => scanText (.code n :: pieces) rest
    | none => .malformed
  | '\\' :: 'u' :: short =>
    if (String.ofList short).utf8ByteSize < 4 then cutAfter pieces else .malformed
  | ['\\'] => cutAfter pieces
  | '\\' :: e :: rest =>
    match shortEscape? e with
    | some c => scanText (.char c :: pieces) rest
    | none => .malformed
  | c :: rest => if c.toNat < 0x20 then .malformed else scanText (.char c :: pieces) rest

/-- What follows a string is shorter than what follows its opening quote. -/
theorem length_of_scanText {pieces : List Piece} {text : List Char} {content : Option String}
    {rest : List Char} (h : scanText pieces text = .text content rest) :
    rest.length < text.length := by
  fun_induction scanText pieces text with
  | case1 pieces => simp [cutAfter] at h
  | case2 pieces rest' =>
      simp only [TextScan.text.injEq] at h
      simp [h.2]
  | case3 pieces a b c d rest' n hn ih =>
      have := ih h
      simp only [List.length_cons]
      omega
  | case4 => simp at h
  | case5 => simp [cutAfter] at h
  | case6 => simp at h
  | case7 => simp [cutAfter] at h
  | case8 =>
      rename_i ih
      have := ih h
      simp only [List.length_cons]
      omega
  | case9 => simp at h
  | case10 => simp at h
  | case11 =>
      rename_i ih
      have := ih h
      simp only [List.length_cons]
      omega

end ChainParams.Json

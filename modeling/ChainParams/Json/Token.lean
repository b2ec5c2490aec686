import ChainParams.Json.Tree
import ChainParams.Json.Text

/-!
# Tokens of JSON

A text is a sequence of tokens with blanks between them, and then either ends or
stops being JSON.  Scanning is not told which token is wanted where, so it keeps
how the text breaks off: what a reader makes of it depends on the place.
-/

namespace ChainParams.Json

/-- A word, a mark, a number or a string. -/
inductive Token where
  | openArr
  | closeArr
  | openObj
  | closeObj
  | comma
  | colon
  | null
  | bool (b : Bool)
  | num (n : Literal)
  | str (text : Option String)

/-- How a text breaks off: it ends between tokens, inside a word, inside a number
or inside a string (of which all before the cut may spell a text or not), or it
goes on with something that is no token or not the one that is due. -/
inductive Break where
  | ended
  | word
  | number
  | text (spelled : Bool)
  | malformed
  deriving DecidableEq

/-! ## Writing -/

/-- The spelling of a token. -/
def Token.spelling : Token → List Char
  | openArr => ['[']
  | closeArr => [']']
  | openObj => ['\x7b']
  | closeObj => ['\x7d']
  | comma => [',']
  | colon => [':']
  | null => "null".toList
  | bool true => "true".toList
  | bool false => "false".toList
  | num n => n.spelling
  | str text => textSpelling text

/-! ## Reading -/

/-- Whether a character may stand between tokens. -/
def isGap (c : Char) : Bool := c = ' ' || c = '\t' || c = '\n' || c = '\r'

/-- What stands at the start of a text without blanks before it. -/
inductive Next where
  | token (t : Token) (rest : List Char)
  | stop (b : Break)

/-- Reads the letters of a word that are still due. -/
def scanWord (t : Token) : List Char → List Char → Next
  | [], rest => .token t rest
  | _ :: _, [] => .stop .word
  | due :: word, c :: rest => if c = due then scanWord t word rest else .stop .malformed

/-- Reads the token at the start of a text. -/
def nextToken : List Char → Next
  | [] => .stop .ended
  | '[' :: rest => .token .openArr rest
  | ']' :: rest => .token .closeArr rest
  | '\x7b' :: rest => .token .openObj rest
  | '\x7d' :: rest => .token .closeObj rest
  | ',' :: rest => .token .comma rest
  | ':' :: rest => .token .colon rest
  | 'n' :: rest => scanWord .null "ull".toList rest
  | 't' :: rest => scanWord (.bool true) "rue".toList rest
  | 'f' :: rest => scanWord (.bool false) "alse".toList rest
  | '\"' :: rest =>
    match scanText [] rest with
    | .text content rest => .token (.str content) rest
    | .cut spelled => .stop (.text spelled)
    | .malformed => .stop .malformed
  | c :: rest =>
    if c = '-' ∨ (Literal.digit? c).isSome then
      match Literal.scan (c :: rest) with
      | .number n rest => .token (.num n) rest
      | .cut => .stop .number
      | .malformed => .stop .malformed
    else .stop .malformed

/-! ### A token takes at least one character -/

theorem Literal.length_takeDigits (text : List Char) :
    (takeDigits text).2.length + (takeDigits text).1.length = text.length := by
  fun_induction takeDigits text with
  | case1 => rfl
  | case2 c rest d hd ih =>
      simp only [List.length_cons]
      omega
  | case3 => simp

theorem Literal.length_takeSign (text : List Char) :
    (takeSign text).2.length ≤ text.length := by
  unfold takeSign
  split <;> simp

theorem Literal.length_of_scanExponent {l n : Literal} {text rest : List Char}
    (h : scanExponent l text = .number n rest) : rest.length ≤ text.length := by
  cases text with
  | nil =>
      simp only [scanExponent, Scan.number.injEq] at h
      simp [← h.2]
  | cons c tail =>
      have hsign := length_takeSign tail
      have hdigits := length_takeDigits (takeSign tail).2
      simp only [scanExponent] at h
      split at h
      · unfold scanExponentDigits at h
        split at h
        · simp at h
        · simp at h
        · rename_i digits after _ _ htake
          rw [htake] at hdigits
          simp only [Scan.number.injEq] at h
          simp only [← h.2, List.length_cons] at hdigits ⊢
          omega
      · simp only [Scan.number.injEq] at h
        simp [← h.2]

theorem Literal.length_of_scanFraction {l n : Literal} {text rest : List Char}
    (h : scanFraction l text = .number n rest) : rest.length ≤ text.length := by
  unfold scanFraction at h
  split at h
  · rename_i tail
    have hdigits := length_takeDigits tail
    split at h
    · simp at h
    · simp at h
    · rename_i digits after _ _ htake
      rw [htake] at hdigits
      have := length_of_scanExponent h
      simp only [List.length_cons] at hdigits ⊢
      omega
  · exact length_of_scanExponent h

theorem Literal.length_of_scanMagnitude {negative : Bool} {n : Literal} {text rest : List Char}
    (h : scanMagnitude negative text = .number n rest) : rest.length < text.length := by
  have hdigits := length_takeDigits text
  unfold scanMagnitude at h
  split at h
  · simp at h
  · simp at h
  · rename_i d digits after htake
    rw [htake] at hdigits
    split at h
    · simp at h
    · have := length_of_scanFraction h
      simp only [List.length_cons] at hdigits
      omega

theorem Literal.length_of_scan {n : Literal} {text rest : List Char}
    (h : scan text = .number n rest) : rest.length < text.length := by
  unfold scan at h
  split at h
  · have := length_of_scanMagnitude h
    simp only [List.length_cons]
    omega
  · exact length_of_scanMagnitude h

theorem length_of_scanWord {t s : Token} {word text rest : List Char}
    (h : scanWord t word text = .token s rest) : rest.length ≤ text.length := by
  fun_induction scanWord t word text with
  | case1 =>
      simp only [Next.token.injEq] at h
      simp [h.2]
  | case2 => simp at h
  | case3 due word rest' ih =>
      have := ih h
      simp only [List.length_cons]
      omega
  | case4 => simp at h

/-- What follows a token is shorter than what begins with it. -/
theorem length_of_nextToken {t : Token} {text rest : List Char}
    (h : nextToken text = .token t rest) : rest.length < text.length := by
  unfold nextToken at h
  split at h
  case h_1 => simp at h
  case h_8 => exact Nat.lt_succ_of_le (length_of_scanWord h)
  case h_9 => exact Nat.lt_succ_of_le (length_of_scanWord h)
  case h_10 => exact Nat.lt_succ_of_le (length_of_scanWord h)
  case h_11 =>
    split at h
    · rename_i htext
      simp only [Next.token.injEq] at h
      have := length_of_scanText htext
      simp only [← h.2, List.length_cons]
      omega
    · simp at h
    · simp at h
  case h_12 =>
    split at h
    · split at h
      · rename_i hscan
        simp only [Next.token.injEq] at h
        have := Literal.length_of_scan hscan
        simp only [← h.2]
        omega
      · simp at h
      · simp at h
    · simp at h
  all_goals
    simp only [Next.token.injEq] at h
    simp [← h.2]

theorem length_dropWhile_le (p : Char → Bool) (text : List Char) :
    (text.dropWhile p).length ≤ text.length :=
  (List.dropWhile_sublist p).length_le

/-! ### Scanning a text -/

/-- The tokens of a text behind the given ones, which come latest first, and how
the text breaks off after them. -/
def scanAfter (tokens : List Token) (text : List Char) : List Token × Break :=
  match _h : nextToken (text.dropWhile isGap) with
  | .token t rest => scanAfter (t :: tokens) rest
  | .stop b => (tokens.reverse, b)
termination_by text.length
decreasing_by
  exact Nat.lt_of_lt_of_le (length_of_nextToken _h) (length_dropWhile_le isGap text)

/-- The tokens of a text, and how it breaks off after them. -/
def scanTokens (text : List Char) : List Token × Break := scanAfter [] text

end ChainParams.Json

import ChainParams.Text.Shown

/-!
# Quoted texts

A message quotes a text between double quotes and a single character between
single quotes.  The quote in use and the backslash are escaped, a few control
characters have names of their own, and whatever else could not be shown is
spelled out by its code point.
-/

namespace ChainParams.Text

/-- A code point spelled out in hexadecimal. -/
def spelledOut (c : Char) : List Char :=
  "\\u\x7b".toList ++ Nat.toDigits 16 c.toNat ++ ['\x7d']

/-- A character as it stands between two of the given quotes. -/
def quotedChar (quote c : Char) : List Char :=
  if c = '\x00' then ['\\', '0']
  else if c = '\t' then ['\\', 't']
  else if c = '\r' then ['\\', 'r']
  else if c = '\n' then ['\\', 'n']
  else if c = '\\' ∨ c = quote then ['\\', c]
  else if isShown c then [c]
  else spelledOut c

/-- A text between double quotes. -/
def quoteText (text : String) : String :=
  String.ofList ('\"' :: text.toList.flatMap (quotedChar '\"') ++ ['\"'])

/-- A character between single quotes. -/
def quoteChar (c : Char) : String :=
  String.ofList ('\x27' :: quotedChar '\x27' c ++ ['\x27'])

end ChainParams.Text

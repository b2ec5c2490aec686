import ChainParams.Text.Ranges

/-!
# Blank characters

A character is blank when it has the Unicode property `White_Space`.  A text is
trimmed by dropping the blank characters at both of its ends.
-/

namespace ChainParams.Text

/-- The code points with the property `White_Space`. -/
def blankRanges : List (Nat × Nat) :=
  [(0x09, 0x0d), (0x20, 0x20), (0x85, 0x85), (0xa0, 0xa0), (0x1680, 0x1680), (0x2000, 0x200a),
    (0x2028, 0x2029), (0x202f, 0x202f), (0x205f, 0x205f), (0x3000, 0x3000)]

/-- Whether a character is Unicode white space. -/
def isBlank (c : Char) : Bool :=
  inRanges blankRanges c

/-- The text without the blank characters at its start and at its end. -/
def trim (text : String) : String :=
  String.ofList ((text.toList.dropWhile isBlank).reverse.dropWhile isBlank).reverse

/-- Whether a text holds nothing but blank characters. -/
def isBlankText (text : String) : Bool :=
  text.toList.all isBlank

/-- The text with its ASCII capitals made small; every other character is kept. -/
def asciiLowercase (text : String) : String :=
  String.ofList (text.toList.map Char.toLower)

end ChainParams.Text

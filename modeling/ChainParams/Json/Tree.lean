import ChainParams.Json.Literal

/-!
# JSON values

A value keeps its numbers as literals and the members of its objects in their
order, repeated keys included.  A string whose escapes name half a surrogate
pair is well-formed but spells no text; it is kept as `none`.
-/

namespace ChainParams

/-- A JSON value. -/
inductive Json where
  | null
  | bool (b : Bool)
  | num (n : Json.Literal)
  | str (text : Option String)
  | arr (items : List Json)
  | obj (members : List (Option String × Json))

namespace Json

/-- The members of an object: keys, like strings, may spell no text. -/
abbrev Members := List (Option String × Json)

/-- A string that spells a text. -/
def ofText (text : String) : Json := .str (some text)

/-- An integer. -/
def ofInt (n : Int) : Json := .num (.ofInt n)

end Json

end ChainParams

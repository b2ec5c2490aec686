import ChainParams.Json.Token

/-!
# Layout of values

A value is written as a sequence of tokens with a gap before each of them.  A
style decides the gaps: the compact style has none, and the indented style
starts a line for every item and member.
-/

namespace ChainParams.Json

/-- The gap that starts a line inside so many arrays and objects, and the gap
between a colon and a value. -/
structure Style where
  line : Nat → List Char
  afterColon : List Char

/-- No gaps at all. -/
def Style.compact : Style := ⟨fun _ => [], []⟩

/-- Lines indented by two spaces for each level, and a space after a colon. -/
def Style.indented : Style := ⟨fun depth => '\n' :: List.replicate (2 * depth) ' ', [' ']⟩

/-- A token and the gap before it. -/
abbrev Spaced := List Char × Token

mutual

/-- A value behind a gap, inside `depth` arrays and objects. -/
def spaced (style : Style) (depth : Nat) (gap : List Char) : Json → List Spaced
  | .null => [(gap, .null)]
  | .bool b => [(gap, .bool b)]
  | .num n => [(gap, .num n)]
  | .str text => [(gap, .str text)]
  | .arr [] => [(gap, .openArr), ([], .closeArr)]
  | .arr (item :: items) =>
    (gap, .openArr) :: spaced style (depth + 1) (style.line (depth + 1)) item ++
      spacedItems style (depth + 1) items ++ [(style.line depth, .closeArr)]
  | .obj [] => [(gap, .openObj), ([], .closeObj)]
  | .obj ((key, value) :: members) =>
    (gap, .openObj) :: (style.line (depth + 1), .str key) :: ([], .colon) ::
      spaced style (depth + 1) style.afterColon value ++
      spacedMembers style (depth + 1) members ++ [(style.line depth, .closeObj)]

/-- The items behind the first one. -/
def spacedItems (style : Style) (depth : Nat) : List Json → List Spaced
  | [] => []
  | item :: items =>
    ([], .comma) :: spaced style depth (style.line depth) item ++ spacedItems style depth items

/-- The members behind the first one. -/
def spacedMembers (style : Style) (depth : Nat) : Members → List Spaced
  | [] => []
  | (key, value) :: members =>
    ([], .comma) :: (style.line depth, .str key) :: ([], .colon) ::
      spaced style depth style.afterColon value ++ spacedMembers style depth members

end

/-- The spelling of tokens with their gaps. -/
def spell (tokens : List Spaced) : List Char :=
  tokens.flatMap fun (gap, t) => gap ++ t.spelling

/-- A value in a style. -/
def write (style : Style) (j : Json) : String :=
  String.ofList (spell (spaced style 0 [] j))

/-- A value on one line without gaps. -/
def compact (j : Json) : String := j.write .compact

/-- A value on indented lines. -/
def indented (j : Json) : String := j.write .indented

end ChainParams.Json

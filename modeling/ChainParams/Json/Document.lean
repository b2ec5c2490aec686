import ChainParams.Json.Token

/-!
# Documents

A text either holds a JSON value, perhaps with something else after it, or stops
being JSON somewhere inside one.  In the second case what was read up to that
place is kept, nested like a value but open on its right side, because the
members and items before the place are looked at before the place itself is.

The tokens are taken one by one.  What is due next is a place, and the arrays
and objects around the place are a stack of frames.
-/

namespace ChainParams.Json

/-- What was read of a value up to the place where the text stops being JSON. -/
inductive Torn where
  /-- The text stops where a value is due. -/
  | value (b : Break)
  /-- It stops behind these items, where a comma or the closing bracket is due. -/
  | items (done : List Json) (b : Break)
  /-- It stops inside the item that follows these. -/
  | item (done : List Json) (inner : Torn)
  /-- It stops behind these members, where a comma or the closing brace is due. -/
  | members (done : Members) (b : Break)
  /-- It stops behind these members, where a key is due and something else is
  found. -/
  | key (done : Members) (found : Token ⊕ Break)
  /-- It stops behind these members, after the key of the next one. -/
  | member (done : Members) (key : Option String) (inner : Torn)

/-- What a text holds. -/
inductive Document where
  | whole (j : Json) (trailing : Bool)
  | torn (t : Torn)

/-- An open array or object, and what was read of it, latest first. -/
inductive Frame where
  | item (done : List Json)
  | member (done : Members) (key : Option String)

/-- What is due inside the innermost frame; what was read of an array or object
between two of its parts comes latest first. -/
inductive Place where
  | value
  | firstItem
  | afterItem (done : List Json)
  | firstKey
  | key (done : Members)
  | colon (done : Members) (key : Option String)
  | afterMember (done : Members)

/-- How far the tokens taken so far have led. -/
inductive State where
  | due (place : Place) (frames : List Frame)
  | finished (j : Json)
  | torn (t : Torn)

/-- Puts a value into the innermost frame. -/
def plug (j : Json) : List Frame → State
  | [] => .finished j
  | .item done :: frames => .due (.afterItem (j :: done)) frames
  | .member done key :: frames => .due (.afterMember ((key, j) :: done)) frames

/-- Puts what was read of a value into the frames around it. -/
def tear (t : Torn) : List Frame → Torn
  | [] => t
  | .item done :: frames => tear (.item done.reverse t) frames
  | .member done key :: frames => tear (.member done.reverse key t) frames

/-- Takes a token where a value is due. -/
def takeValue (frames : List Frame) : Token → State
  | .openArr => .due .firstItem frames
  | .openObj => .due .firstKey frames
  | .null => plug .null frames
  | .bool b => plug (.bool b) frames
  | .num n => plug (.num n) frames
  | .str text => plug (.str text) frames
  | _ => .torn (tear (.value .malformed) frames)

/-- Takes a token where a key is due. -/
def takeKey (done : Members) (frames : List Frame) : Token → State
  | .str key => .due (.colon done key) frames
  | t => .torn (tear (.key done.reverse (.inl t)) frames)

/-- Takes a token. -/
def take (frames : List Frame) : Place → Token → State
  | .value, t => takeValue frames t
  | .firstItem, .closeArr => plug (.arr []) frames
  | .firstItem, t => takeValue (.item [] :: frames) t
  | .afterItem done, .comma => .due .value (.item done :: frames)
  | .afterItem done, .closeArr => plug (.arr done.reverse) frames
  | .afterItem done, _ => .torn (tear (.items done.reverse .malformed) frames)
  | .firstKey, .closeObj => plug (.obj []) frames
  | .firstKey, t => takeKey [] frames t
  | .key done, t => takeKey done frames t
  | .colon done key, .colon => .due .value (.member done key :: frames)
  | .colon done key, _ => .torn (tear (.member done.reverse key (.value .malformed)) frames)
  | .afterMember done, .comma => .due (.key done) frames
  | .afterMember done, .closeObj => plug (.obj done.reverse) frames
  | .afterMember done, _ => .torn (tear (.members done.reverse .malformed) frames)

/-- How a text breaks off where a mark is due: it ends, or goes on with something
that is not the mark. -/
def Break.atMark : Break → Break
  | .ended => .ended
  | _ => .malformed

/-- What was read when the text breaks off at a place. -/
def Place.stop (b : Break) : Place → Torn
  | .value => .value b
  | .firstItem => .item [] (.value b)
  | .afterItem done => .items done.reverse b.atMark
  | .firstKey => .key [] (.inr b)
  | .key done => .key done.reverse (.inr b)
  | .colon done label => .member done.reverse label (.value b.atMark)
  | .afterMember done => .members done.reverse b.atMark

/-- Takes the remaining tokens of a text that then breaks off. -/
def State.run (b : Break) : State → List Token → Document
  | .torn t, _ => .torn t
  | .finished j, tokens => .whole j (!tokens.isEmpty || b != .ended)
  | .due place frames, [] => .torn (tear (place.stop b) frames)
  | .due place frames, t :: tokens => (take frames place t).run b tokens

/-- What a text holds. -/
def Document.ofText (text : String) : Document :=
  let (tokens, b) := scanTokens text.toList
  (State.due .value []).run b tokens

end ChainParams.Json

import ChainParams.Json.Fault

/-!
# Choices

A choice is a value from a list, called by its name.  It is written as a string,
and read from a string or from an object whose only key is the name and whose
only value is null.  Whether one or the other begins is seen from a single
character, so whatever else stands there is malformed, and so is anything but a
string behind the opening brace.
-/

namespace ChainParams

open Json (Fault Torn)

/-- The values to choose from, and their names. -/
structure Choice (α : Type) where
  values : List α
  name : α → String

namespace Choice

variable {α : Type}

/-- How messages call what stands behind the name of a choice. -/
def wantedNull : String := "unit"

/-- The names of the values in their order. -/
def names (choice : Choice α) : List String := choice.values.map choice.name

/-- The value with a name. -/
def ofName (choice : Choice α) (name : String) : Except Fault α :=
  match choice.values.find? (choice.name · = name) with
  | some a => .ok a
  | none => .error (.data (.unknownVariant name choice.names))

/-- The value whose name a key gives. -/
def ofKey (choice : Choice α) : Option String → Except Fault α
  | some name => choice.ofName name
  | none => .error .malformed

/-- Checks that a value is null. -/
def readNull : Json → Except Fault Unit
  | .null => .ok ()
  | j => .error (j.mistaken wantedNull)

/-- Reads a choice. -/
def read (choice : Choice α) : Json → Except Fault α
  | .str text => choice.ofKey text
  | .obj ((key, value) :: rest) => do
    let a ← choice.ofKey key
    readNull value
    if rest.isEmpty then .ok a else .error .malformed
  | _ => .error .malformed

/-- The fault of a choice whose object breaks off behind the first member. -/
def faultBehind (choice : Choice α) (key : Option String) (value : Json) (last : Fault) : Fault :=
  match choice.ofKey key, readNull value with
  | .error fault, _ | .ok _, .error fault => fault
  | .ok _, .ok _ => last

/-- The first fault of a choice that breaks off. -/
def fault (choice : Choice α) : Torn → Fault
  | .value b => b.textFault
  | .items _ _ | .item _ _ => .malformed
  | .members [] b => b.valueFault
  | .members [(key, value)] b => choice.faultBehind key value b.valueFault
  | .members ((key, value) :: _ :: _) _ => choice.faultBehind key value .malformed
  | .key [] (.inl _) => .malformed
  | .key [] (.inr b) => b.textFault
  | .key ((key, value) :: _) _ => choice.faultBehind key value .malformed
  | .member [] key inner =>
    match choice.ofKey key with
    | .ok _ => inner.mistaken wantedNull
    | .error fault => fault
  | .member ((key, value) :: _) _ _ => choice.faultBehind key value .malformed

/-- Reads a text. -/
def readText (choice : Choice α) (text : String) : Except Fault α :=
  match Json.Document.ofText text with
  | .whole j trailing => do
    let a ← choice.read j
    if trailing then .error .malformed else .ok a
  | .torn t => .error (choice.fault t)

/-- Writes a choice. -/
def write (choice : Choice α) (a : α) : Json :=
  .ofText (choice.name a)

end Choice

end ChainParams

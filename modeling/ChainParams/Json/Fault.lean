import ChainParams.Bytes.Hex
import ChainParams.Json.Document
import ChainParams.Target

/-!
# Faults of reading

A text is read for a wanted type in the order in which it is written, and the
first fault ends the reading: the text ends too early, it is not JSON at that
place, or it is JSON of another shape.  What follows is the wording of the last
kind, and what the places where a text breaks off mean to a reader who wants a
value there, wants a key there, or is only passing over them.
-/

namespace ChainParams.Json

/-- What stands where something else is wanted. -/
inductive Found where
  | null
  | boolean (b : Bool)
  | integer (n : Int)
  | double (l : Literal)
  | text (text : String)
  | sequence
  | map

/-- A way in which JSON is not of the wanted shape. -/
inductive Mismatch where
  | wrongType (found : Found) (wanted : String)
  | outOfRange (n : Int) (wanted : String)
  | tooShort (length : Nat) (record : String) (fields : Nat)
  | missing (field : String)
  | duplicate (field : String)
  | unknownField (name : String) (known : List String)
  | unknownVariant (name : String) (known : List String)
  | badHex (e : HexError)
  | badTarget (e : TargetError)

/-- The first fault of a text. -/
inductive Fault where
  | eof
  | malformed
  | data (m : Mismatch)

/-! ## Wording -/

/-- A name between backquotes. -/
def quoteName (name : String) : String := "`" ++ name ++ "`"

/-- The wording of what was found. -/
def Found.describe : Found → String
  | null => "null"
  | boolean b => "boolean " ++ quoteName (toString b)
  | integer n => "integer " ++ quoteName (toString n)
  | double l => "floating point " ++ quoteName l.displayDouble
  | text s => "string " ++ Text.quoteText s
  | sequence => "sequence"
  | map => "map"

/-- A count of elements. -/
def countElements (n : Nat) : String :=
  toString n ++ (if n = 1 then " element" else " elements")

/-- The names that could have stood in a place. -/
def oneOf (names : List String) : String :=
  "one of " ++ ", ".intercalate (names.map quoteName)

/-- The wording of a mismatch. -/
def Mismatch.message : Mismatch → String
  | wrongType found wanted => "invalid type: " ++ found.describe ++ ", expected " ++ wanted
  | outOfRange n wanted =>
    "invalid value: integer " ++ quoteName (toString n) ++ ", expected " ++ wanted
  | tooShort length record fields =>
    "invalid length " ++ toString length ++ ", expected struct " ++ record ++ " with " ++
      countElements fields
  | missing field => "missing field " ++ quoteName field
  | duplicate field => "duplicate field " ++ quoteName field
  | unknownField name known => "unknown field " ++ quoteName name ++ ", expected " ++ oneOf known
  | unknownVariant name known =>
    "unknown variant " ++ quoteName name ++ ", expected " ++ oneOf known
  | badHex e => e.message
  | badTarget e => e.message

/-! ## Where a text breaks off -/

/-- The fault of a break where a value is read: a number or a word that is cut
off could still have been completed. -/
def Break.valueFault : Break → Fault
  | .ended | .word | .number | .text true => .eof
  | .text false | .malformed => .malformed

/-- The fault of a break where only a string can stand. -/
def Break.textFault : Break → Fault
  | .ended | .text true => .eof
  | .word | .number | .text false | .malformed => .malformed

/-- The fault of a break where any value is passed over.  Strings need not spell
a text there, and a number must be followed by something. -/
def Break.passedFault : Break → Fault
  | .ended | .word | .text _ => .eof
  | .number | .malformed => .malformed

/-- The fault of a break where the key of a value that is passed over is due. -/
def Break.passedKeyFault : Break → Fault
  | .ended | .text _ => .eof
  | .word | .number | .malformed => .malformed

/-- The fault of a value that breaks off while it is passed over. -/
def Torn.passedFault : Torn → Fault
  | .value b | .items _ b | .members _ b => b.passedFault
  | .key _ (.inl _) => .malformed
  | .key _ (.inr b) => b.passedKeyFault
  | .item _ inner | .member _ _ inner => inner.passedFault

/-! ## What stands in a place -/

/-- What a number is. -/
def foundNumber (l : Literal) : Except Fault Found :=
  match l.integer? with
  | some n => .ok (.integer n)
  | none => if l.double?.isSome then .ok (.double l) else .error .malformed

/-- What a value is; a string without a text and a number out of range cannot be
read at all. -/
def found : Json → Except Fault Found
  | .null => .ok .null
  | .bool b => .ok (.boolean b)
  | .num l => foundNumber l
  | .str (some text) => .ok (.text text)
  | .str none => .error .malformed
  | .arr _ => .ok .sequence
  | .obj _ => .ok .map

/-- The fault of something that is not of the wanted type. -/
def notWanted (wanted : String) : Except Fault Found → Fault
  | .ok found => .data (.wrongType found wanted)
  | .error fault => fault

/-- The fault of a value that is not of the wanted type. -/
def mistaken (wanted : String) (j : Json) : Fault := notWanted wanted j.found

/-- The fault of a value that breaks off and is not of the wanted type, which
the first mark of an array or object already shows. -/
def Torn.mistaken (wanted : String) : Torn → Fault
  | .value b => b.valueFault
  | .items _ _ | .item _ _ => .data (.wrongType .sequence wanted)
  | .members _ _ | .key _ _ | .member _ _ _ => .data (.wrongType .map wanted)

end ChainParams.Json

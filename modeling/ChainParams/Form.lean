import ChainParams.Json.Layout
import ChainParams.Schema.Read
import ChainParams.Schema.Write

/-!
# Forms

A form ties a type of the library to a schema: its values are taken out of what
the schema reads, and put into what it writes.
-/

namespace ChainParams

/-- The JSON form of a type. -/
structure Form (α : Type) where
  schema : Schema
  ofValue : schema.Value → α
  toValue : α → schema.Value

namespace Form

variable {α : Type}

/-- Reads a value of the type from a JSON value. -/
def read (form : Form α) (j : Json) : Except Json.Fault α :=
  (form.schema.read j).map form.ofValue

/-- Reads a value of the type from a text. -/
def readText (form : Form α) (text : String) : Except Json.Fault α :=
  (form.schema.readText text).map form.ofValue

/-- Writes a value of the type as a JSON value. -/
def write (form : Form α) (a : α) : Json :=
  form.schema.write (form.toValue a)

/-- A leaf as a form of its own values. -/
def leaf (kind : Kind) : Form kind.Value := ⟨.leaf kind, id, id⟩

/-- A list of values of a type. -/
def list (form : Form α) : Form (List α) where
  schema := .list form.schema
  ofValue := fun (values : List form.schema.Value) => values.map form.ofValue
  toValue := fun as => as.map form.toValue

end Form

end ChainParams

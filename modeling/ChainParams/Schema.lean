import ChainParams.Hash

/-!
# Schemas

A schema describes the JSON form of a type: numbers of a fixed width and texts
of several formats at the leaves, lists of one schema, and records of named
fields.  Every schema has a type of values, built from pairs,
which the types of the library are put into and taken out of.
-/

namespace ChainParams

/-- The formats of values that are not made of other values. -/
inductive Kind where
  | u8
  | u16
  | u32
  | u64
  | i32
  | i64
  | boolean
  | text
  | hash
  | bytes
  | bytes4
  | target
  deriving DecidableEq

/-- The values of a format. -/
def Kind.Value : Kind → Type
  | u8 => UInt8
  | u16 => UInt16
  | u32 => UInt32
  | u64 => UInt64
  | i32 => Int32
  | i64 => Int64
  | boolean => Bool
  | text => String
  | hash => Hash
  | bytes => List UInt8
  | bytes4 => Vector UInt8 4
  | target => Nat

/-- How messages call what a format wants. -/
def Kind.wanted : Kind → String
  | u8 => "u8"
  | u16 => "u16"
  | u32 => "u32"
  | u64 => "u64"
  | i32 => "i32"
  | i64 => "i64"
  | boolean => "a boolean"
  | text | hash | bytes | bytes4 | target => "a string"

mutual

/-- The JSON form of a type.  A `strict` record refuses fields it does not know;
any other one passes over them. -/
inductive Schema where
  | leaf (kind : Kind)
  | list (item : Schema)
  | record (name : String) (strict : Bool) (fields : Fields)

/-- The fields of a record in their order.  An `optional` field may be left out
and then has the blank value of its schema, if that has one. -/
inductive Fields where
  | nil
  | cons (name : String) (optional : Bool) (schema : Schema) (rest : Fields)

end

mutual

/-- The values that a schema describes. -/
def Schema.Value : Schema → Type
  | .leaf kind => kind.Value
  | .list item => List item.Value
  | .record _ _ fields => fields.Values

/-- The values of the fields of a record. -/
def Fields.Values : Fields → Type
  | .nil => Unit
  | .cons _ _ schema rest => schema.Value × rest.Values

end

/-- The value of a field that is left out: no items, or no. -/
def Schema.blank? : (schema : Schema) → Option schema.Value
  | .leaf .boolean => some false
  | .list _ => some []
  | _ => none

/-- The number of fields. -/
def Fields.length : Fields → Nat
  | .nil => 0
  | .cons _ _ _ rest => rest.length + 1

/-- The names of the fields in their order. -/
def Fields.names : Fields → List String
  | .nil => []
  | .cons name _ _ rest => name :: rest.names

end ChainParams

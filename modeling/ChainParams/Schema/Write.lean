import ChainParams.Schema.Leaf

/-!
# Writing by a schema

A value is written with its records as objects, every field in its order.
-/

namespace ChainParams

mutual

/-- Writes a value. -/
def Schema.write : (schema : Schema) → schema.Value → Json
  | .leaf kind, value => kind.write value
  | .list item, (values : List item.Value) => .arr (values.map fun value => item.write value)
  | .record _ _ fields, values => .obj (fields.write values)

/-- Writes the fields of a record. -/
def Fields.write : (fields : Fields) → fields.Values → Json.Members
  | .nil, () => []
  | .cons name _ schema rest, (value, values) =>
    (some name, schema.write value) :: rest.write values

end

end ChainParams

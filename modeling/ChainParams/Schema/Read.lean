import ChainParams.Schema.Leaf

/-!
# Reading by a schema

A record is written as an object or as an array.  The members of an object come
in any order and fill one slot for each field; the items of an array are the
fields in their order.  Whatever is read is read in the order of the text, so
that the first fault of the text is the one reported: for each member its key
before its value, a missing field only at the end of the object, and the end of
an array only behind its fields.
-/

namespace ChainParams

open Json (Fault Mismatch Torn Break)

/-- The slots of the fields of a record, each filled or still empty. -/
def Fields.Slots : Fields → Type
  | .nil => Unit
  | .cons _ _ schema rest => Option schema.Value × rest.Slots

/-- The slots before any member is read. -/
def Fields.noSlots : (fields : Fields) → fields.Slots
  | .nil => ()
  | .cons _ _ _ rest => (none, rest.noSlots)

/-- The value of a field that the text leaves out. -/
def Schema.leftOut? (optional : Bool) (schema : Schema) : Option schema.Value :=
  if optional then schema.blank? else none

/-- The values in the slots, with the first field that is missing as a fault. -/
def Fields.finish : (fields : Fields) → fields.Slots → Except Fault fields.Values
  | .nil, () => .ok ()
  | .cons name optional schema rest, (slot, slots) =>
    match slot.or (schema.leftOut? optional) with
    | some value => do
      let values ← rest.finish slots
      return (value, values)
    | none => .error (.data (.missing name))

/-- Whether the slot of a name is filled; `none` if no field has the name. -/
def Fields.filled? : (fields : Fields) → fields.Slots → String → Option Bool
  | .nil, (), _ => none
  | .cons name _ _ rest, (slot, slots), key =>
    if key = name then some slot.isSome else rest.filled? slots key

/-- Whether the value behind a key belongs to a field, or the fault that the key
alone shows. -/
def Fields.accept (strict : Bool) (fields : Fields) (slots : fields.Slots) :
    Option String → Except Fault (Option String)
  | none => .error .malformed
  | some key =>
    match fields.filled? slots key with
    | some true => .error (.data (.duplicate key))
    | some false => .ok (some key)
    | none => if strict then .error (.data (.unknownField key fields.names)) else .ok none

/-! ## Values -/

mutual

/-- Reads a value. -/
def Schema.read : (schema : Schema) → Json → Except Fault schema.Value
  | .leaf kind, j => kind.read j
  | .list item, .arr items => items.mapM fun j => item.read j
  | .list _, j => .error (Json.mistaken "a sequence" j)
  | .record name _ fields, .arr items => fields.readItems name fields.length 0 items
  | .record _ strict fields, .obj members => do
    let slots ← members.foldlM (fun slots (key, j) => do
      match ← fields.accept strict slots key with
      | some key => fields.fill key j slots
      | none => .ok slots) fields.noSlots
    fields.finish slots
  | .record name _ _, j => .error (Json.mistaken ("struct " ++ name) j)

/-- Reads a value into the slot of the field with the given name. -/
def Fields.fill : (fields : Fields) → String → Json → fields.Slots → Except Fault fields.Slots
  | .nil, _, _, slots => .ok slots
  | .cons name _ schema rest, key, j, (slot, slots) =>
    if key = name then do
      let value ← schema.read j
      return (some value, slots)
    else do
      let slots ← rest.fill key j slots
      return (slot, slots)

/-- Reads the fields of a record from the items of an array, of which `index`
were read already. -/
def Fields.readItems (record : String) (count : Nat) :
    (fields : Fields) → (index : Nat) → List Json → Except Fault fields.Values
  | .nil, _, [] => .ok ()
  | .nil, _, _ :: _ => .error .malformed
  | .cons _ optional schema rest, index, [] =>
    match schema.leftOut? optional with
    | some value => do
      let values ← rest.readItems record count (index + 1) []
      return (value, values)
    | none => .error (.data (.tooShort index record count))
  | .cons _ _ schema rest, index, j :: items => do
    let value ← schema.read j
    let values ← rest.readItems record count (index + 1) items
    return (value, values)

end

/-- Reads a member of an object into the slots of a record. -/
def Fields.readMember (strict : Bool) (fields : Fields) (slots : fields.Slots)
    (member : Option String × Json) : Except Fault fields.Slots := do
  match ← fields.accept strict slots member.1 with
  | some key => fields.fill key member.2 slots
  | none => .ok slots

/-- An object is read member by member into the slots of its record. -/
theorem Schema.read_object (name : String) (strict : Bool) (fields : Fields)
    (members : Json.Members) :
    (Schema.record name strict fields).read (.obj members) =
      members.foldlM (fields.readMember strict) fields.noSlots >>= fields.finish := rfl

/-! ## Values that break off -/

/-- The fault of a computation, or the fault of what would come after it. -/
def faultOr {α : Type} (first : Except Fault α) (next : α → Fault) : Fault :=
  match first with
  | .ok value => next value
  | .error fault => fault

mutual

/-- The first fault of a value that breaks off. -/
def Schema.fault : (schema : Schema) → Torn → Fault
  | .leaf kind, t => t.mistaken kind.wanted
  | .list _, .value b => b.valueFault
  | .list item, .items done b => faultOr (done.mapM fun j => item.read j) fun _ => b.valueFault
  | .list item, .item done inner =>
    faultOr (done.mapM fun j => item.read j) fun _ => item.fault inner
  | .list _, t => t.mistaken "a sequence"
  | .record _ _ _, .value b => b.valueFault
  | .record _ _ fields, .items done b => fields.itemsFault done (.inr b)
  | .record _ _ fields, .item done inner => fields.itemsFault done (.inl inner)
  | .record _ strict fields, .members done b =>
    faultOr (done.foldlM (fields.readMember strict) fields.noSlots) fun _ => b.valueFault
  | .record _ strict fields, .key done (.inl _) =>
    faultOr (done.foldlM (fields.readMember strict) fields.noSlots) fun _ => .malformed
  | .record _ strict fields, .key done (.inr b) =>
    faultOr (done.foldlM (fields.readMember strict) fields.noSlots) fun _ => b.textFault
  | .record _ strict fields, .member done key inner =>
    faultOr (done.foldlM (fields.readMember strict) fields.noSlots) fun slots =>
      faultOr (fields.accept strict slots key) fun key =>
        match key with
        | some key => fields.fieldFault key inner
        | none => inner.passedFault

/-- The first fault of the field with the given name, whose value breaks off. -/
def Fields.fieldFault : Fields → String → Torn → Fault
  | .nil, _, _ => .malformed
  | .cons name _ schema rest, key, inner =>
    if key = name then schema.fault inner else rest.fieldFault key inner

/-- The first fault of the fields of a record in an array that breaks off inside
an item or behind one.  Behind the last field only the closing bracket is
due. -/
def Fields.itemsFault : Fields → List Json → Torn ⊕ Break → Fault
  | .nil, [], .inr b => b.valueFault
  | .nil, _, _ => .malformed
  | .cons _ _ _ _, [], .inr b => b.valueFault
  | .cons _ _ schema _, [], .inl inner => schema.fault inner
  | .cons _ _ schema rest, j :: done, last =>
    faultOr (schema.read j) fun _ => rest.itemsFault done last

end

/-! ## Documents and texts -/

/-- Reads what a text holds.  Nothing but blanks may follow the value. -/
def Schema.readDocument (schema : Schema) : Json.Document → Except Fault schema.Value
  | .whole j trailing => do
    let value ← schema.read j
    if trailing then .error .malformed else .ok value
  | .torn t => .error (schema.fault t)

/-- Reads a text. -/
def Schema.readText (schema : Schema) (text : String) : Except Fault schema.Value :=
  schema.readDocument (Json.Document.ofText text)

end ChainParams

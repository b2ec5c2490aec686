import ChainParams.Proofs.Schema.Path
import ChainParams.Schema.Write

/-!
# What an exchanged part makes of the whole

If a part of a value gives way to another one and both are read, so is the whole, and it is
the whole of before with one part exchanged.  What "the same but for one part" means is said of
the values as they are written: there every record is an object and every field has one
place, while the text that was read may have put a record into an array.  So the path in the
text is first turned into one that goes by the names of fields (`Schema.named`).
-/

namespace ChainParams

open Json (Fault)

mutual

/-- The path to a part in the written form of a value, where records are objects. -/
def Schema.named : Schema → List Json.Step → List Json.Step
  | .list item, .item index :: path => .item index :: item.named path
  | .record _ _ fields, step :: path => fields.named step path
  | _, path => path

/-- The path to a part of one of the fields of a record that is written as an object. -/
def Fields.named : Fields → Json.Step → List Json.Step → List Json.Step
  | .nil, step, path => step :: path
  | .cons name _ schema rest, .field key, path =>
    if key = name then .field name :: schema.named path else rest.named (.field key) path
  | .cons name _ schema _, .item 0, path => .field name :: schema.named path
  | .cons _ _ _ rest, .item (index + 1), path => rest.named (.item index) path

end

theorem Fields.named_ne_nil : ∀ (fields : Fields) (step : Json.Step) (path : List Json.Step),
    fields.named step path ≠ []
  | .nil, _, _ => List.cons_ne_nil _ _
  | .cons name _ _ rest, .field key, path => by
      rw [named]
      split
      · exact List.cons_ne_nil _ _
      · exact named_ne_nil rest (.field key) path
  | .cons _ _ _ _, .item 0, _ => List.cons_ne_nil _ _
  | .cons _ _ _ rest, .item (index + 1), path => named_ne_nil rest (.item index) path

/-- A further member in front does not change where a part of an object is. -/
theorem Json.Replaces.cons_member {old new : Json} {path : List Json.Step}
    {members members' : Json.Members} (h : Replaces old new path (.obj members) (.obj members'))
    (hpath : path ≠ []) (member : Option String × Json) :
    Replaces old new path (.obj (member :: members)) (.obj (member :: members')) := by
  cases h with
  | here => exact absurd rfl hpath
  | field front key back h => exact .field (member :: front) key back h

/-- An item is exchanged in a list by exchanging it in the written form of the list. -/
theorem Json.Replaces.set_item {α : Type} {write : α → Json} {old new : Json}
    {path : List Json.Step} {as : List α} {index : Nat} {a a' : α} (ha : as[index]? = some a)
    (h : Replaces old new path (write a) (write a')) :
    Replaces old new (.item index :: path) (.arr (as.map write))
      (.arr ((as.set index a').map write)) := by
  obtain ⟨hindex, rfl⟩ := List.getElem?_eq_some_iff.mp ha
  have hsplit : as = as.take index ++ as[index] :: as.drop (index + 1) := by
    rw [← List.drop_eq_getElem_cons hindex, List.take_append_drop]
  have hset : as.set index a' = as.take index ++ a' :: as.drop (index + 1) := by
    rw [List.set_eq_take_append_cons_drop, if_pos hindex]
  have hlength : ((as.take index).map write).length = index := by
    rw [List.length_map, List.length_take, Nat.min_eq_left (Nat.le_of_lt hindex)]
  have hitem := Replaces.item ((as.take index).map write) ((as.drop (index + 1)).map write) h
  rw [hlength] at hitem
  rw [hset, List.map_append, List.map_cons]
  nth_rewrite 1 [hsplit]
  rw [List.map_append, List.map_cons]
  exact hitem

/-- A reading gives a value that is another one with a part exchanged. -/
def Schema.Exchanged (schema inner : Schema) (path : List Json.Step) (old : Json)
    (part' : inner.Value) (value : schema.Value) (again : Except Fault schema.Value) : Prop :=
  ∃ part value', inner.read old = .ok part ∧ again = .ok value' ∧
    Json.Replaces (inner.write part) (inner.write part') path (schema.write value)
      (schema.write value')

/-- A reading gives the fields of a record with a part of one of them exchanged. -/
def Fields.Exchanged (fields : Fields) (inner : Schema) (path : List Json.Step) (old : Json)
    (part' : inner.Value) (values : fields.Values) (again : Except Fault fields.Values) : Prop :=
  ∃ part values', inner.read old = .ok part ∧ again = .ok values' ∧
    Json.Replaces (inner.write part) (inner.write part') path (.obj (fields.write values))
      (.obj (fields.write values'))

namespace Fields

variable {name : String} {optional : Bool} {schema inner : Schema} {rest : Fields}
  {path : List Json.Step} {old : Json} {part' : inner.Value} {value : schema.Value}
  {values : rest.Values}

/-- A part of the first field is exchanged. -/
theorem exchanged_head {again : Except Fault schema.Value}
    (h : schema.Exchanged inner path old part' value again)
    {whole : Except Fault (cons name optional schema rest).Values}
    (hwhole : whole = again.map fun value => (value, values)) :
    (cons name optional schema rest).Exchanged inner (.field name :: path) old part'
      (value, values) whole := by
  obtain ⟨part, value', hold, rfl, hreplaces⟩ := h
  exact ⟨part, (value', values), hold, hwhole, .field [] name (rest.write values) hreplaces⟩

/-- A part of another field is exchanged. -/
theorem exchanged_tail {again : Except Fault rest.Values} (hpath : path ≠ [])
    (h : rest.Exchanged inner path old part' values again)
    {whole : Except Fault (cons name optional schema rest).Values}
    (hwhole : whole = again.map fun values => (value, values)) :
    (cons name optional schema rest).Exchanged inner path old part' (value, values) whole := by
  obtain ⟨part, values', hold, rfl, hreplaces⟩ := h
  exact ⟨part, (value, values'), hold, hwhole, hreplaces.cons_member hpath _⟩

end Fields

section

variable {inner : Schema} {old new : Json} {part' : inner.Value}

mutual

/-- With another part that is read, the whole is read with this part exchanged. -/
theorem Schema.read_exchanged (hnew : inner.read new = .ok part') : ∀ (schema : Schema)
    {path : List Json.Step} {j j' : Json} {value : schema.Value},
      schema.at? path = some inner → Json.Replaces old new path j j' →
        schema.read j = .ok value →
          schema.Exchanged inner (schema.named path) old part' value (schema.read j')
  | schema, [], j, j', value, hat, hreplaces, h => by
      rw [Schema.at?] at hat
      obtain rfl := Option.some.inj hat
      cases hreplaces
      rw [show schema.named [] = [] by cases schema <;> rfl]
      exact ⟨value, part', h, hnew, .here⟩
  | .list item, .item _ :: path, _, _, values, hat, hreplaces, h => by
      rw [Schema.at?] at hat
      cases hreplaces with
      | @item _ j j' front back hitem =>
          obtain ⟨value, hj, hvalue⟩ := exists_read_of_mapM h
          obtain ⟨part, value', hold, hread, hexchanged⟩ := item.read_exchanged hnew hat hitem hj
          have hitems : (Schema.list item).read (.arr (front ++ j' :: back)) =
              (item.read j').map fun value => values.set front.length value := mapM_replaced h j'
          rw [hread] at hitems
          exact ⟨part, values.set front.length value', hold, hitems, hexchanged.set_item hvalue⟩
  | .record name strict fields, .field key :: path, _, _, values, hat, hreplaces, h => by
      rw [Schema.at?] at hat
      cases hreplaces with
      | @field _ j j' front _ back hmember =>
          obtain ⟨out, hmembers, hfinish⟩ := exists_of_bind_eq_ok h
          -- The member might as well stand last, so that only its own slot is left to be filled.
          obtain ⟨mid, -, hempty, hfill, hagain⟩ :=
            Fields.exists_foldlM_readMember (Fields.mem_names_of_at? hat) hmembers
          rw [Schema.read_object, hagain]
          exact fields.fill_exchanged hnew hat hmember hempty hfill hfinish
  | .record name _ fields, .item _ :: path, _, _, values, hat, hreplaces, h => by
      rw [Schema.at?] at hat
      cases hreplaces with
      | @item _ j j' front back hitem => exact fields.readItems_exchanged hnew hat hitem h

/-- With another part in the value of a field that is read last, the record is read with this
part exchanged. -/
theorem Fields.fill_exchanged (hnew : inner.read new = .ok part') : ∀ (fields : Fields)
    {key : String} {path : List Json.Step} {j j' : Json} {mid out : fields.Slots}
    {values : fields.Values},
      fields.at? (.field key) path = some inner → Json.Replaces old new path j j' →
        fields.filled? mid key = some false → fields.fill key j mid = .ok out →
          fields.finish out = .ok values →
            fields.Exchanged inner (fields.named (.field key) path) old part' values
              (fields.fill key j' mid >>= fields.finish)
  | .cons name optional schema rest, key, path, j, j', (slot, slots), out, values, hat,
      hreplaces, hempty, hfill, h => by
      change (Fields.cons name optional schema rest).filled? (Fields.slotsOf slot slots) key = _
        at hempty
      change (Fields.cons name optional schema rest).fill key j (Fields.slotsOf slot slots) = _
        at hfill
      change Fields.Exchanged _ _ _ _ _ _
        ((Fields.cons name optional schema rest).fill key j' (Fields.slotsOf slot slots) >>= _)
      rw [Fields.at?] at hat
      rw [Fields.named]
      obtain ⟨rfl, value, hread, rfl⟩ | ⟨hkey, slots', hrest, rfl⟩ :=
        Fields.fill_slotsOf_cases hfill
      · obtain ⟨_, others, hvalue, hothers, rfl⟩ := Fields.finish_slotsOf_eq_ok_iff.mp h
        obtain rfl := Option.some.inj hvalue
        rw [if_pos rfl] at hat
        rw [if_pos rfl, Fields.fill_slotsOf_self]
        exact Fields.exchanged_head (schema.read_exchanged hnew hat hreplaces hread)
          (Fields.map_slotsOf_some_bind_finish hothers _)
      · obtain ⟨value, others, hvalue, hothers, rfl⟩ := Fields.finish_slotsOf_eq_ok_iff.mp h
        rw [if_neg hkey] at hat
        rw [Fields.filled?_slotsOf_of_ne hkey] at hempty
        rw [if_neg hkey, Fields.fill_slotsOf_of_ne hkey]
        exact Fields.exchanged_tail (Fields.named_ne_nil _ _ _)
          (rest.fill_exchanged hnew hat hreplaces hempty hrest hothers)
          (Fields.map_slotsOf_bind_finish hvalue _)

/-- With another part in an item of a record that is written as an array, the record is read
with this part exchanged. -/
theorem Fields.readItems_exchanged (hnew : inner.read new = .ok part')
    {record : String} {count : Nat} : ∀ (fields : Fields) {path : List Json.Step} {j j' : Json}
      {index : Nat} {front back : List Json} {values : fields.Values},
      fields.at? (.item front.length) path = some inner → Json.Replaces old new path j j' →
        fields.readItems record count index (front ++ j :: back) = .ok values →
          fields.Exchanged inner (fields.named (.item front.length) path) old part' values
            (fields.readItems record count index (front ++ j' :: back))
  | .cons name optional schema rest, path, j, j', index, [], back, values, hat, hreplaces, h => by
      obtain ⟨value, hj, h⟩ := exists_of_bind_eq_ok h
      obtain ⟨others, hothers, h⟩ := exists_of_bind_eq_ok h
      obtain rfl := Except.ok.inj h
      refine Fields.exchanged_head (schema.read_exchanged hnew hat hreplaces hj) ?_
      rw [List.nil_append, Fields.readItems, hothers]
      cases schema.read j' <;> rfl
  | .cons name optional schema rest, path, j, j', index, first :: front, back, values, hat,
      hreplaces, h => by
      obtain ⟨value, hj, h⟩ := exists_of_bind_eq_ok h
      obtain ⟨others, hothers, h⟩ := exists_of_bind_eq_ok h
      obtain rfl := Except.ok.inj h
      refine Fields.exchanged_tail (Fields.named_ne_nil _ _ _)
        (rest.readItems_exchanged hnew hat hreplaces hothers) ?_
      rw [List.cons_append, Fields.readItems, hj]
      cases rest.readItems record count (index + 1) (front ++ j' :: back) <;> rfl

end

end

end ChainParams

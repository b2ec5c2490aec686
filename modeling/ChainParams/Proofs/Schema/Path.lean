import ChainParams.Proofs.Schema.Items
import ChainParams.Proofs.Schema.Members

/-!
# Parts of a value

A path leads from a value to one of its parts: by the key of a field, or by the position of an
item in a list or in a record that is written as an array.  A schema says which part is read
by which schema (`Schema.at?`), and what a change of a part makes of the whole
(`Schema.modifyAt`).

If a value is read, all that lies before a part is read without a fault, whatever comes after
it.  So the fault of another value in the place of the part is the fault of the whole, and if
there is none, the part is all that is read anew (`Schema.read_replaced`).
-/

namespace ChainParams

open Json (Fault)

/-! ## Paths -/

/-- A step into a value: to the member with a key, or to the item at a position. -/
inductive Json.Step where
  | field (key : String)
  | item (index : Nat)

/-- The value in which a part at a path is replaced by another one. -/
inductive Json.Replaces (old new : Json) : List Json.Step → Json → Json → Prop
  | here : Replaces old new [] old new
  | field {path : List Json.Step} {j j' : Json} (front : Json.Members) (key : String)
      (back : Json.Members) (h : Replaces old new path j j') :
      Replaces old new (.field key :: path) (.obj (front ++ (some key, j) :: back))
        (.obj (front ++ (some key, j') :: back))
  | item {path : List Json.Step} {j j' : Json} (front back : List Json)
      (h : Replaces old new path j j') :
      Replaces old new (.item front.length :: path) (.arr (front ++ j :: back))
        (.arr (front ++ j' :: back))

mutual

/-- The schema of the part at a path. -/
def Schema.at? : Schema → List Json.Step → Option Schema
  | schema, [] => some schema
  | .list item, .item _ :: path => item.at? path
  | .record _ _ fields, step :: path => fields.at? step path
  | _, _ => none

/-- The schema of the part at a path into one of the fields of a record. -/
def Fields.at? : Fields → Json.Step → List Json.Step → Option Schema
  | .nil, _, _ => none
  | .cons name _ schema rest, .field key, path =>
    if key = name then schema.at? path else rest.at? (.field key) path
  | .cons _ _ schema _, .item 0, path => schema.at? path
  | .cons _ _ _ rest, .item (index + 1), path => rest.at? (.item index) path

end

/-- A change of a value, which can fail. -/
abbrev Change := (schema : Schema) → schema.Value → Except Fault schema.Value

mutual

/-- Changes the part of a value at a path. -/
def Schema.modifyAt (change : Change) : (schema : Schema) → List Json.Step → schema.Value →
    Except Fault schema.Value
  | schema, [], value => change schema value
  | .leaf _, _ :: _, value => .ok value
  | .list _, .field _ :: _, values => .ok values
  | .list item, .item index :: path, (values : List item.Value) =>
    values[index]?.elim (.ok values) fun value =>
      (item.modifyAt change path value).map fun value => values.set index value
  | .record _ _ fields, step :: path, values => fields.modifyAt change step path values

/-- Changes a part of one of the fields of a record. -/
def Fields.modifyAt (change : Change) : (fields : Fields) → Json.Step → List Json.Step →
    fields.Values → Except Fault fields.Values
  | .nil, _, _, () => .ok ()
  | .cons name _ schema rest, .field key, path, (value, values) =>
    if key = name then (schema.modifyAt change path value).map fun value => (value, values)
    else (rest.modifyAt change (.field key) path values).map fun values => (value, values)
  | .cons _ _ schema _, .item 0, path, (value, values) =>
    (schema.modifyAt change path value).map fun value => (value, values)
  | .cons _ _ _ rest, .item (index + 1), path, (value, values) =>
    (rest.modifyAt change (.item index) path values).map fun values => (value, values)

end

theorem Schema.modifyAt_item {change : Change} {item : Schema} {index : Nat}
    {path : List Json.Step} {values : List item.Value} {value : item.Value}
    (h : values[index]? = some value) :
    (Schema.list item).modifyAt change (.item index :: path) values =
      (item.modifyAt change path value).map fun value => values.set index value := by
  change values[index]?.elim (Except.ok values) _ = _
  rw [h]
  rfl

theorem Fields.mem_names_of_at? : ∀ {fields : Fields} {key : String} {path : List Json.Step}
    {inner : Schema}, fields.at? (.field key) path = some inner → key ∈ fields.names
  | .nil, _, _, _, h => by cases h
  | .cons name _ schema rest, key, path, inner, h => by
      by_cases hkey : key = name
      · exact hkey ▸ List.mem_cons_self
      · rw [Fields.at?, if_neg hkey] at h
        exact List.mem_cons_of_mem _ (mem_names_of_at? h)

/-- What a list passes on to its items, and a record to its fields. -/
structure Inherited (ofSchema : Schema → Prop) (ofFields : Fields → Prop) : Prop where
  list {item : Schema} : ofSchema (.list item) → ofSchema item
  record {name : String} {strict : Bool} {fields : Fields} :
    ofSchema (.record name strict fields) → ofFields fields
  head {name : String} {optional : Bool} {schema : Schema} {rest : Fields} :
    ofFields (.cons name optional schema rest) → ofSchema schema
  tail {name : String} {optional : Bool} {schema : Schema} {rest : Fields} :
    ofFields (.cons name optional schema rest) → ofFields rest

section

variable {ofSchema : Schema → Prop} {ofFields : Fields → Prop}

mutual

/-- What is passed on reaches every place. -/
theorem Inherited.of_at? (hinherited : Inherited ofSchema ofFields) : ∀ {schema : Schema}
    {path : List Json.Step} {inner : Schema},
      schema.at? path = some inner → ofSchema schema → ofSchema inner
  | schema, [], inner, h, hschema => by
      rw [Schema.at?] at h
      exact Option.some.inj h ▸ hschema
  | .list item, .item _ :: path, inner, h, hschema => by
      rw [Schema.at?] at h
      exact hinherited.of_at? h (hinherited.list hschema)
  | .record _ _ fields, step :: path, inner, h, hschema => by
      rw [Schema.at?] at h
      exact hinherited.of_fieldAt? h (hinherited.record hschema)

theorem Inherited.of_fieldAt? (hinherited : Inherited ofSchema ofFields) : ∀ {fields : Fields}
    {step : Json.Step} {path : List Json.Step} {inner : Schema},
      fields.at? step path = some inner → ofFields fields → ofSchema inner
  | .cons name _ schema rest, .field key, path, inner, h, hfields => by
      rw [Fields.at?] at h
      split at h
      · exact hinherited.of_at? h (hinherited.head hfields)
      · exact hinherited.of_fieldAt? h (hinherited.tail hfields)
  | .cons _ _ schema _, .item 0, path, inner, h, hfields => by
      rw [Fields.at?] at h
      exact hinherited.of_at? h (hinherited.head hfields)
  | .cons _ _ _ rest, .item (index + 1), path, inner, h, hfields => by
      rw [Fields.at?] at h
      exact hinherited.of_fieldAt? h (hinherited.tail hfields)

end

end

theorem inherited_optionalNames (names : List String) :
    Inherited (fun schema => schema.optionalNames ⊆ names)
      (fun fields => fields.optionalNames ⊆ names) where
  list h := h
  record h := h
  head h := (List.append_subset.mp (List.append_subset.mp h).2).1
  tail h := (List.append_subset.mp (List.append_subset.mp h).2).2

theorem Schema.optionalNames_subset_of_at? {schema : Schema} {path : List Json.Step}
    {inner : Schema} (h : schema.at? path = some inner) :
    inner.optionalNames ⊆ schema.optionalNames :=
  (inherited_optionalNames _).of_at? h (List.Subset.refl _)

/-! ## Reading with another part -/

/-- What becomes of a reading when a part that was read gives way to another value: it is read
as if the part were changed into what the other value is read as, and has its fault. -/
structure Rereads {α : Type} (inner : Schema) (old new : Json) (again : Except Fault α)
    (modified : Change → Except Fault α) : Prop where
  eq_modified : ∃ part, inner.read old = .ok part ∧
    ∀ change : Change, inner.read new = change inner part → again = modified change
  eq_error : ∀ fault, inner.read new = .error fault → again = .error fault

theorem Rereads.map {α β : Type} {inner : Schema} {old new : Json} {again : Except Fault α}
    {modified : Change → Except Fault α} (h : Rereads inner old new again modified) {f : α → β}
    {whole : Except Fault β} {modifiedWhole : Change → Except Fault β}
    (hwhole : whole = again.map f)
    (hmodified : ∀ change, modifiedWhole change = (modified change).map f) :
    Rereads inner old new whole modifiedWhole where
  eq_modified := by
    obtain ⟨part, hold, hagain⟩ := h.eq_modified
    refine ⟨part, hold, ?_⟩
    intro change hnew
    rw [hwhole, hmodified, hagain change hnew]
  eq_error := by
    intro fault hfault
    rw [hwhole, h.eq_error fault hfault]
    rfl

namespace Fields

variable {name : String} {optional : Bool} {schema : Schema} {rest : Fields}

theorem map_slotsOf_bind_finish {slot : Option schema.Value} {value : schema.Value}
    (hslot : slot.or (schema.leftOut? optional) = some value) (read : Except Fault rest.Slots) :
    (read.map (slotsOf slot) >>= (cons name optional schema rest).finish) =
      (read >>= rest.finish).map fun values => (value, values) := by
  cases read with
  | error fault => rfl
  | ok slots =>
      change (cons name optional schema rest).finish (slotsOf slot slots) = _
      rw [finish_slotsOf, hslot]
      rfl

theorem map_slotsOf_some_bind_finish {slots : rest.Slots} {values : rest.Values}
    (hvalues : rest.finish slots = .ok values) (read : Except Fault schema.Value) :
    (read.map (fun value => slotsOf (some value) slots) >>=
        (cons name optional schema rest).finish) = read.map fun value => (value, values) := by
  cases read with
  | error fault => rfl
  | ok value =>
      change (cons name optional schema rest).finish (slotsOf (some value) slots) = _
      rw [finish_slotsOf, hvalues]
      rfl

end Fields

mutual

/-- A value that is read is read with another part as if this part alone were read anew. -/
theorem Schema.read_replaced : ∀ (schema : Schema) {inner : Schema} {old new : Json}
    {path : List Json.Step} {j j' : Json} {value : schema.Value},
      schema.at? path = some inner → Json.Replaces old new path j j' →
        schema.read j = .ok value →
          Rereads inner old new (schema.read j') fun change => schema.modifyAt change path value
  | schema, inner, old, new, [], j, j', value, hat, hreplaces, h => by
      rw [Schema.at?] at hat
      obtain rfl := Option.some.inj hat
      cases hreplaces
      refine ⟨⟨value, h, ?_⟩, fun _ => id⟩
      intro change hnew
      rw [Schema.modifyAt, hnew]
  | .list item, _, _, _, .item _ :: path, _, _, values, hat, hreplaces, h => by
      rw [Schema.at?] at hat
      cases hreplaces with
      | @item _ j j' front back hitem =>
          obtain ⟨value, hj, hvalue⟩ := exists_read_of_mapM h
          have hitems : (Schema.list item).read (.arr (front ++ j' :: back)) =
              (item.read j').map fun value => values.set front.length value := mapM_replaced h j'
          exact (item.read_replaced hat hitem hj).map hitems fun _ => Schema.modifyAt_item hvalue
  | .record name strict fields, _, _, _, .field key :: path, _, _, values, hat, hreplaces, h => by
      rw [Schema.at?] at hat
      cases hreplaces with
      | @field _ j j' front _ back hmember =>
          obtain ⟨out, hmembers, hfinish⟩ := exists_of_bind_eq_ok h
          -- The member might as well stand last, so that only its own slot is left to be filled.
          obtain ⟨mid, -, hempty, hfill, hnew⟩ :=
            Fields.exists_foldlM_readMember (Fields.mem_names_of_at? hat) hmembers
          rw [Schema.read_object, hnew]
          exact fields.fill_replaced hat hmember hempty hfill hfinish
  | .record name _ fields, _, _, _, .item _ :: path, _, _, values, hat, hreplaces, h => by
      rw [Schema.at?] at hat
      cases hreplaces with
      | @item _ j j' front back hitem =>
          exact fields.readItems_replaced hat hitem h

/-- The value of a field that is read last is read with another part as if this part alone
were read anew. -/
theorem Fields.fill_replaced : ∀ (fields : Fields) {inner : Schema} {old new : Json}
    {key : String} {path : List Json.Step} {j j' : Json} {mid out : fields.Slots}
    {values : fields.Values}, fields.at? (.field key) path = some inner →
      Json.Replaces old new path j j' → fields.filled? mid key = some false →
        fields.fill key j mid = .ok out → fields.finish out = .ok values →
          Rereads inner old new (fields.fill key j' mid >>= fields.finish)
            fun change => fields.modifyAt change (.field key) path values
  | .cons name optional schema rest, inner, old, new, key, path, j, j', (slot, slots), out,
      values, hat, hreplaces, hempty, hfill, h => by
      change (Fields.cons name optional schema rest).filled? (Fields.slotsOf slot slots) key = _
        at hempty
      change (Fields.cons name optional schema rest).fill key j (Fields.slotsOf slot slots) = _
        at hfill
      change Rereads inner old new
        ((Fields.cons name optional schema rest).fill key j' (Fields.slotsOf slot slots) >>= _) _
      rw [Fields.at?] at hat
      obtain ⟨rfl, value, hread, rfl⟩ | ⟨hkey, slots', hrest, rfl⟩ :=
        Fields.fill_slotsOf_cases hfill
      · obtain ⟨_, others, hvalue, hothers, rfl⟩ := Fields.finish_slotsOf_eq_ok_iff.mp h
        obtain rfl := Option.some.inj hvalue
        rw [if_pos rfl] at hat
        rw [Fields.fill_slotsOf_self]
        exact (schema.read_replaced hat hreplaces hread).map
          (Fields.map_slotsOf_some_bind_finish hothers _) fun _ => if_pos rfl
      · obtain ⟨value, others, hvalue, hothers, rfl⟩ := Fields.finish_slotsOf_eq_ok_iff.mp h
        rw [if_neg hkey] at hat
        rw [Fields.filled?_slotsOf_of_ne hkey] at hempty
        rw [Fields.fill_slotsOf_of_ne hkey]
        exact (rest.fill_replaced hat hreplaces hempty hrest hothers).map
          (Fields.map_slotsOf_bind_finish hvalue _) fun _ => if_neg hkey

/-- An item of a record that is written as an array is read with another part as if this part
alone were read anew. -/
theorem Fields.readItems_replaced {record : String} {count : Nat} : ∀ (fields : Fields)
    {inner : Schema} {old new : Json} {path : List Json.Step} {j j' : Json} {index : Nat}
      {front back : List Json} {values : fields.Values},
        fields.at? (.item front.length) path = some inner → Json.Replaces old new path j j' →
          fields.readItems record count index (front ++ j :: back) = .ok values →
            Rereads inner old new (fields.readItems record count index (front ++ j' :: back))
              fun change => fields.modifyAt change (.item front.length) path values
  | .cons name optional schema rest, inner, old, new, path, j, j', index, [], back, values, hat,
      hreplaces, h => by
      obtain ⟨value, hj, h⟩ := exists_of_bind_eq_ok h
      obtain ⟨others, hothers, h⟩ := exists_of_bind_eq_ok h
      obtain rfl := Except.ok.inj h
      have hitems : (Fields.cons name optional schema rest).readItems record count index
          ([] ++ j' :: back) = (schema.read j').map fun value => (value, others) := by
        rw [List.nil_append, Fields.readItems, hothers]
        cases schema.read j' <;> rfl
      exact (schema.read_replaced hat hreplaces hj).map hitems fun _ => rfl
  | .cons name optional schema rest, inner, old, new, path, j, j', index, first :: front, back,
      values, hat, hreplaces, h => by
      obtain ⟨value, hj, h⟩ := exists_of_bind_eq_ok h
      obtain ⟨others, hothers, h⟩ := exists_of_bind_eq_ok h
      obtain rfl := Except.ok.inj h
      have hitems : (Fields.cons name optional schema rest).readItems record count index
          (first :: front ++ j' :: back) =
            (rest.readItems record count (index + 1) (front ++ j' :: back)).map fun values =>
              (value, values) := by
        rw [List.cons_append, Fields.readItems, hj]
        cases rest.readItems record count (index + 1) (front ++ j' :: back) <;> rfl
      exact (rest.readItems_replaced hat hreplaces hothers).map hitems fun _ => rfl

end

/-! ## Members of a part -/

section

variable (path : List Json.Step) (key : String) (j j' : Json)

/-- Whether a value is another one without a member of the object at a path. -/
def Json.Drops : Prop :=
  ∃ front value back, Json.Replaces (.obj (front ++ (some key, value) :: back))
    (.obj (front ++ back)) path j j'

/-- Whether a value is another one with a further member in the object at a path, anywhere
behind a member that has the same key. -/
def Json.Repeats : Prop :=
  ∃ front again back, some key ∈ front.map Prod.fst ∧
    Json.Replaces (.obj (front ++ back)) (.obj (front ++ (some key, again) :: back)) path j j'

/-- Whether a value is another one with a further member in the object at a path. -/
def Json.Adds : Prop :=
  ∃ front added back,
    Json.Replaces (.obj (front ++ back)) (.obj (front ++ (some key, added) :: back)) path j j'

end

namespace Schema

/-- Whether the part at a path is a record with a field of the given name. -/
def HasField (schema : Schema) (path : List Json.Step) (key : String) : Prop :=
  ∃ name strict fields, schema.at? path = some (.record name strict fields) ∧ key ∈ fields.names

/-- Leaves out a field of a record. -/
def without (key : String) : Change
  | .record _ _ fields, values => fields.without key values
  | .leaf _, value => .ok value
  | .list _, values => .ok values

variable {schema : Schema} {path : List Json.Step} {key : String} {j j' : Json}
  {value : schema.Value}

/-- A value without a member is read as if a field of the part were left out. -/
theorem read_drops (hfield : schema.HasField path key) (hdrops : Json.Drops path key j j')
    (h : schema.read j = .ok value) :
    schema.read j' = schema.modifyAt (without key) path value ∧
      (key ∉ schema.optionalNames → schema.read j' = .error (.data (.missing key))) := by
  obtain ⟨name, strict, fields, hat, hkey⟩ := hfield
  obtain ⟨front, dropped, back, hreplaces⟩ := hdrops
  have hrereads := schema.read_replaced hat hreplaces h
  obtain ⟨part, hold, hagain⟩ := hrereads.eq_modified
  have hnew := read_dropped hkey hold
  refine ⟨hagain (without key) hnew, ?_⟩
  intro hrequired
  have hrequired' : key ∉ fields.optionalNames := fun hmem =>
    hrequired (optionalNames_subset_of_at? hat hmem)
  exact hrereads.eq_error _ (hnew.trans (Fields.without_of_required fields hkey hrequired'))

theorem read_repeats (hfield : schema.HasField path key) (hrepeats : Json.Repeats path key j j')
    (h : schema.read j = .ok value) : schema.read j' = .error (.data (.duplicate key)) := by
  obtain ⟨name, strict, fields, hat, hkey⟩ := hfield
  obtain ⟨front, again, back, hfront, hreplaces⟩ := hrepeats
  have hrereads := schema.read_replaced hat hreplaces h
  obtain ⟨part, hold, -⟩ := hrereads.eq_modified
  exact hrereads.eq_error _ (read_repeated hkey hfront hold)

theorem read_adds {name : String} {fields : Fields}
    (hat : schema.at? path = some (.record name true fields)) (hkey : key ∉ fields.names)
    (hadds : Json.Adds path key j j') (h : schema.read j = .ok value) :
    schema.read j' = .error (.data (.unknownField key fields.names)) := by
  obtain ⟨front, added, back, hreplaces⟩ := hadds
  have hrereads := schema.read_replaced hat hreplaces h
  obtain ⟨part, hold, -⟩ := hrereads.eq_modified
  exact hrereads.eq_error _ (read_added hkey hold)

end Schema

end ChainParams

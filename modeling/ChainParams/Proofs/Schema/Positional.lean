import ChainParams.Proofs.Schema.Path
import ChainParams.Proofs.Schema.RoundTrip

/-!
# Records that are written as arrays

A record may be written as an object or as the array of its fields, and every record in a
value may be written in its own way.  The two are read by different means: the members of an
object through slots, the items of an array by their positions.  Whichever is chosen for which
record, the value is read back (`Schema.read_writeAs`).

An array of a record has no more items than the record has fields.  It may have fewer, but the
fields that it lacks then have to be ones that may be left out (`Fields.misses_take`).
-/

namespace ChainParams

open Json (Fault)

/-! ## Writing -/

/-- The records of a value that are written as arrays.  A record is known by its place: the
positions of the fields and items that lead to it. -/
abbrev Shape := List Nat → Bool

/-- What is chosen for the records in a field or an item. -/
def Shape.inside (shape : Shape) (index : Nat) : Shape := fun place => shape (index :: place)

mutual

/-- Writes a value, with some of its records as arrays. -/
def Schema.writeAs : (schema : Schema) → Shape → schema.Value → Json
  | .leaf kind, _, value => kind.write value
  | .list item, shape, (values : List item.Value) =>
    .arr (values.mapIdx fun index value => item.writeAs (shape.inside index) value)
  | .record _ _ fields, shape, values =>
    if shape [] then .arr (fields.writeItems shape 0 values)
    else .obj ((fields.names.map some).zip (fields.writeItems shape 0 values))

/-- Writes the fields of a record from a position on, without their names. -/
def Fields.writeItems : (fields : Fields) → Shape → Nat → fields.Values → List Json
  | .nil, _, _, () => []
  | .cons _ _ schema rest, shape, index, (value, values) =>
    schema.writeAs (shape.inside index) value :: rest.writeItems shape (index + 1) values

end

/-! ## Reading back -/

theorem forall₂_mapIdx {α β : Type} {R : β → α → Prop} {write : Nat → α → β}
    (h : ∀ index a, R (write index a) a) (as : List α) : List.Forall₂ R (as.mapIdx write) as := by
  induction as generalizing write with
  | nil => exact .nil
  | cons a as ih =>
      rw [List.mapIdx_cons]
      exact .cons (h 0 a) (ih fun index => h (index + 1))

theorem key_of_mem_zip {names : List String} {items : List Json} :
    ∀ member ∈ (names.map some).zip items, ∃ key ∈ names, member.1 = some key := by
  intro member hmember
  obtain ⟨key, hkey, hmember⟩ := List.mem_map.mp (List.of_mem_zip hmember).1
  exact ⟨key, hkey, hmember.symm⟩

mutual

/-- A value is read back with any of its records written as arrays, unless a target in it is
too wide. -/
theorem Schema.read_writeAs : ∀ (schema : Schema), schema.Distinct → ∀ (shape : Shape)
    (value : schema.Value),
      schema.read (schema.writeAs shape value) = reread (schema.tooWide? value) value
  | .leaf kind, _, _, value => kind.read_write value
  | .list item, hdistinct, shape, values =>
      mapM_reread (forall₂_mapIdx (fun index => item.read_writeAs hdistinct (shape.inside index)) _)
  | .record name strict fields, hdistinct, shape, values => by
      rw [Schema.writeAs, Schema.tooWide?]
      cases shape [] with
      | true => exact fields.readItems_writeItems hdistinct name fields.length 0 shape 0 values
      | false =>
          have hread := fields.foldlM_readMember_writeItems strict hdistinct shape 0 values
          simp only [Bool.false_eq_true, if_false, Schema.read_object, hread]
          cases fields.tooWide? values with
          | some bits => rfl
          | none => exact fields.finish_filled values

/-- Behind their names the fields of a record fill all of its slots, unless a target in them is
too wide. -/
theorem Fields.foldlM_readMember_writeItems : ∀ (fields : Fields) (strict : Bool),
    fields.Distinct → ∀ (shape : Shape) (index : Nat) (values : fields.Values),
      ((fields.names.map some).zip (fields.writeItems shape index values)).foldlM
          (fields.readMember strict) fields.noSlots =
        reread (fields.tooWide? values) (fields.filled values)
  | .nil, _, _, _, _, () => rfl
  | .cons name optional schema rest, strict, hdistinct, shape, index, (value, values) => by
      obtain ⟨hname, hschema, hrest⟩ := hdistinct
      have hvalue := schema.read_writeAs hschema (shape.inside index) value
      have hvalues := rest.foldlM_readMember_writeItems strict hrest shape (index + 1) values
      rw [Fields.names, List.map_cons, Fields.writeItems, List.zip_cons_cons,
        Fields.foldlM_readMember_cons strict hname _ key_of_mem_zip, hvalue, hvalues,
        Fields.tooWide?]
      cases schema.tooWide? value with
      | some bits => rfl
      | none => cases rest.tooWide? values <;> rfl

/-- The fields of a record are read back from their positions, unless a target in them is too
wide. -/
theorem Fields.readItems_writeItems : ∀ (fields : Fields), fields.Distinct →
    ∀ (record : String) (count start : Nat) (shape : Shape) (index : Nat) (values : fields.Values),
      fields.readItems record count start (fields.writeItems shape index values) =
        reread (fields.tooWide? values) values
  | .nil, _, _, _, _, _, _, () => rfl
  | .cons name optional schema rest, hdistinct, record, count, start, shape, index,
      (value, values) => by
      obtain ⟨-, hschema, hrest⟩ := hdistinct
      have hvalue := schema.read_writeAs hschema (shape.inside index) value
      have hvalues := rest.readItems_writeItems hrest record count (start + 1) shape (index + 1)
        values
      rw [Fields.writeItems, Fields.readItems, hvalue, hvalues, Fields.tooWide?]
      cases schema.tooWide? value with
      | some bits => rfl
      | none => cases rest.tooWide? values <;> rfl

end

/-! ## Arrays of another length -/

namespace Fields

variable {record : String} {count : Nat}

/-- The position of the first field, from a given one on, that may not be left out. -/
def dueFrom? : Fields → Nat → Option Nat
  | .nil, _ => none
  | .cons _ optional schema rest, 0 =>
    if (schema.leftOut? optional).isSome then (rest.dueFrom? 0).map (· + 1) else some 0
  | .cons _ _ _ rest, start + 1 => (rest.dueFrom? start).map (· + 1)

theorem dueFrom?_bounds : ∀ {fields : Fields} {start due : Nat},
    fields.dueFrom? start = some due → start ≤ due ∧ due < fields.length
  | .cons _ optional schema rest, 0, due, h => by
      rw [dueFrom?] at h
      split at h
      · obtain ⟨_, hrest, rfl⟩ := Option.map_eq_some_iff.mp h
        exact ⟨Nat.zero_le _, Nat.succ_lt_succ (dueFrom?_bounds hrest).2⟩
      · obtain rfl := Option.some.inj h
        exact ⟨Nat.le_refl _, Nat.succ_pos _⟩
  | .cons _ _ _ rest, start + 1, due, h => by
      rw [dueFrom?] at h
      obtain ⟨_, hrest, rfl⟩ := Option.map_eq_some_iff.mp h
      obtain ⟨hlow, hhigh⟩ := dueFrom?_bounds hrest
      exact ⟨Nat.succ_le_succ hlow, Nat.succ_lt_succ hhigh⟩

theorem length_le_of_readItems : ∀ {fields : Fields} {index : Nat} {items : List Json}
    {values : fields.Values}, fields.readItems record count index items = .ok values →
      items.length ≤ fields.length
  | _, _, [], _, _ => Nat.zero_le _
  | .nil, _, _ :: _, _, h => by cases h
  | .cons _ _ _ rest, index, _ :: items, values, h => by
      obtain ⟨value, -, h⟩ := exists_of_bind_eq_ok h
      obtain ⟨others, hothers, -⟩ := exists_of_bind_eq_ok h
      exact Nat.succ_le_succ (length_le_of_readItems hothers)

/-- What reading the items of a record comes to: it succeeds, or it misses the field so many
fields on. -/
def Misses (fields : Fields) (record : String) (count index : Nat) (items : List Json) :
    Option Nat → Prop
  | none => ∃ values, fields.readItems record count index items = .ok values
  | some due => fields.readItems record count index items =
      .error (.data (.tooShort (index + due) record count))

section

variable {name : String} {optional : Bool} {schema : Schema} {rest : Fields}

theorem Misses.behind {index : Nat} {items items' : List Json} {due? : Option Nat}
    (h : rest.Misses record count (index + 1) items due?) (value : schema.Value)
    (hread : (cons name optional schema rest).readItems record count index items' =
      (rest.readItems record count (index + 1) items).map fun values => (value, values)) :
    (cons name optional schema rest).Misses record count index items' (due?.map (· + 1)) := by
  cases due? with
  | none =>
      obtain ⟨values, hvalues⟩ := h
      rw [hvalues] at hread
      exact ⟨(value, values), hread⟩
  | some due =>
      change rest.readItems record count (index + 1) items = _ at h
      rw [h, Nat.add_right_comm, Nat.add_assoc] at hread
      exact hread

end

/-- Behind the last item the first field that may not be left out is missed. -/
theorem misses_nil : ∀ (fields : Fields) (index : Nat),
    fields.Misses record count index [] (fields.dueFrom? 0)
  | .nil, _ => ⟨(), rfl⟩
  | .cons name optional schema rest, index => by
      rw [dueFrom?]
      cases hleft : schema.leftOut? optional with
      | none =>
          change readItems record count _ index [] = _
          rw [readItems, hleft]
          rfl
      | some value =>
          refine (misses_nil rest (index + 1)).behind value ?_
          rw [readItems, hleft]
          cases rest.readItems record count (index + 1) [] <;> rfl

/-- An array that is cut short misses the first field behind the cut that may not be left out. -/
theorem misses_take : ∀ {fields : Fields} {index start : Nat} {items : List Json}
    {values : fields.Values}, fields.readItems record count index items = .ok values →
      start ≤ items.length →
        fields.Misses record count index (items.take start) (fields.dueFrom? start)
  | fields, index, 0, items, _, _, _ => fields.misses_nil index
  | .nil, _, start + 1, _ :: _, _, h, _ => by cases h
  | .cons _ _ schema rest, index, start + 1, j :: items, values, h, hlength => by
      obtain ⟨value, hj, h⟩ := exists_of_bind_eq_ok h
      obtain ⟨others, hothers, h⟩ := exists_of_bind_eq_ok h
      refine (misses_take hothers (Nat.le_of_succ_le_succ hlength)).behind value ?_
      rw [List.take_succ_cons, readItems, hj]
      cases rest.readItems record count (index + 1) (items.take start) <;> rfl

end Fields

namespace Schema

variable {schema : Schema} {path : List Json.Step} {name : String} {strict : Bool}
  {fields : Fields} {items : List Json} {j j' : Json} {value : schema.Value}
  (hat : schema.at? path = some (.record name strict fields))
include hat

/-- A value is not read if an array in it has more items than the record has fields. -/
theorem read_ne_ok_of_long (hplace : Json.Replaces (.arr items) (.arr items) path j j)
    (hlong : fields.length < items.length) : schema.read j ≠ .ok value := by
  intro h
  obtain ⟨part, hold, -⟩ := (schema.read_replaced hat hplace h).eq_modified
  exact absurd (Fields.length_le_of_readItems hold) (Nat.not_le.mpr hlong)

/-- A value with an array cut short has the first field that this lacks as its fault. -/
theorem read_cut {start due : Nat}
    (hcut : Json.Replaces (.arr items) (.arr (items.take start)) path j j')
    (hstart : start ≤ items.length) (hdue : fields.dueFrom? start = some due)
    (h : schema.read j = .ok value) :
    schema.read j' = .error (.data (.tooShort due name fields.length)) := by
  have hrereads := schema.read_replaced hat hcut h
  obtain ⟨part, hold, -⟩ := hrereads.eq_modified
  have hmisses := Fields.misses_take hold hstart
  rw [hdue] at hmisses
  change _ = Except.error (Fault.data (.tooShort (0 + due) name fields.length)) at hmisses
  rw [Nat.zero_add] at hmisses
  exact hrereads.eq_error _ hmisses

end Schema

/-! ## The records of a schema -/

mutual

/-- The records in a schema, with their names. -/
def Schema.records : Schema → List (String × Bool × Fields)
  | .leaf _ => []
  | .list item => item.records
  | .record name strict fields => (name, strict, fields) :: fields.records

/-- The records in the fields of a record. -/
def Fields.records : Fields → List (String × Bool × Fields)
  | .nil => []
  | .cons _ _ schema rest => schema.records ++ rest.records

end

theorem inherited_records (all : List (String × Bool × Fields)) :
    Inherited (fun schema => schema.records ⊆ all) (fun fields => fields.records ⊆ all) where
  list h := h
  record h := (List.cons_subset.mp h).2
  head h := (List.append_subset.mp h).1
  tail h := (List.append_subset.mp h).2

/-- What is found at a path in a schema is one of its records, if it is a record. -/
theorem Schema.mem_records_of_at? {schema : Schema} {path : List Json.Step} {name : String}
    {strict : Bool} {fields : Fields}
    (h : schema.at? path = some (.record name strict fields)) :
    (name, strict, fields) ∈ schema.records :=
  (inherited_records schema.records).of_at? h (List.Subset.refl _) List.mem_cons_self

end ChainParams

import ChainParams.Proofs.Json.Grammar
import ChainParams.Proofs.Schema.Slots
import ChainParams.Proofs.Target
import ChainParams.Schema.Write
import Mathlib.Data.List.Forall2

/-!
# Values are read as they were written

Of everything a schema can write, only a target of more than 256 bits is refused
when it is read again: numbers of a fixed width are in range, and texts in a
format of their own are read back by it.  The first target that is too wide, in
the order of the text, is therefore all there is to know about reading what was
written, and `tooWide?` finds it in the value itself.

A record is read through its slots.  Behind the members of its first fields
exactly their slots are filled, so every further member finds its slot empty;
this needs the names of the fields to be distinct.
-/

namespace ChainParams

open Json (Fault)

/-! ## What cannot be read back -/

/-- The width of a target that no text may give. -/
def Kind.tooWide? : (kind : Kind) → kind.Value → Option Nat
  | .target, (n : Nat) => if maxTargetBits < bitLength n then some (bitLength n) else none
  | _, _ => none

mutual

/-- The width of the first target in a value that no text may give. -/
def Schema.tooWide? : (schema : Schema) → schema.Value → Option Nat
  | .leaf kind, value => kind.tooWide? value
  | .list item, (values : List item.Value) => values.findSome? fun value => item.tooWide? value
  | .record _ _ fields, values => fields.tooWide? values

/-- The width of the first target in the fields of a record that no text may
give. -/
def Fields.tooWide? : (fields : Fields) → fields.Values → Option Nat
  | .nil, () => none
  | .cons _ _ schema rest, (value, values) => (schema.tooWide? value).or (rest.tooWide? values)

end

/-- What is read where a value was written that has, or has not, a target that is
too wide. -/
def reread {α : Type} (width : Option Nat) (a : α) : Except Fault α :=
  match width with
  | none => .ok a
  | some bits => .error (.data (.badTarget (.tooWide bits)))

/-! ## Leaves -/

/-- A number between the bounds of its format is read back, if 64 bits are enough
for the bounds. -/
theorem readInteger_ofInt (wanted : String) (low high : Int) {n : Int} (hlow : low ≤ n)
    (hhigh : n ≤ high) (hmin : -0x8000000000000000 ≤ low) (hmax : high < 0x10000000000000000) :
    readInteger wanted low high (.ofInt n) = .ok n := by
  have hinteger : (Json.Literal.ofInt n).integer? = some n :=
    Json.Literal.integer?_ofInt (Int.le_trans hmin hlow) (Int.lt_of_le_of_lt hhigh hmax)
  simp only [readInteger, Json.ofInt, hinteger, if_pos (And.intro hlow hhigh)]

theorem readInteger_natCast (wanted : String) (high : Int) {n : Nat} (hn : n ≤ high)
    (hmax : high < 0x10000000000000000) : readInteger wanted 0 high (.ofInt n) = .ok (n : Int) :=
  readInteger_ofInt wanted 0 high (Int.natCast_nonneg n) hn (by decide) hmax

/-- A value of a format is read back, unless it is a target that is too wide. -/
theorem Kind.read_write (kind : Kind) (value : kind.Value) :
    kind.read (kind.write value) = reread (kind.tooWide? value) value := by
  cases kind with
  | u8 =>
      have hhigh := UInt8.toNat_lt value
      have hread := readInteger_natCast "u8" 0xff (n := UInt8.toNat value) (by omega)
        (by decide)
      simp only [read, write, hread]
      exact congrArg Except.ok UInt8.ofNat_toNat
  | u16 =>
      have hhigh := UInt16.toNat_lt value
      have hread := readInteger_natCast "u16" 0xffff (n := UInt16.toNat value) (by omega)
        (by decide)
      simp only [read, write, hread]
      exact congrArg Except.ok UInt16.ofNat_toNat
  | u32 =>
      have hhigh := UInt32.toNat_lt value
      have hread := readInteger_natCast "u32" 0xffffffff (n := UInt32.toNat value) (by omega)
        (by decide)
      simp only [read, write, hread]
      exact congrArg Except.ok UInt32.ofNat_toNat
  | u64 =>
      have hhigh := UInt64.toNat_lt value
      have hread := readInteger_natCast "u64" 0xffffffffffffffff (n := UInt64.toNat value)
        (by omega) (by decide)
      simp only [read, write, hread]
      exact congrArg Except.ok UInt64.ofNat_toNat
  | i32 =>
      have hlow := Int32.le_toInt value
      have hhigh := Int32.toInt_lt value
      have hread := readInteger_ofInt "i32" (-0x80000000) 0x7fffffff hlow
        (by omega) (by decide) (by decide)
      simp only [read, write, hread]
      exact congrArg Except.ok (Int32.ofInt_toInt value)
  | i64 =>
      have hlow := Int64.le_toInt value
      have hhigh := Int64.toInt_lt value
      have hread := readInteger_ofInt "i64" (-0x8000000000000000) 0x7fffffffffffffff hlow
        (by omega) (by decide) (by decide)
      simp only [read, write, hread]
      exact congrArg Except.ok (Int64.ofInt_toInt value)
  | boolean => rfl
  | text => rfl
  | hash =>
      have h := Hash.ofHex_toHex value
      simp only [read, write, readHex, readText, Json.ofText, bind, Except.bind, h]
      rfl
  | bytes =>
      have h := Hex.decode_encode value
      simp only [read, write, readHex, readText, Json.ofText, bind, Except.bind, h]
      rfl
  | bytes4 =>
      have h := Hex.decodeExactly_encode value
      simp only [read, write, readHex, readText, Json.ofText, bind, Except.bind, h]
      rfl
  | target =>
      have h := Target.ofText_toText value
      simp only [read, write, readTarget, readText, Json.ofText, bind, Except.bind, h, tooWide?]
      by_cases hwide : maxTargetBits < bitLength value
      · simp only [if_pos hwide]
        rfl
      · simp only [if_neg hwide]
        rfl

/-! ## Records whose fields have distinct names -/

mutual

/-- Whether the fields of every record in a schema have distinct names. -/
def Schema.Distinct : Schema → Prop
  | .leaf _ => True
  | .list item => item.Distinct
  | .record _ _ fields => fields.Distinct

/-- Whether fields have distinct names, and so have those of the records in
them. -/
def Fields.Distinct : Fields → Prop
  | .nil => True
  | .cons name _ schema rest => name ∉ rest.names ∧ schema.Distinct ∧ rest.Distinct

end

namespace Fields

variable {name : String} {optional : Bool} {schema : Schema} {rest : Fields} (strict : Bool)

/-- The slots with every value of a record in its place. -/
def filled : (fields : Fields) → fields.Values → fields.Slots
  | .nil, () => ()
  | .cons _ _ _ rest, (value, values) => slotsOf (some value) (rest.filled values)

theorem finish_filled : ∀ (fields : Fields) (values : fields.Values),
    fields.finish (fields.filled values) = .ok values
  | .nil, () => rfl
  | .cons _ _ _ rest, (value, values) => by
      have hrest := finish_filled rest values
      simp only [finish, filled, slotsOf, Option.some_or, hrest]
      rfl

/-- The member of the first field fills its slot. -/
theorem readMember_head (j : Json) (slots : rest.Slots) :
    (cons name optional schema rest).readMember strict (slotsOf none slots) (some name, j) =
      (schema.read j).map fun value => slotsOf (some value) slots := by
  have haccept : (cons name optional schema rest).accept strict (slotsOf none slots) (some name) =
      .ok (some name) := by
    rw [accept, filled?_slotsOf_self]
    rfl
  simp only [readMember, haccept]
  exact fill_slotsOf_self j none slots

/-- A member of a later field leaves the first slot alone. -/
theorem readMember_tail {key : String} (hkey : key ∈ rest.names) (hname : key ≠ name) (j : Json)
    (slot : Option schema.Value) (slots : rest.Slots) :
    (cons name optional schema rest).readMember strict (slotsOf slot slots) (some key, j) =
      (rest.readMember strict slots (some key, j)).map (slotsOf slot) := by
  have hknown : (rest.filled? slots key).isSome := (filled?_isSome rest slots key).mpr hkey
  obtain ⟨taken, htaken⟩ := Option.isSome_iff_exists.mp hknown
  cases taken with
  | true =>
      simp only [readMember, accept, filled?_slotsOf_of_ne hname, htaken]
      rfl
  | false =>
      simp only [readMember, accept, filled?_slotsOf_of_ne hname, htaken]
      exact fill_slotsOf_of_ne hname j slot slots

theorem foldlM_readMember_tail (hname : name ∉ rest.names) {members : Json.Members}
    (hmembers : ∀ member ∈ members, ∃ key ∈ rest.names, member.1 = some key)
    (slot : Option schema.Value) (slots : rest.Slots) :
    members.foldlM ((cons name optional schema rest).readMember strict) (slotsOf slot slots) =
      (members.foldlM (rest.readMember strict) slots).map (slotsOf slot) := by
  -- The slot of the first field is carried along; the induction varies the other slots.
  induction members generalizing slots with
  | nil => rfl
  | cons member members ih =>
      obtain ⟨label, j⟩ := member
      obtain ⟨key, hkey, rfl⟩ := hmembers _ (List.mem_cons_self ..)
      have hne : key ≠ name := fun h => hname (h ▸ hkey)
      have hrest := ih fun member hmember => hmembers member (List.mem_cons_of_mem _ hmember)
      rw [List.foldlM_cons, List.foldlM_cons, readMember_tail strict hkey hne]
      cases rest.readMember strict slots (some key, j) with
      | error fault => rfl
      | ok slots => exact hrest slots

theorem key_of_mem_write : ∀ (fields : Fields) (values : fields.Values),
    ∀ member ∈ fields.write values, ∃ key ∈ fields.names, member.1 = some key
  | .nil, () => by simp [write]
  | .cons name _ schema rest, (value, values) => by
      intro member hmember
      rcases List.mem_cons.mp hmember with rfl | hmember
      · exact ⟨name, List.mem_cons_self .., rfl⟩
      · obtain ⟨key, hkey, hlabel⟩ := key_of_mem_write rest values member hmember
        exact ⟨key, List.mem_cons_of_mem _ hkey, hlabel⟩

/-- An object that begins with the member of the first field is read by reading its
value, and then the members of the other fields into their own slots. -/
theorem foldlM_readMember_cons (hname : name ∉ rest.names) (j : Json) {members : Json.Members}
    (hmembers : ∀ member ∈ members, ∃ key ∈ rest.names, member.1 = some key) :
    ((some name, j) :: members).foldlM ((cons name optional schema rest).readMember strict)
        (cons name optional schema rest).noSlots =
      schema.read j >>= fun value =>
        (members.foldlM (rest.readMember strict) rest.noSlots).map (slotsOf (some value)) := by
  have hhead := @readMember_head name optional schema rest strict j rest.noSlots
  have htail := fun value => @foldlM_readMember_tail name optional schema rest strict hname
    members hmembers (some value) rest.noSlots
  change ((cons name optional schema rest).readMember strict (slotsOf none rest.noSlots)
    (some name, j) >>= fun slots => members.foldlM _ slots) = _
  rw [hhead]
  cases schema.read j with
  | error fault => rfl
  | ok value => exact htail value

end Fields

/-! ## Values -/

theorem mapM_reread {α : Type} {read : Json → Except Fault α} {width : α → Option Nat}
    {items : List Json} {as : List α}
    (h : List.Forall₂ (fun j a => read j = reread (width a) a) items as) :
    items.mapM read = reread (as.findSome? width) as := by
  induction h with
  | nil => rfl
  | @cons j a items as hj _ ih =>
      rw [List.mapM_cons, hj, ih, List.findSome?_cons]
      cases width a with
      | some bits => rfl
      | none => cases as.findSome? width <;> rfl

mutual

/-- A value is read back, unless a target in it is too wide. -/
theorem Schema.read_write : ∀ (schema : Schema), schema.Distinct → ∀ value : schema.Value,
    schema.read (schema.write value) = reread (schema.tooWide? value) value
  | .leaf kind, _, value => kind.read_write value
  | .list item, hdistinct, values => mapM_reread <| List.forall₂_map_left_iff.mpr <|
      List.forall₂_same.mpr fun value _ => item.read_write hdistinct value
  | .record name strict fields, hdistinct, values => by
      have hread := fields.foldlM_readMember_write strict hdistinct values
      simp only [Schema.write, Schema.read_object, Schema.tooWide?, hread]
      cases fields.tooWide? values with
      | some bits => rfl
      | none => exact fields.finish_filled values

/-- The members of a record fill all of its slots, unless a target in them is too
wide. -/
theorem Fields.foldlM_readMember_write : ∀ (fields : Fields) (strict : Bool), fields.Distinct →
    ∀ values : fields.Values,
      (fields.write values).foldlM (fields.readMember strict) fields.noSlots =
        reread (fields.tooWide? values) (fields.filled values)
  | .nil, _, _, () => rfl
  | .cons name optional schema rest, strict, hdistinct, (value, values) => by
      obtain ⟨hname, hschema, hrest⟩ := hdistinct
      have hvalue := schema.read_write hschema value
      have hvalues := rest.foldlM_readMember_write strict hrest values
      rw [Fields.write, Fields.foldlM_readMember_cons strict hname _ (rest.key_of_mem_write values),
        hvalue, hvalues, Fields.tooWide?]
      cases schema.tooWide? value with
      | some bits => rfl
      | none => cases rest.tooWide? values <;> rfl

end

/-! ## Texts -/

/-- A value is read back from its text in every style, unless a target in it is
too wide. -/
theorem Schema.readText_write {style : Json.Style} (hstyle : style.Blank) {schema : Schema}
    (hdistinct : schema.Distinct) (value : schema.Value) :
    schema.readText ((schema.write value).write style) = reread (schema.tooWide? value) value := by
  rw [readText, Json.Document.ofText_write hstyle, readDocument, schema.read_write hdistinct]
  cases schema.tooWide? value <;> rfl

end ChainParams

import ChainParams.Proofs.Json.Grammar
import ChainParams.Proofs.Schema.Items
import ChainParams.Proofs.Schema.Slots
import Mathlib.Data.List.Forall2

/-!
# Respelling values

The members of an object are read in the order of the text, each into the slot of its own
field, and a record that is not strict passes over members that no field is named after.
So a value is read alike when the members of its objects are put in another order, when
such members are added, and when what stands behind their keys is changed.

Only what is read is the same: a value with two faults shows the first one in the order of
the text.  The lemmas below are therefore about values that are read.
-/

namespace ChainParams

open Json (Fault)

mutual

/-- Whether a value is another one with the members of its objects in some order, and
further members that are passed over.  A record that is written as an array is left as it
is. -/
def Schema.Respells : Schema → Json → Json → Prop
  | .list item, .arr items, j' => ∃ items', j' = .arr items' ∧ items.Forall₂ item.Respells items'
  | .record _ strict fields, .obj members, j' =>
    ∃ respelled added members', j' = .obj members' ∧
      List.Forall₂ fields.RespellsMember members respelled ∧
      (∀ member ∈ added, strict = false ∧ ∃ key ∉ fields.names, member.1 = some key) ∧
      (respelled ++ added).Perm members'
  | _, j, j' => j = j'

/-- Whether a member is another one with its value respelled.  A value that no field takes
may be any. -/
def Fields.RespellsMember : Fields → Option String × Json → Option String × Json → Prop
  | .nil, member, member' => member.1 = member'.1
  | .cons name _ schema rest, member, member' =>
    if member.1 = some name then member'.1 = some name ∧ schema.Respells member.2 member'.2
    else rest.RespellsMember member member'

end

/-- Respelling keeps the key of a member. -/
theorem Fields.RespellsMember.key_eq : ∀ {fields : Fields} {member member' : Option String × Json},
    fields.RespellsMember member member' → member.1 = member'.1
  | .nil, _, _, h => h
  | .cons name optional schema rest, member, member', h => by
      rw [RespellsMember] at h
      split at h
      · next hkey => exact hkey.trans h.1.symm
      · exact key_eq h

theorem mapM_of_forall₂ {α : Type} {read : Json → Except Fault α} {R : Json → Json → Prop}
    (hR : ∀ j j' a, R j j' → read j = .ok a → read j' = .ok a) {items items' : List Json}
    (h : items.Forall₂ R items') {as : List α} (hread : items.mapM read = .ok as) :
    items'.mapM read = .ok as := by
  induction h generalizing as with
  | nil => exact hread
  | @cons j j' items items' hitem _ ih =>
      obtain ⟨a, rest, hj, hitems, rfl⟩ := mapM_cons_eq_ok_iff.mp hread
      exact mapM_cons_eq_ok_iff.mpr ⟨a, rest, hR j j' a hitem hj, ih hitems, rfl⟩

section

variable {strict : Bool} {fields : Fields}
  (hfill : ∀ key j j' (slots out : fields.Slots),
    fields.RespellsMember (some key, j) (some key, j') →
      fields.fill key j slots = .ok out → fields.fill key j' slots = .ok out)
include hfill

theorem Fields.foldlM_of_forall₂ {members respelled : Json.Members}
    (h : List.Forall₂ fields.RespellsMember members respelled) {slots out : fields.Slots}
    (hread : members.foldlM (fields.readMember strict) slots = .ok out) :
    respelled.foldlM (fields.readMember strict) slots = .ok out := by
  induction h generalizing slots with
  | nil => exact hread
  | @cons member member' members respelled hmember _ ih =>
      obtain ⟨mid, htakes, hmembers⟩ := foldlM_readMember_cons_iff.mp hread
      refine foldlM_readMember_cons_iff.mpr ⟨mid, ?_, ih hmembers⟩
      obtain ⟨key', j'⟩ := member'
      have hkey := hmember.key_eq
      cases htakes with
      | filled hempty hj =>
          obtain rfl := hkey
          exact .filled hempty (hfill _ _ _ _ _ hmember hj)
      | passed hstrict hunknown =>
          obtain rfl := hkey
          exact .passed hstrict hunknown

/-- An object is read alike when its members are respelled, added to and put in another
order. -/
theorem Schema.read_object_respelled {name : String}
    {members respelled added members' : Json.Members}
    (hrespelled : List.Forall₂ fields.RespellsMember members respelled)
    (hadded : ∀ member ∈ added, strict = false ∧ ∃ key ∉ fields.names, member.1 = some key)
    (hperm : (respelled ++ added).Perm members') {values : fields.Values}
    (hread : (Schema.record name strict fields).read (.obj members) = .ok values) :
    (Schema.record name strict fields).read (.obj members') = .ok values := by
  obtain ⟨slots, hmembers, hfinish⟩ := exists_of_bind_eq_ok hread
  have hall : (respelled ++ added).foldlM (fields.readMember strict) fields.noSlots = .ok slots :=
    Fields.foldlM_readMember_append_iff.mpr ⟨slots,
      Fields.foldlM_of_forall₂ hfill hrespelled hmembers,
      Fields.foldlM_readMember_unknown hadded slots⟩
  rw [read_object, Fields.foldlM_readMember_of_perm hperm hall]
  exact hfinish

end

mutual

/-- A value that is read is read alike when it is respelled. -/
theorem Schema.read_respells : ∀ (schema : Schema) {j j' : Json} {value : schema.Value},
    schema.Respells j j' → schema.read j = .ok value → schema.read j' = .ok value
  | .leaf kind, j, j', value, h, hread => by
      obtain rfl : j = j' := h
      exact hread
  | .list item, j, j', value, h, hread => by
      have hitem : ∀ j j' a, item.Respells j j' → item.read j = .ok a → item.read j' = .ok a :=
        fun _ _ _ => item.read_respells
      cases j with
      | arr items =>
          obtain ⟨items', rfl, hitems⟩ := h
          exact mapM_of_forall₂ hitem hitems hread
      | _ => exact h ▸ hread
  | .record name strict fields, j, j', value, h, hread => by
      have hmember := fun key j j' slots out => @fields.fill_respells key j j' slots out
      cases j with
      | obj members =>
          obtain ⟨respelled, added, members', rfl, hrespelled, hadded, hperm⟩ := h
          exact Schema.read_object_respelled hmember hrespelled hadded hperm hread
      | _ => exact h ▸ hread

/-- A value is read into its slot alike when it is respelled. -/
theorem Fields.fill_respells : ∀ (fields : Fields) {key : String} {j j' : Json}
    {slots out : fields.Slots}, fields.RespellsMember (some key, j) (some key, j') →
      fields.fill key j slots = .ok out → fields.fill key j' slots = .ok out
  | .nil, _, _, _, _, _, _, h => h
  | .cons name optional schema rest, key, j, j', (slot, slots), out, hmember, h => by
      change (Fields.cons name optional schema rest).fill key j (Fields.slotsOf slot slots) = _ at h
      change (Fields.cons name optional schema rest).fill key j' (Fields.slotsOf slot slots) = _
      rw [Fields.RespellsMember] at hmember
      obtain ⟨rfl, value, hread, rfl⟩ | ⟨hkey, slots', hrest, rfl⟩ := Fields.fill_slotsOf_cases h
      · rw [if_pos rfl] at hmember
        rw [Fields.fill_slotsOf_self, schema.read_respells hmember.2 hread]
        rfl
      · rw [if_neg fun h => hkey (Option.some.inj h)] at hmember
        rw [Fields.fill_slotsOf_of_ne hkey, rest.fill_respells hmember hrest]
        rfl

end

mutual

theorem Schema.respells_refl : ∀ (schema : Schema) (j : Json), schema.Respells j j
  | .leaf _, _ => rfl
  | .list item, j => by
      have hitem := item.respells_refl
      cases j with
      | arr items => exact ⟨items, rfl, List.forall₂_same.mpr fun j _ => hitem j⟩
      | _ => rfl
  | .record _ _ fields, j => by
      have hmember := fields.respellsMember_refl
      cases j with
      | obj members =>
          refine ⟨members, [], members, rfl, ?_, List.forall_mem_nil _, ?_⟩
          · exact List.forall₂_same.mpr fun member _ => hmember member
          · rw [List.append_nil]
      | _ => rfl

theorem Fields.respellsMember_refl : ∀ (fields : Fields) (member : Option String × Json),
    fields.RespellsMember member member
  | .nil, _ => rfl
  | .cons name _ schema rest, member => by
      have hvalue := schema.respells_refl member.2
      rw [Fields.RespellsMember]
      split
      · next hkey => exact ⟨hkey, hvalue⟩
      · exact rest.respellsMember_refl member

end

/-- Members in another order, and others that are passed over, respell an object. -/
theorem Schema.respells_of_perm {name : String} {strict : Bool} {fields : Fields}
    {members added members' : Json.Members}
    (hadded : ∀ member ∈ added, strict = false ∧ ∃ key ∉ fields.names, member.1 = some key)
    (hperm : (members ++ added).Perm members') :
    (Schema.record name strict fields).Respells (.obj members) (.obj members') := by
  refine ⟨members, added, members', rfl, ?_, hadded, hperm⟩
  exact List.forall₂_same.mpr fun member _ => fields.respellsMember_refl member

/-! ## Texts -/

/-- A text is read as the value that it spells. -/
theorem Schema.readText_of_spells {schema : Schema} {text : String} {j : Json}
    (h : Json.Spells text j) : schema.readText text = schema.read j := by
  rw [readText, Json.Document.ofText_eq_whole_iff.mpr h, readDocument]
  cases schema.read j <;> rfl

/-- A text is read if it spells a value that is read. -/
theorem Schema.readText_eq_ok_iff {schema : Schema} {text : String} {value : schema.Value} :
    schema.readText text = .ok value ↔ ∃ j, Json.Spells text j ∧ schema.read j = .ok value := by
  constructor
  · intro h
    cases hdocument : Json.Document.ofText text with
    | torn t =>
        rw [readText, hdocument] at h
        cases h
    | whole j trailing =>
        rw [readText, hdocument, readDocument] at h
        obtain ⟨a, hread, ha⟩ := exists_of_bind_eq_ok h
        cases trailing with
        | true => cases ha
        | false =>
            obtain rfl := Except.ok.inj ha
            exact ⟨j, Json.Document.ofText_eq_whole_iff.mp hdocument, hread⟩
  · rintro ⟨j, htext, hread⟩
    rw [readText_of_spells htext, hread]

end ChainParams

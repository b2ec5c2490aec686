import ChainParams.Proofs.Schema.Items
import ChainParams.Proofs.Schema.RoundTrip

/-!
# Nothing too wide is read

Whatever a text gives, no target in it is wider than 256 bits (`Schema.tooWide?_of_read`).
The invariant of reading an object is that no slot holds such a target; values that the text
leaves out have none in them.
-/

namespace ChainParams

open Json (Fault)

/-! ## Leaves -/

theorem Target.not_tooWide_of_ofText {text : String} {n : Nat} (h : ofText text = .ok n) :
    ¬ maxTargetBits < bitLength n := by
  obtain ⟨m, -, hm⟩ := exists_of_bind_eq_ok h
  change (if maxTargetBits < bitLength m then _ else _) = _ at hm
  split at hm
  · cases hm
  · rename_i hwidth
    obtain rfl := Except.ok.inj hm
    exact hwidth

theorem not_tooWide_of_readTarget {j : Json} {n : Nat} (h : readTarget j = .ok n) :
    ¬ maxTargetBits < bitLength n := by
  obtain ⟨text, -, htext⟩ := exists_of_bind_eq_ok h
  split at htext
  · rename_i htarget
    obtain rfl := Except.ok.inj htext
    exact Target.not_tooWide_of_ofText htarget
  · cases htext

theorem Kind.tooWide?_of_read {kind : Kind} {j : Json} {value : kind.Value}
    (h : kind.read j = .ok value) : kind.tooWide? value = none := by
  cases kind with
  | target => exact if_neg (not_tooWide_of_readTarget h)
  | _ => rfl

/-! ## Values that are left out -/

theorem Schema.tooWide?_of_leftOut? {optional : Bool} {schema : Schema} {value : schema.Value}
    (h : schema.leftOut? optional = some value) : schema.tooWide? value = none := by
  have hblank : schema.blank? = some value := by
    rw [leftOut?] at h
    split at h
    · exact h
    · cases h
  cases schema with
  | leaf kind =>
      cases kind with
      | target => cases hblank
      | _ => rfl
  | list item =>
      cases hblank
      rfl
  | record name strict fields => cases hblank

/-! ## Records -/

namespace Fields

variable {name : String} {optional strict : Bool} {schema : Schema} {rest fields : Fields}

/-- Whether no slot holds a target that is too wide. -/
def Narrow : (fields : Fields) → fields.Slots → Prop
  | .nil, () => True
  | .cons _ _ schema rest, (slot, slots) =>
    (∀ value ∈ slot, schema.tooWide? value = none) ∧ rest.Narrow slots

theorem narrow_noSlots : ∀ fields : Fields, fields.Narrow fields.noSlots
  | .nil => trivial
  | .cons _ _ _ rest => by
      refine ⟨?_, narrow_noSlots rest⟩
      intro value hvalue
      cases hvalue

theorem tooWide?_cons_eq_none_iff {value : schema.Value} {values : rest.Values} :
    (cons name optional schema rest).tooWide? (value, values) = none ↔
      schema.tooWide? value = none ∧ rest.tooWide? values = none :=
  Option.or_eq_none_iff

theorem tooWide?_of_finish : ∀ {fields : Fields} {slots : fields.Slots} {values : fields.Values},
    fields.Narrow slots → fields.finish slots = .ok values → fields.tooWide? values = none
  | .nil, _, (), _, _ => rfl
  | .cons name optional schema rest, (slot, slots), values, ⟨hslot, hslots⟩, h => by
      obtain ⟨value, others, hvalue, hothers, rfl⟩ := finish_slotsOf_eq_ok_iff.mp h
      refine tooWide?_cons_eq_none_iff.mpr ⟨?_, tooWide?_of_finish hslots hothers⟩
      rcases Option.or_eq_some_iff.mp hvalue with hfilled | ⟨-, hleftOut⟩
      · exact hslot value hfilled
      · exact schema.tooWide?_of_leftOut? hleftOut

section

variable (hfill : ∀ key j (slots out : fields.Slots),
    fields.Narrow slots → fields.fill key j slots = .ok out → fields.Narrow out)
include hfill

theorem narrow_foldlM {members : Json.Members} {slots out : fields.Slots}
    (hnarrow : fields.Narrow slots)
    (h : members.foldlM (fields.readMember strict) slots = .ok out) : fields.Narrow out := by
  induction members generalizing slots with
  | nil =>
      obtain rfl := Except.ok.inj h
      exact hnarrow
  | cons member members ih =>
      obtain ⟨mid, htakes, hmembers⟩ := foldlM_readMember_cons_iff.mp h
      refine ih ?_ hmembers
      cases htakes with
      | filled _ hfilled => exact hfill _ _ _ _ hnarrow hfilled
      | passed => exact hnarrow

end

end Fields

mutual

/-- No target in a value that is read is too wide. -/
theorem Schema.tooWide?_of_read : ∀ (schema : Schema) {j : Json} {value : schema.Value},
    schema.read j = .ok value → schema.tooWide? value = none
  | .leaf kind, _, _, h => kind.tooWide?_of_read h
  | .list item, j, values, h => by
      have hitem := fun j a => @item.tooWide?_of_read j a
      cases j with
      | arr items => exact List.findSome?_eq_none_iff.mpr (forall_mem_of_mapM hitem h)
      | _ => cases h
  | .record name strict fields, j, values, h => by
      have hfill := fun key j slots out => @fields.narrow_fill key j slots out
      have hitems := fun index items => @fields.tooWide?_of_readItems name fields.length index items
      cases j with
      | arr items => exact hitems 0 items h
      | obj members =>
          obtain ⟨slots, hslots, hfinish⟩ := exists_of_bind_eq_ok h
          have hnarrow := Fields.narrow_foldlM hfill fields.narrow_noSlots hslots
          exact Fields.tooWide?_of_finish hnarrow hfinish
      | _ => cases h

theorem Fields.narrow_fill : ∀ (fields : Fields) {key : String} {j : Json}
    {slots out : fields.Slots}, fields.Narrow slots → fields.fill key j slots = .ok out →
      fields.Narrow out
  | .nil, _, _, _, (), _, _ => trivial
  | .cons name optional schema rest, key, j, (slot, slots), out, ⟨hslot, hslots⟩, h => by
      obtain ⟨rfl, value, hread, rfl⟩ | ⟨-, slots', hrest, rfl⟩ := Fields.fill_slotsOf_cases h
      · refine ⟨?_, hslots⟩
        intro value' hvalue
        obtain rfl := Option.some.inj hvalue
        exact schema.tooWide?_of_read hread
      · exact ⟨hslot, rest.narrow_fill hslots hrest⟩

theorem Fields.tooWide?_of_readItems {record : String} {count : Nat} : ∀ (fields : Fields)
    {index : Nat} {items : List Json} {values : fields.Values},
      fields.readItems record count index items = .ok values → fields.tooWide? values = none
  | .nil, _, _, (), _ => rfl
  | .cons name optional schema rest, index, [], values, h => by
      rw [Fields.readItems] at h
      split at h
      · rename_i value hvalue
        obtain ⟨others, hothers, h⟩ := exists_of_bind_eq_ok h
        obtain rfl := Except.ok.inj h
        exact Fields.tooWide?_cons_eq_none_iff.mpr
          ⟨schema.tooWide?_of_leftOut? hvalue, rest.tooWide?_of_readItems hothers⟩
      · cases h
  | .cons name optional schema rest, index, j :: items, values, h => by
      obtain ⟨value, hvalue, h⟩ := exists_of_bind_eq_ok h
      obtain ⟨others, hothers, h⟩ := exists_of_bind_eq_ok h
      obtain rfl := Except.ok.inj h
      exact Fields.tooWide?_cons_eq_none_iff.mpr
        ⟨schema.tooWide?_of_read hvalue, rest.tooWide?_of_readItems hothers⟩

end

end ChainParams

import ChainParams.Proofs.Check
import ChainParams.Schema.Read

/-!
# Slots

Reading a member of an object fills the slot of the field with its key, or changes nothing
if no field has the key and the record is not strict.  A slot is filled once, so two
members that are read one behind the other have different fields, and could as well have
been read the other way round.  Members that are read can therefore be read in every order
(`foldlM_readMember_of_perm`).
-/

namespace ChainParams.Fields

open Json (Fault)

section

variable {name : String} {optional : Bool} {schema : Schema} {rest : Fields}

/-- The slots of a record: that of its first field, and those of the others. -/
def slotsOf (slot : Option schema.Value) (slots : rest.Slots) :
    (cons name optional schema rest).Slots := (slot, slots)

theorem filled?_slotsOf_self (slot : Option schema.Value) (slots : rest.Slots) :
    (cons name optional schema rest).filled? (slotsOf slot slots) name = some slot.isSome :=
  if_pos rfl

theorem filled?_slotsOf_of_ne {key : String} (hkey : key ≠ name) (slot : Option schema.Value)
    (slots : rest.Slots) :
    (cons name optional schema rest).filled? (slotsOf slot slots) key = rest.filled? slots key :=
  if_neg hkey

theorem fill_slotsOf_self (j : Json) (slot : Option schema.Value) (slots : rest.Slots) :
    (cons name optional schema rest).fill name j (slotsOf slot slots) =
      (schema.read j).map fun value => slotsOf (some value) slots := by
  refine (if_pos rfl).trans ?_
  cases schema.read j <;> rfl

theorem fill_slotsOf_of_ne {key : String} (hkey : key ≠ name) (j : Json)
    (slot : Option schema.Value) (slots : rest.Slots) :
    (cons name optional schema rest).fill key j (slotsOf slot slots) =
      (rest.fill key j slots).map (slotsOf slot) := by
  refine (if_neg hkey).trans ?_
  cases rest.fill key j slots <;> rfl

/-- The first field has the value in its slot or what it is when it is left out. -/
theorem finish_slotsOf (slot : Option schema.Value) (slots : rest.Slots) :
    (cons name optional schema rest).finish (slotsOf slot slots) =
      (slot.or (schema.leftOut? optional)).elim (.error (.data (.missing name))) fun value =>
        (rest.finish slots).map fun values => (value, values) := by
  rw [finish.eq_def]
  simp only [slotsOf]
  cases slot.or (schema.leftOut? optional) with
  | none => rfl
  | some value => cases rest.finish slots <;> rfl

/-- The values of a record are those of its slots, or of what the text leaves out. -/
theorem finish_slotsOf_eq_ok_iff {slot : Option schema.Value} {slots : rest.Slots}
    {values : (cons name optional schema rest).Values} :
    (cons name optional schema rest).finish (slotsOf slot slots) = .ok values ↔
      ∃ value others, slot.or (schema.leftOut? optional) = some value ∧
        rest.finish slots = .ok others ∧ values = (value, others) := by
  rw [finish_slotsOf]
  cases slot.or (schema.leftOut? optional) with
  | none => simp
  | some value =>
      cases hrest : rest.finish slots with
      | error fault => simp [Except.map]
      | ok others =>
          constructor
          · intro h
            exact ⟨value, others, rfl, rfl, (Except.ok.inj h).symm⟩
          · rintro ⟨_, _, hslot, hothers, rfl⟩
            obtain rfl := Option.some.inj hslot
            obtain rfl := Except.ok.inj hothers
            rfl

/-- A value goes into the slot of the first field if this has the key, and into one of the
others if not. -/
theorem fill_slotsOf_cases {key : String} {j : Json} {slot : Option schema.Value}
    {slots : rest.Slots} {out : (cons name optional schema rest).Slots}
    (h : (cons name optional schema rest).fill key j (slotsOf slot slots) = .ok out) :
    (key = name ∧ ∃ value, schema.read j = .ok value ∧ out = slotsOf (some value) slots) ∨
      (key ≠ name ∧ ∃ slots', rest.fill key j slots = .ok slots' ∧ out = slotsOf slot slots') := by
  by_cases hkey : key = name
  · subst hkey
    rw [fill_slotsOf_self, map_eq_ok_iff] at h
    obtain ⟨value, hread, rfl⟩ := h
    exact .inl ⟨rfl, value, hread, rfl⟩
  · rw [fill_slotsOf_of_ne hkey, map_eq_ok_iff] at h
    obtain ⟨slots', hrest, rfl⟩ := h
    exact .inr ⟨hkey, slots', hrest, rfl⟩

end

theorem filled?_isSome : ∀ (fields : Fields) (slots : fields.Slots) (key : String),
    (fields.filled? slots key).isSome ↔ key ∈ fields.names
  | .nil, (), key => by simp [filled?, names]
  | .cons name _ _ rest, (slot, slots), key => by
      by_cases hkey : key = name
      · simp [filled?, names, hkey]
      · simp [filled?, names, hkey, filled?_isSome rest slots key]

/-- The slot of a value that is read is filled afterwards, and no other slot changes. -/
theorem filled?_of_fill : ∀ (fields : Fields) {key : String} {j : Json}
    {slots out : fields.Slots}, fields.fill key j slots = .ok out → ∀ other,
      fields.filled? out other =
        if other = key then (fields.filled? slots key).map fun _ => true
        else fields.filled? slots other
  | .nil, _, _, (), (), _, _ => by simp [filled?]
  | .cons name optional schema rest, key, j, (slot, slots), out, h, other => by
      change (cons name optional schema rest).fill key j (slotsOf slot slots) = _ at h
      change _ = if _ then ((cons name optional schema rest).filled? (slotsOf slot slots) key).map _
        else (cons name optional schema rest).filled? (slotsOf slot slots) other
      obtain ⟨rfl, value, -, rfl⟩ | ⟨hkey, slots', hrest, rfl⟩ := fill_slotsOf_cases h
      · by_cases hother : other = key
        · subst hother
          simp [filled?_slotsOf_self]
        · simp [filled?_slotsOf_of_ne hother, hother]
      · have ih := filled?_of_fill rest hrest other
        by_cases hother : other = name
        · subst hother
          simp [filled?_slotsOf_self, Ne.symm hkey]
        · rw [filled?_slotsOf_of_ne hother, filled?_slotsOf_of_ne hkey,
            filled?_slotsOf_of_ne hother, ih]

/-- Values of different fields can be read in either order. -/
theorem fill_comm : ∀ (fields : Fields) {key key' : String} {j j' : Json}
    {slots mid out : fields.Slots}, key ≠ key' → fields.fill key j slots = .ok mid →
      fields.fill key' j' mid = .ok out →
        ∃ mid', fields.fill key' j' slots = .ok mid' ∧ fields.fill key j mid' = .ok out
  | .nil, _, _, _, _, (), (), (), _, _, _ => ⟨(), rfl, rfl⟩
  | .cons name optional schema rest, key, key', j, j', (slot, slots), mid, out, hne, h, h' => by
      change (cons name optional schema rest).fill key j (slotsOf slot slots) = _ at h
      change ∃ mid', (cons name optional schema rest).fill key' j' (slotsOf slot slots) = _ ∧ _
      obtain ⟨rfl, value, hread, rfl⟩ | ⟨hkey, slots₁, hrest, rfl⟩ := fill_slotsOf_cases h
      · obtain ⟨rfl, -⟩ | ⟨hkey', slots₂, hrest', rfl⟩ := fill_slotsOf_cases h'
        · exact absurd rfl hne
        · refine ⟨slotsOf slot slots₂, ?_, ?_⟩
          · rw [fill_slotsOf_of_ne hkey', hrest']
            rfl
          · rw [fill_slotsOf_self, hread]
            rfl
      · obtain ⟨rfl, value, hread, rfl⟩ | ⟨hkey', slots₂, hrest', rfl⟩ := fill_slotsOf_cases h'
        · refine ⟨slotsOf (some value) slots, ?_, ?_⟩
          · rw [fill_slotsOf_self, hread]
            rfl
          · rw [fill_slotsOf_of_ne hkey, hrest]
            rfl
        · obtain ⟨slots₃, hfirst, hsecond⟩ := fill_comm rest hne hrest hrest'
          refine ⟨slotsOf slot slots₃, ?_, ?_⟩
          · rw [fill_slotsOf_of_ne hkey', hfirst]
            rfl
          · rw [fill_slotsOf_of_ne hkey, hsecond]
            rfl

/-! ## Members -/

/-- What reading a member does when it succeeds. -/
inductive Takes (strict : Bool) (fields : Fields) (slots : fields.Slots) :
    Option String × Json → fields.Slots → Prop
  | filled {key : String} {j : Json} {out : fields.Slots}
    (hempty : fields.filled? slots key = some false) (hfill : fields.fill key j slots = .ok out) :
    Takes strict fields slots (some key, j) out
  | passed {key : String} {j : Json} (hstrict : strict = false) (hunknown : key ∉ fields.names) :
    Takes strict fields slots (some key, j) slots

variable {strict : Bool} {fields : Fields}

theorem filled?_eq_none_iff {slots : fields.Slots} {key : String} :
    fields.filled? slots key = none ↔ key ∉ fields.names := by
  rw [← filled?_isSome fields slots key, Option.not_isSome_iff_eq_none]

theorem readMember_eq_ok_iff {slots out : fields.Slots} {member : Option String × Json} :
    fields.readMember strict slots member = .ok out ↔ fields.Takes strict slots member out := by
  constructor
  · intro h
    obtain ⟨key, j⟩ := member
    cases key with
    | none => cases h
    | some key =>
        simp only [readMember, accept] at h
        cases hfilled : fields.filled? slots key with
        | none =>
            rw [hfilled] at h
            cases strict with
            | true => cases h
            | false =>
                cases h
                exact .passed rfl (filled?_eq_none_iff.mp hfilled)
        | some taken =>
            rw [hfilled] at h
            cases taken with
            | true => cases h
            | false => exact .filled hfilled h
  · intro h
    cases h with
    | filled hempty hfill =>
        simp only [readMember, accept, hempty]
        exact hfill
    | passed hstrict hunknown =>
        simp only [readMember, accept, filled?_eq_none_iff.mpr hunknown, hstrict]
        rfl

/-- Two members that are read one behind the other can be read the other way round. -/
theorem Takes.comm {slots mid out : fields.Slots} {member member' : Option String × Json}
    (h : fields.Takes strict slots member mid) (h' : fields.Takes strict mid member' out) :
    ∃ mid', fields.Takes strict slots member' mid' ∧ fields.Takes strict mid' member out := by
  cases h with
  | passed hstrict hunknown => exact ⟨out, h', .passed hstrict hunknown⟩
  | @filled key j _ hempty hfill =>
      cases h' with
      | passed hstrict hunknown => exact ⟨slots, .passed hstrict hunknown, .filled hempty hfill⟩
      | @filled key' j' _ hempty' hfill' =>
          -- The second member finds its slot empty behind the first one, so the fields differ.
          have hfilled := filled?_of_fill fields hfill
          have hne : key' ≠ key := by
            rintro rfl
            simp [hfilled, hempty] at hempty'
          rw [hfilled, if_neg hne] at hempty'
          obtain ⟨mid', hfirst, hsecond⟩ := fill_comm fields hne.symm hfill hfill'
          have hempty₂ : fields.filled? mid' key = some false := by
            rw [filled?_of_fill fields hfirst, if_neg hne.symm, hempty]
          exact ⟨mid', .filled hempty' hfirst, .filled hempty₂ hsecond⟩

/-- Members are read if the first one is, and the others behind it. -/
theorem foldlM_readMember_cons_iff {slots out : fields.Slots} {member : Option String × Json}
    {members : Json.Members} :
    (member :: members).foldlM (fields.readMember strict) slots = .ok out ↔
      ∃ mid, fields.Takes strict slots member mid ∧
        members.foldlM (fields.readMember strict) mid = .ok out := by
  simp only [← readMember_eq_ok_iff]
  rw [List.foldlM_cons]
  cases fields.readMember strict slots member with
  | error fault => simp [bind, Except.bind]
  | ok mid => simp [bind, Except.bind]

theorem foldlM_readMember_append_iff {front back : Json.Members} {slots out : fields.Slots} :
    (front ++ back).foldlM (fields.readMember strict) slots = .ok out ↔
      ∃ mid, front.foldlM (fields.readMember strict) slots = .ok mid ∧
        back.foldlM (fields.readMember strict) mid = .ok out := by
  rw [List.foldlM_append]
  constructor
  · exact exists_of_bind_eq_ok
  · rintro ⟨mid, hfront, hback⟩
    rw [hfront]
    exact hback

/-- Members that are read can be read in every order. -/
theorem foldlM_readMember_of_perm {members members' : Json.Members} (h : members.Perm members')
    {slots out : fields.Slots} (hread : members.foldlM (fields.readMember strict) slots = .ok out) :
    members'.foldlM (fields.readMember strict) slots = .ok out := by
  induction h generalizing slots with
  | nil => exact hread
  | cons member _ ih =>
      obtain ⟨mid, hmember, hmembers⟩ := foldlM_readMember_cons_iff.mp hread
      exact foldlM_readMember_cons_iff.mpr ⟨mid, hmember, ih hmembers⟩
  | swap member member' members =>
      obtain ⟨mid, hfirst, hrest⟩ := foldlM_readMember_cons_iff.mp hread
      obtain ⟨last, hsecond, hmembers⟩ := foldlM_readMember_cons_iff.mp hrest
      obtain ⟨mid', hfirst', hsecond'⟩ := hfirst.comm hsecond
      exact foldlM_readMember_cons_iff.mpr
        ⟨mid', hfirst', foldlM_readMember_cons_iff.mpr ⟨last, hsecond', hmembers⟩⟩
  | trans _ _ ih ih' => exact ih' (ih hread)

/-- Members that no field is named after change nothing in a record that is not strict. -/
theorem foldlM_readMember_unknown {added : Json.Members}
    (hadded : ∀ member ∈ added, strict = false ∧ ∃ key ∉ fields.names, member.1 = some key)
    (slots : fields.Slots) : added.foldlM (fields.readMember strict) slots = .ok slots := by
  induction added with
  | nil => rfl
  | cons member added ih =>
      obtain ⟨⟨hstrict, key, hunknown, hkey⟩, hrest⟩ := List.forall_mem_cons.mp hadded
      obtain ⟨_, j⟩ := member
      obtain rfl := hkey
      exact foldlM_readMember_cons_iff.mpr ⟨slots, .passed hstrict hunknown, ih hrest⟩

end ChainParams.Fields

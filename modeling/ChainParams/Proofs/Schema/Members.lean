import ChainParams.Proofs.Schema.Slots
import Mathlib.Data.List.Nodup
import Mathlib.Data.List.Perm.Basic

/-!
# The members of an object

An object is read if every field is named once, or left out where it may be, and nothing else
is named where the record is strict.  Here is what that means for a single member: it can be
read behind all others (`exists_foldlM_readMember`), so leaving it out leaves its slot empty
(`Schema.read_dropped`); its key is found again if it is repeated (`Schema.read_repeated`).
That a key stands in an object once is a matter of counting: a slot is filled as often as
members have its key, and never twice (`taken_add_count`).
-/

namespace ChainParams

open Json (Fault)

namespace Fields

variable {name : String} {optional strict : Bool} {schema : Schema} {rest fields : Fields}

/-! ## Counting keys -/

/-- How often the slot of a key is filled. -/
def taken (fields : Fields) (slots : fields.Slots) (key : String) : Nat :=
  if fields.filled? slots key = some true then 1 else 0

theorem filled?_noSlots : ∀ (fields : Fields) (key : String),
    fields.filled? fields.noSlots key ≠ some true
  | .nil, key => by
      intro h
      cases h
  | .cons name optional schema rest, key => by
      by_cases hkey : key = name
      · subst hkey
        change (cons key optional schema rest).filled? (slotsOf none rest.noSlots) key ≠ _
        simp [filled?_slotsOf_self]
      · change (cons name optional schema rest).filled? (slotsOf none rest.noSlots) key ≠ _
        rw [filled?_slotsOf_of_ne hkey]
        exact filled?_noSlots rest key

/-- A member fills the slot of its own key. -/
theorem Takes.taken_eq {slots out : fields.Slots} {member : Option String × Json} {key : String}
    (h : fields.Takes strict slots member out) (hkey : key ∈ fields.names) :
    fields.taken out key = fields.taken slots key + if member.1 = some key then 1 else 0 := by
  cases h with
  | @filled named j _ hempty hfill =>
      have hfilled := filled?_of_fill fields hfill key
      unfold taken
      by_cases hsame : key = named
      · subst hsame
        simp [hfilled, hempty]
      · simp [hfilled, hsame, Ne.symm hsame]
  | @passed named j hstrict hunknown =>
      have hne : named ≠ key := fun h => hunknown (h ▸ hkey)
      simp [hne]

/-- Every slot is filled as often as members have its key. -/
theorem taken_add_count {members : Json.Members} {slots out : fields.Slots} {key : String}
    (h : members.foldlM (fields.readMember strict) slots = .ok out) (hkey : key ∈ fields.names) :
    fields.taken out key = fields.taken slots key + (members.map Prod.fst).count (some key) := by
  induction members generalizing slots with
  | nil =>
      obtain rfl := Except.ok.inj h
      rfl
  | cons member members ih =>
      obtain ⟨mid, hmember, hmembers⟩ := foldlM_readMember_cons_iff.mp h
      rw [ih hmembers, hmember.taken_eq hkey, List.map_cons, List.count_cons, Nat.add_assoc,
        Nat.add_comm (List.count _ _)]
      simp

/-- In a strict record there are only keys of fields. -/
theorem mem_names_of_strict {members : Json.Members} {slots out : fields.Slots}
    (h : members.foldlM (fields.readMember true) slots = .ok out) :
    ∀ label ∈ members.map Prod.fst, label ∈ fields.names.map some := by
  induction members generalizing slots with
  | nil => exact List.forall_mem_nil _
  | cons member members ih =>
      obtain ⟨mid, htakes, hmembers⟩ := foldlM_readMember_cons_iff.mp h
      refine List.forall_mem_cons.mpr ⟨?_, ih hmembers⟩
      cases htakes with
      | @filled key j _ hempty _ =>
          have hkey : key ∈ fields.names := by
            rw [← filled?_isSome fields slots, hempty]
            rfl
          exact List.mem_map_of_mem hkey
      | passed hstrict _ => cases hstrict

/-! ## A member read last -/

/-- A member of a field is read if its slot is empty and its value is read into it. -/
theorem Takes.fill_eq {slots out : fields.Slots} {key : String} {j : Json}
    (h : fields.Takes strict slots (some key, j) out) (hkey : key ∈ fields.names) :
    fields.filled? slots key = some false ∧ fields.fill key j slots = .ok out := by
  cases h with
  | filled hempty hfill => exact ⟨hempty, hfill⟩
  | passed _ hunknown => exact absurd hkey hunknown

/-- The key of a field is accepted as long as its slot is empty. -/
theorem readMember_of_empty {slots : fields.Slots} {key : String}
    (hempty : fields.filled? slots key = some false) (j : Json) :
    fields.readMember strict slots (some key, j) = fields.fill key j slots := by
  simp only [readMember, accept, hempty]
  rfl

/-- A fault in the value of a field does not depend on what was read before. -/
theorem fill_eq_error : ∀ (fields : Fields) {key : String} {j : Json} {fault : Fault}
    {slots : fields.Slots}, fields.fill key j slots = .error fault →
      ∀ slots' : fields.Slots, fields.fill key j slots' = .error fault
  | .nil, _, _, _, _, h, _ => by cases h
  | .cons name optional schema rest, key, j, fault, (slot, slots), h, (slot', slots') => by
      change (cons name optional schema rest).fill key j (slotsOf slot slots) = _ at h
      change (cons name optional schema rest).fill key j (slotsOf slot' slots') = _
      by_cases hkey : key = name
      · subst hkey
        rw [fill_slotsOf_self, map_eq_error_iff] at h ⊢
        exact h
      · rw [fill_slotsOf_of_ne hkey, map_eq_error_iff] at h ⊢
        exact fill_eq_error rest h slots'

theorem foldlM_readMember_eq_error {front back : Json.Members} {member : Option String × Json}
    {slots mid : fields.Slots} {fault : Fault}
    (hfront : front.foldlM (fields.readMember strict) slots = .ok mid)
    (hmember : fields.readMember strict mid member = .error fault) :
    (front ++ member :: back).foldlM (fields.readMember strict) slots = .error fault := by
  rw [List.foldlM_append, hfront]
  change List.foldlM (fields.readMember strict) mid (member :: back) = _
  rw [List.foldlM_cons, hmember]
  rfl

/-- A member of a field can be read behind all others, and so can any other one in its
place. -/
theorem exists_foldlM_readMember {front back : Json.Members} {key : String} {old : Json}
    {slots out : fields.Slots} (hkey : key ∈ fields.names)
    (h : (front ++ (some key, old) :: back).foldlM (fields.readMember strict) slots = .ok out) :
    ∃ mid, (front ++ back).foldlM (fields.readMember strict) slots = .ok mid ∧
      fields.filled? mid key = some false ∧ fields.fill key old mid = .ok out ∧
      ∀ new, (front ++ (some key, new) :: back).foldlM (fields.readMember strict) slots =
        fields.fill key new mid := by
  have hlast (j : Json) :
      (front ++ (some key, j) :: back).Perm ((front ++ back) ++ [(some key, j)]) :=
    List.perm_middle.trans (List.perm_append_singleton _ _).symm
  obtain ⟨mid, hothers, hmember⟩ :=
    foldlM_readMember_append_iff.mp (foldlM_readMember_of_perm (hlast old) h)
  obtain ⟨_, htakes, hout⟩ := foldlM_readMember_cons_iff.mp hmember
  obtain rfl := Except.ok.inj hout
  obtain ⟨hempty, hfill⟩ := htakes.fill_eq hkey
  refine ⟨mid, hothers, hempty, hfill, ?_⟩
  intro new
  cases hnew : fields.fill key new mid with
  | ok out' =>
      have hread : ((front ++ back) ++ [(some key, new)]).foldlM (fields.readMember strict) slots =
          .ok out' :=
        foldlM_readMember_append_iff.mpr ⟨mid, hothers,
          foldlM_readMember_cons_iff.mpr ⟨out', .filled hempty hnew, rfl⟩⟩
      exact foldlM_readMember_of_perm (hlast new).symm hread
  | error fault =>
      -- The members before the new one are read as before, and its fault is found at once.
      obtain ⟨first, hfront, hback⟩ := foldlM_readMember_append_iff.mp h
      obtain ⟨_, htakes', -⟩ := foldlM_readMember_cons_iff.mp hback
      have hempty' := (htakes'.fill_eq hkey).1
      refine foldlM_readMember_eq_error hfront ?_
      rw [readMember_of_empty hempty', fill_eq_error fields hnew first]

end Fields

/-! ## Members that are left out -/

mutual

/-- The names of the fields that may be left out, at every level. -/
def Schema.optionalNames : Schema → List String
  | .leaf _ => []
  | .list item => item.optionalNames
  | .record _ _ fields => fields.optionalNames

/-- The names of the fields that may be left out, and of those in the records among them. -/
def Fields.optionalNames : Fields → List String
  | .nil => []
  | .cons name optional schema rest =>
    (if optional then [name] else []) ++ (schema.optionalNames ++ rest.optionalNames)

end

namespace Fields

variable {name : String} {optional strict : Bool} {schema : Schema} {rest fields : Fields}

/-- The values of a record that leaves out the field with the given name. -/
def without : (fields : Fields) → String → fields.Values → Except Fault fields.Values
  | .nil, _, () => .ok ()
  | .cons name optional schema rest, key, (value, values) =>
    if key = name then
      match schema.leftOut? optional with
      | some blank => .ok (blank, values)
      | none => .error (.data (.missing name))
    else (rest.without key values).map fun values => (value, values)

theorem not_mem_optionalNames_cons {key : String}
    (h : key ∉ (cons name optional schema rest).optionalNames) :
    (key = name → optional = false) ∧ key ∉ rest.optionalNames := by
  rw [optionalNames, List.mem_append, List.mem_append, not_or, not_or] at h
  obtain ⟨hname, -, hrest⟩ := h
  refine ⟨?_, hrest⟩
  rintro rfl
  cases optional with
  | false => rfl
  | true => exact absurd (List.mem_singleton_self key) hname

/-- A field that is not optional is missing when it is left out. -/
theorem without_of_required : ∀ (fields : Fields) {key : String} {values : fields.Values},
    key ∈ fields.names → key ∉ fields.optionalNames →
      fields.without key values = .error (.data (.missing key))
  | .nil, _, _, hkey, _ => by cases hkey
  | .cons name optional schema rest, key, (value, values), hkey, hrequired => by
      obtain ⟨hname, hrest⟩ := not_mem_optionalNames_cons hrequired
      by_cases hsame : key = name
      · obtain rfl := hname hsame
        rw [without, if_pos hsame, hsame]
        rfl
      · have hkey' := List.mem_of_ne_of_mem hsame hkey
        rw [without, if_neg hsame, without_of_required rest hkey' hrest]
        rfl

/-- The slot of a field that is not optional is filled when the values are handed out. -/
theorem filled?_of_finish : ∀ (fields : Fields) {key : String} {slots : fields.Slots}
    {values : fields.Values}, key ∈ fields.names → key ∉ fields.optionalNames →
      fields.finish slots = .ok values → fields.filled? slots key = some true
  | .nil, _, _, _, hkey, _, _ => by cases hkey
  | .cons name optional schema rest, key, (slot, slots), values, hkey, hrequired, h => by
      obtain ⟨hname, hrest⟩ := not_mem_optionalNames_cons hrequired
      obtain ⟨value, others, hslot, hothers, -⟩ := finish_slotsOf_eq_ok_iff.mp h
      change (cons name optional schema rest).filled? (slotsOf slot slots) key = _
      by_cases hsame : key = name
      · obtain rfl := hname hsame
        have hnone : schema.leftOut? false = none := rfl
        rw [hnone, Option.or_none] at hslot
        rw [hsame, filled?_slotsOf_self, hslot]
        rfl
      · have hkey' := List.mem_of_ne_of_mem hsame hkey
        rw [filled?_slotsOf_of_ne hsame]
        exact filled?_of_finish rest hkey' hrest hothers

/-- Without the member that was read last, its field is left out. -/
theorem finish_of_fill : ∀ (fields : Fields) {key : String} {j : Json}
    {mid out : fields.Slots} {values : fields.Values}, fields.filled? mid key = some false →
      fields.fill key j mid = .ok out → fields.finish out = .ok values →
        fields.finish mid = fields.without key values
  | .nil, _, _, _, _, _, hempty, _, _ => by cases hempty
  | .cons name optional schema rest, key, j, (slot, slots), out, values, hempty, hfill, h => by
      change (cons name optional schema rest).filled? (slotsOf slot slots) key = _ at hempty
      change (cons name optional schema rest).fill key j (slotsOf slot slots) = _ at hfill
      change (cons name optional schema rest).finish (slotsOf slot slots) = _
      obtain ⟨rfl, value, -, rfl⟩ | ⟨hkey, slots', hrest, rfl⟩ := fill_slotsOf_cases hfill
      · obtain ⟨value', others, -, hothers, rfl⟩ := finish_slotsOf_eq_ok_iff.mp h
        rw [filled?_slotsOf_self, Option.some_inj, Option.isSome_eq_false_iff,
          Option.isNone_iff_eq_none] at hempty
        rw [without, if_pos rfl, hempty, finish_slotsOf, Option.none_or, hothers]
        cases schema.leftOut? optional <;> rfl
      · obtain ⟨value, others, hslot, hothers, rfl⟩ := finish_slotsOf_eq_ok_iff.mp h
        rw [filled?_slotsOf_of_ne hkey] at hempty
        have hwithout := finish_of_fill rest hempty hrest hothers
        rw [without, if_neg hkey, finish_slotsOf, hslot, hwithout]
        cases rest.without key others <;> rfl

end Fields

/-! ## Objects -/

namespace Schema

variable {name : String} {strict : Bool} {fields : Fields} {values : fields.Values}
  {key : String}

/-- An object without the member of a field is read as if this field were left out. -/
theorem read_dropped {front back : Json.Members} {j : Json} (hkey : key ∈ fields.names)
    (h : (record name strict fields).read (.obj (front ++ (some key, j) :: back)) = .ok values) :
    (record name strict fields).read (.obj (front ++ back)) = fields.without key values := by
  obtain ⟨out, hmembers, hfinish⟩ := exists_of_bind_eq_ok h
  obtain ⟨mid, hothers, hempty, hfill, -⟩ := Fields.exists_foldlM_readMember hkey hmembers
  rw [read_object, hothers]
  exact Fields.finish_of_fill fields hempty hfill hfinish

/-- The key of a field that stands in an object already is refused. -/
theorem read_repeated {front back : Json.Members} {again : Json} (hkey : key ∈ fields.names)
    (hfront : some key ∈ front.map Prod.fst)
    (h : (record name strict fields).read (.obj (front ++ back)) = .ok values) :
    (record name strict fields).read (.obj (front ++ (some key, again) :: back)) =
      .error (.data (.duplicate key)) := by
  obtain ⟨out, hmembers, -⟩ := exists_of_bind_eq_ok h
  obtain ⟨mid, hmid, -⟩ := Fields.foldlM_readMember_append_iff.mp hmembers
  have hcount := Fields.taken_add_count hmid hkey
  have hpos : 0 < (front.map Prod.fst).count (some key) := List.count_pos_iff.mpr hfront
  have htaken : fields.filled? mid key = some true := by
    by_contra hfree
    rw [Fields.taken, if_neg hfree] at hcount
    omega
  have hmember : fields.readMember strict mid (some key, again) =
      .error (.data (.duplicate key)) := by
    simp only [Fields.readMember, Fields.accept, htaken]
    rfl
  rw [read_object, Fields.foldlM_readMember_eq_error hmid hmember]
  rfl

/-- A key that no field has is refused by a strict record. -/
theorem read_added {front back : Json.Members} {added : Json} (hkey : key ∉ fields.names)
    (h : (record name true fields).read (.obj (front ++ back)) = .ok values) :
    (record name true fields).read (.obj (front ++ (some key, added) :: back)) =
      .error (.data (.unknownField key fields.names)) := by
  obtain ⟨out, hmembers, -⟩ := exists_of_bind_eq_ok h
  obtain ⟨mid, hmid, -⟩ := Fields.foldlM_readMember_append_iff.mp hmembers
  have hmember : fields.readMember true mid (some key, added) =
      .error (.data (.unknownField key fields.names)) := by
    simp only [Fields.readMember, Fields.accept, Fields.filled?_eq_none_iff.mpr hkey]
    rfl
  rw [read_object, Fields.foldlM_readMember_eq_error hmid hmember]
  rfl

/-- A field that is not optional is named exactly once. -/
theorem count_key_of_read {members : Json.Members} (hkey : key ∈ fields.names)
    (hrequired : key ∉ fields.optionalNames)
    (h : (record name strict fields).read (.obj members) = .ok values) :
    (members.map Prod.fst).count (some key) = 1 := by
  obtain ⟨out, hmembers, hfinish⟩ := exists_of_bind_eq_ok h
  have hcount := Fields.taken_add_count hmembers hkey
  have hfilled := Fields.filled?_of_finish fields hkey hrequired hfinish
  rw [Fields.taken, Fields.taken, if_pos hfilled,
    if_neg (Fields.filled?_noSlots fields key)] at hcount
  omega

/-- The keys of a strict record without optional fields are the names of its fields in some
order. -/
theorem perm_names_of_read {members : Json.Members} (hdistinct : fields.names.Nodup)
    (hrequired : ∀ key ∈ fields.names, key ∉ fields.optionalNames)
    (h : (record name true fields).read (.obj members) = .ok values) :
    (members.map Prod.fst).Perm (fields.names.map some) := by
  obtain ⟨out, hmembers, -⟩ := exists_of_bind_eq_ok h
  rw [List.perm_iff_count]
  intro label
  by_cases hlabel : label ∈ fields.names.map some
  · have hnodup : (fields.names.map some).Nodup := hdistinct.map fun _ _ => Option.some.inj
    obtain ⟨key, hkey, rfl⟩ := List.mem_map.mp hlabel
    rw [count_key_of_read hkey (hrequired key hkey) h, List.count_eq_one_of_mem hnodup hlabel]
  · have habsent : label ∉ members.map Prod.fst := fun hmem =>
      hlabel (Fields.mem_names_of_strict hmembers label hmem)
    rw [List.count_eq_zero_of_not_mem habsent, List.count_eq_zero_of_not_mem hlabel]

end Schema

end ChainParams

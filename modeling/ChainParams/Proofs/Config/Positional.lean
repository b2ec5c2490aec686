import ChainParams.Proofs.Config.Exchange
import ChainParams.Proofs.Config.PowLimit
import ChainParams.Proofs.Schema.Positional

/-!
# Configuration files without names

Every record of a parameter set, from the set itself to a slot of its deployment table, may be
written as the array of its fields, whatever is chosen for the others.  An array with too many
items is refused.  One with too few is refused as well, with the number of fields that were
there, since all fields that may be left out stand in front of others that may not; only the
filtering of a seed stands last (`ParameterSet.seed_or_due_of_mem_records`).
-/

namespace ChainParams

open Json (Fault Spells)

/-! ## Forms -/

namespace Form

variable {α : Type} {form : Form α}

/-- Writes a value of the type, with some of its records as arrays. -/
def writeAs (form : Form α) (shape : Shape) (a : α) : Json :=
  form.schema.writeAs shape (form.toValue a)

/-- A value is read back with any of its records written as arrays, unless a target in it is
too wide. -/
theorem Lawful.read_writeAs (hform : form.Lawful) (hdistinct : form.schema.Distinct)
    (shape : Shape) (a : α) :
    form.read (form.writeAs shape a) = reread (form.schema.tooWide? (form.toValue a)) a := by
  rw [read, writeAs, form.schema.read_writeAs hdistinct]
  cases form.schema.tooWide? (form.toValue a) with
  | some bits => rfl
  | none => exact congrArg Except.ok (hform a)

end Form

/-! ## Seeds -/

/-- Without its last field a seed is read as one that is not filtering. -/
theorem Seed.read_take_one {items : List Json} {part : Seed.form.schema.Value}
    (h : Seed.form.schema.read (.arr items) = .ok part) (hitems : 1 < items.length) :
    Seed.form.schema.read (.arr (items.take 1)) =
      .ok (Seed.form.toValue (Seed.form.ofValue part).unfiltered) := by
  obtain ⟨host, rest, rfl⟩ := List.exists_cons_of_length_pos (Nat.zero_lt_of_lt hitems)
  obtain ⟨value, hhost, h⟩ := exists_of_bind_eq_ok h
  obtain ⟨others, -, h⟩ := exists_of_bind_eq_ok h
  obtain rfl := Except.ok.inj h
  change ((Schema.leaf .text).read host >>= fun value => _) = _
  rw [hhost]
  rfl

namespace ParameterSet

/-! ## Records of a parameter set -/

/-- Only in a seed the last field may be left out. -/
theorem seed_or_due_of_mem_records {record : String × Bool × Fields}
    (h : record ∈ schema.records) :
    Schema.record record.1 record.2.1 record.2.2 = Seed.form.schema ∨
      record.1 ≠ "DnsSeed" ∧
        ∀ start < record.2.2.length, (record.2.2.dueFrom? start).isSome = true := by
  change record ∈ ([_, _, _, _, _, _, _, _, _, _] : List _) at h
  simp only [List.mem_cons, List.not_mem_nil, or_false] at h
  rcases h with rfl | rfl | rfl | rfl | rfl | rfl | rfl | rfl | rfl | rfl
  case inr.inl => exact .inl rfl
  all_goals exact .inr ⟨by decide, by decide⟩

section

variable {path : List Json.Step} {name : String} {strict : Bool} {fields : Fields}
  (hat : schema.at? path = some (.record name strict fields))
include hat

theorem eq_seed_of_at? (hname : name = "DnsSeed") :
    Schema.record name strict fields = Seed.form.schema := by
  rcases seed_or_due_of_mem_records (Schema.mem_records_of_at? hat) with hseed | ⟨hne, -⟩
  · exact hseed
  · exact absurd hname hne

theorem exists_dueFrom? {start : Nat} (hstart : start < fields.length)
    (hseed : ¬ (name = "DnsSeed" ∧ start = 1)) : ∃ due, fields.dueFrom? start = some due := by
  rcases seed_or_due_of_mem_records (Schema.mem_records_of_at? hat) with heq | ⟨-, hdue⟩
  · obtain ⟨rfl, rfl, rfl⟩ := Schema.record.inj heq
    obtain rfl : start = 0 := by
      have hlength : start < 2 := hstart
      have hne : start ≠ 1 := fun h => hseed ⟨rfl, h⟩
      omega
    exact ⟨0, rfl⟩
  · exact Option.isSome_iff_exists.mp (hdue start hstart)

end

theorem message_tooShort (length : Nat) (record : String) (count : Nat) :
    (Fault.data (.tooShort length record count)).message =
      "invalid length " ++ (toString length ++ (", expected struct " ++ (record ++ (" with " ++
        Json.countElements count)))) := by
  change "invalid length " ++ toString length ++ ", expected struct " ++ record ++ " with " ++
    Json.countElements count = _
  simp only [String.append_assoc]

/-! ## Arrays of another length -/

section

variable {p : ParameterSet} {path : List Json.Step} {name : String} {strict : Bool}
  {fields : Fields} {items : List Json} {j j' : Json}
  (hat : schema.at? path = some (.record name strict fields))
include hat

theorem readsAs_of_long (hplace : Json.Replaces (.arr items) (.arr items) path j j)
    (hlong : fields.length < items.length) : ∃ fault, form.ReadsAs j (.error fault) := by
  cases hread : schema.read j with
  | ok value => exact absurd hread (Schema.read_ne_ok_of_long hat hplace hlong)
  | error fault => exact ⟨fault, Form.readsAs_of_error hread⟩

variable {start : Nat} (hcut : Json.Replaces (.arr items) (.arr (items.take start)) path j j')
  (hstart : start < items.length) (hread : form.read j = .ok p)
include hcut hstart hread

/-- An array that is cut short is refused, unless the filtering of a seed is all that it
lacks. -/
theorem readsAs_of_cut (hseed : ¬ (name = "DnsSeed" ∧ start = 1)) :
    ∃ due, start ≤ due ∧ due < fields.length ∧
      form.ReadsAs j' (.error (.data (.tooShort due name fields.length))) := by
  obtain ⟨value, hvalue, rfl⟩ := map_eq_ok_iff.mp hread
  obtain ⟨part, hold, -⟩ := (schema.read_replaced hat hcut hvalue).eq_modified
  have hlength : start < fields.length :=
    Nat.lt_of_lt_of_le hstart (Fields.length_le_of_readItems hold)
  obtain ⟨due, hdue⟩ := exists_dueFrom? hat hlength hseed
  obtain ⟨hlow, hhigh⟩ := Fields.dueFrom?_bounds hdue
  refine ⟨due, hlow, hhigh, Form.readsAs_of_error ?_⟩
  exact Schema.read_cut hat hcut (Nat.le_of_lt hstart) hdue hvalue

/-- A seed that lacks its filtering is read as one that is not filtering. -/
theorem readsAs_of_cut_seed (hseed : name = "DnsSeed" ∧ start = 1) :
    ∃ s p', form.ReadsAs j' (.ok p') ∧
      Json.Replaces (Seed.form.write s) (Seed.form.write s.unfiltered) (schema.named path)
        (form.write p) (form.write p') := by
  obtain ⟨hname, rfl⟩ := hseed
  rw [eq_seed_of_at? hat hname] at hat
  obtain ⟨value, hvalue, rfl⟩ := map_eq_ok_iff.mp hread
  obtain ⟨part, hold, -⟩ := (schema.read_replaced hat hcut hvalue).eq_modified
  obtain ⟨part₀, p', hold₀, hread', hexchanged⟩ :=
    faithful_form.read_exchanged hat hcut hread (Seed.read_take_one hold hstart)
  obtain rfl : part = part₀ := Except.ok.inj (hold.symm.trans hold₀)
  exact ⟨Seed.form.ofValue part, p', hread' ▸ form.readsAs_read j', hexchanged⟩

end

/-! ## Positions and names -/

/-- A parameter set is read from every text that spells it with some of its records as objects
and the others as arrays.  With an item too many in one of the arrays, the text is refused; with
some too few as well, unless the filtering of a seed is all that the array lacks. -/
theorem readText_positional :
    (∀ (p : ParameterSet) (shape : Shape), p.powLimit < 2 ^ 256 →
      form.ReadsAs (form.writeAs shape p) (.ok p)) ∧
    (∀ path name strict fields items j, schema.at? path = some (.record name strict fields) →
      Json.Replaces (.arr items) (.arr items) path j j → fields.length < items.length →
        ∃ fault, form.ReadsAs j (.error fault)) ∧
    (∀ path name strict fields items start text p j j',
      schema.at? path = some (.record name strict fields) →
        form.readText text = .ok p → Spells text j →
          Json.Replaces (.arr items) (.arr (items.take start)) path j j' →
            start < items.length →
        (¬ (name = "DnsSeed" ∧ start = 1) → ∃ due, start ≤ due ∧ due < fields.length ∧
          form.ReadsAs j' (.error (.data (.tooShort due name fields.length)))) ∧
        (name = "DnsSeed" ∧ start = 1 → ∃ s p', form.ReadsAs j' (.ok p') ∧
          Json.Replaces (Seed.form.write s) (Seed.form.write s.unfiltered) (schema.named path)
            (form.write p) (form.write p'))) ∧
    ∀ length record count, ∃ more,
      (Fault.data (.tooShort length record count)).message = "invalid length " ++ more := by
  refine ⟨?_, ?_, ?_, ?_⟩
  · intro p shape hwidth
    have hread := lawful_form.read_writeAs distinct_schema shape p
    rw [tooWide?_toValue, Kind.tooWide?_target_eq_none_iff.mpr hwidth] at hread
    have h : form.read (form.writeAs shape p) = .ok p := hread
    exact h ▸ form.readsAs_read _
  · intro path name strict fields items j hat hplace hlong
    exact readsAs_of_long hat hplace hlong
  · intro path name strict fields items start text p j j' hat htext hj hcut hstart
    obtain ⟨j₀, hj₀, hread⟩ := Form.readText_eq_ok_iff.mp htext
    obtain rfl : j₀ = j := hj₀.unique hj
    exact ⟨readsAs_of_cut hat hcut hstart hread, readsAs_of_cut_seed hat hcut hstart hread⟩
  · intro length record count
    exact ⟨_, message_tooShort length record count⟩

/-- The items of an array. -/
def itemsOf : Json → List Json
  | .arr items => items
  | _ => []

/-- A description of the main network without any names. -/
def positional : Json := form.writeAs (fun _ => true) mainnet

/-- The seeds in this description. -/
def positionalSeeds : List Json := itemsOf ((itemsOf positional).getD 3 .null)

/-- The fields of the first seed in this description. -/
def positionalSeed : List Json := itemsOf (positionalSeeds.headD .null)

/-- The description with a further item behind the last one. -/
def overlong : Json := .arr (itemsOf positional ++ [.null])

/-- The description, broken off in front of the seeds. -/
def headless : Json := .arr ((itemsOf positional).take 3)

/-- The description with a first seed that does not say whether it is filtering. -/
def terse : Json :=
  .arr ((itemsOf positional).take 3 ++
    .arr (.arr (positionalSeed.take 1) :: positionalSeeds.tail) :: (itemsOf positional).drop 4)

theorem mainnet_positional :
    form.readText positional.compact = .ok mainnet ∧
    (∃ fault, form.readText overlong.compact = .error fault) ∧
    (∃ due, form.readText headless.compact =
      .error (.data (.tooShort due "ParameterSet" 32))) ∧
    ∃ p, form.readText terse.compact = .ok p := by
  have hspells (j : Json) : Spells j.compact j := Json.spells_write Json.Style.blank_compact j
  have hread := readText_positional.1 mainnet (fun _ => true) (by decide +kernel) _
    (hspells positional)
  have hseed : Json.Replaces (.arr positionalSeed) (.arr (positionalSeed.take 1))
      [.item 3, .item 0] positional terse :=
    .item ((itemsOf positional).take 3) ((itemsOf positional).drop 4)
      (.item [] positionalSeeds.tail .here)
  refine ⟨hread, ?_, ?_, ?_⟩
  · obtain ⟨fault, h⟩ := readText_positional.2.1 [] _ _ _ _ overlong rfl .here (by decide)
    exact ⟨fault, h _ (hspells overlong)⟩
  · obtain ⟨due, -, -, h⟩ := (readText_positional.2.2.1 [] _ _ _ (itemsOf positional) 3 _ _ _
      headless rfl hread (hspells positional) .here (by decide)).1 (by decide)
    exact ⟨due, h _ (hspells headless)⟩
  · obtain ⟨s, p, h, -⟩ := (readText_positional.2.2.1 _ _ _ _ positionalSeed 1 _ _ _ _ rfl hread
      (hspells positional) hseed (by decide)).2 ⟨rfl, rfl⟩
    exact ⟨p, h _ (hspells terse)⟩

end ParameterSet

end ChainParams

import ChainParams.Config
import ChainParams.Proofs.ParameterSet.Validate
import ChainParams.Proofs.Schema.RoundTrip

/-!
# Configuration files are read as they were written

The text that describes a parameter set is read back as this very set, in both
styles and as the bytes of a file, whatever stands in its fields.  Two things
come in between: no text may give a target of more than 256 bits, so a set with
a wider highest target has a text that is refused, and what a text describes is
validated before it is handed out.
-/

namespace ChainParams

/-! ## Forms -/

namespace Form

variable {α : Type} {form : Form α}

/-- A form loses nothing when a value is put into its schema. -/
def Lawful (form : Form α) : Prop := ∀ a, form.ofValue (form.toValue a) = a

theorem Lawful.list (h : form.Lawful) : form.list.Lawful := by
  intro as
  change (as.map form.toValue).map form.ofValue = as
  rw [List.map_map]
  exact (List.map_congr_left fun a _ => h a).trans (List.map_id as)

/-- A list of values without targets has no target that is too wide. -/
theorem tooWide?_list (h : ∀ a, form.schema.tooWide? (form.toValue a) = none) (as : List α) :
    form.list.schema.tooWide? (form.list.toValue as) = none := by
  change (as.map form.toValue).findSome? (fun value => form.schema.tooWide? value) = none
  rw [List.findSome?_map]
  exact List.findSome?_eq_none_iff.mpr fun a _ => h a

/-- A value is read back from its text in every style, unless a target in it is
too wide. -/
theorem Lawful.readText_write (hform : form.Lawful) (hdistinct : form.schema.Distinct)
    {style : Json.Style} (hstyle : style.Blank) (a : α) :
    form.readText ((form.write a).write style) =
      reread (form.schema.tooWide? (form.toValue a)) a := by
  have hread := Schema.readText_write hstyle hdistinct (form.toValue a)
  rw [readText, write, hread]
  cases form.schema.tooWide? (form.toValue a) with
  | some bits => rfl
  | none => exact congrArg Except.ok (hform a)

end Form

theorem Seed.lawful_form : Seed.form.Lawful := fun _ => rfl

theorem Checkpoint.lawful_form : Checkpoint.form.Lawful := fun _ => rfl

namespace ParameterSet

theorem lawful_form : form.Lawful := by
  intro p
  have hseeds := Seed.lawful_form.list p.seeds
  have hcheckpoints := Checkpoint.lawful_form.list p.checkpoints
  change { p with
    seeds := Seed.form.list.ofValue (Seed.form.list.toValue p.seeds)
    checkpoints := Checkpoint.form.list.ofValue (Checkpoint.form.list.toValue p.checkpoints) } = p
  rw [hseeds, hcheckpoints]

/-! ## The schema of a parameter set -/

theorem distinct_schema : schema.Distinct := by
  simp [schema, Magic.form, Seed.form, Checkpoint.form, Deployment.form, DeploymentTable.form,
    Header.form, Coinbase.form, Genesis.form, Form.list, Schema.Distinct, Fields.Distinct,
    Fields.names]

/-- The highest target is the only value of a parameter set that can be too wide
for a text. -/
theorem tooWide?_toValue (p : ParameterSet) :
    form.schema.tooWide? (form.toValue p) = Kind.tooWide? .target p.powLimit := by
  have hseeds : Seed.form.list.schema.tooWide? (Seed.form.list.toValue p.seeds) = none :=
    Form.tooWide?_list (fun _ => rfl) p.seeds
  have hcheckpoints :
      Checkpoint.form.list.schema.tooWide? (Checkpoint.form.list.toValue p.checkpoints) = none :=
    Form.tooWide?_list (fun _ => rfl) p.checkpoints
  -- All other fields have no target in them, so only the two lists and the highest target are left.
  change (Seed.form.list.schema.tooWide? (Seed.form.list.toValue p.seeds)).or
    ((Kind.tooWide? .target p.powLimit).or
      ((Checkpoint.form.list.schema.tooWide? (Checkpoint.form.list.toValue p.checkpoints)).or
        none)) = _
  rw [hseeds, hcheckpoints, Option.none_or, Option.or_none, Option.or_none]

end ParameterSet

/-! ## Files -/

theorem fromUTF8?_toUTF8 (text : String) : String.fromUTF8? text.toUTF8 = some text := by
  rw [String.toUTF8_eq_toByteArray]
  unfold String.fromUTF8?
  rw [dif_pos text.isValidUTF8]
  rfl

namespace Config

/-- What reading the description of a parameter set gives: a highest target that
is too wide stops the reading of the text, and only then is the set validated. -/
def reparsed (p : ParameterSet) : Except ConfigError ParameterSet :=
  if maxTargetBits < bitLength p.powLimit then
    .error (.malformed (.data (.badTarget (.tooWide (bitLength p.powLimit)))))
  else
    match p.validate with
    | .error flaw => .error (.inconsistent flaw)
    | .ok () => .ok p

theorem parse_write {style : Json.Style} (hstyle : style.Blank) (p : ParameterSet) :
    parse ((ParameterSet.form.write p).write style) = reparsed p := by
  have hread := ParameterSet.lawful_form.readText_write ParameterSet.distinct_schema hstyle p
  rw [ParameterSet.tooWide?_toValue, Kind.tooWide?] at hread
  by_cases hwide : maxTargetBits < bitLength p.powLimit
  · rw [if_pos hwide] at hread
    rw [parse, hread, reparsed, if_pos hwide]
    rfl
  · rw [if_neg hwide] at hread
    rw [parse, hread, reparsed, if_neg hwide]
    cases hvalid : p.validate <;> simp only [reread, hvalid]

theorem load_toUTF8 (text : String) : load (.ok text.toUTF8) = parse text := by
  simp only [load, fromUTF8?_toUTF8]

theorem reparsed_of_valid {p : ParameterSet} (h : p.validate = .ok ()) : reparsed p = .ok p := by
  obtain ⟨-, -, -, hlimit, -⟩ := ParameterSet.validate_eq_ok_iff.mp h
  rw [ParameterSet.checkPowLimit, ite_error_eq_ok_iff] at hlimit
  rw [reparsed, if_neg hlimit.1, h]

/-- A sound set is read back from the text that describes it. -/
theorem parse_render_of_valid {p : ParameterSet} (h : p.validate = .ok ()) :
    parse (render p) = .ok p :=
  (parse_write Json.Style.blank_indented p).trans (reparsed_of_valid h)

/-- Every parameter set is read back from the text that describes it, indented
or not, and from the bytes of that text. -/
theorem parse_render (p : ParameterSet) :
    parse (render p) = reparsed p ∧
    parse (ParameterSet.form.write p).compact = reparsed p ∧
    load (.ok (render p).toUTF8) = reparsed p ∧
    load (.ok (ParameterSet.form.write p).compact.toUTF8) = reparsed p ∧
    (Json.Fault.data (.badTarget (.tooWide (bitLength p.powLimit)))).message =
      "target is " ++ toString (bitLength p.powLimit) ++ " bits wide, above 256" := by
  have hindented : parse (render p) = reparsed p := parse_write Json.Style.blank_indented p
  have hcompact : parse (ParameterSet.form.write p).compact = reparsed p :=
    parse_write Json.Style.blank_compact p
  refine ⟨hindented, hcompact, ?_, ?_, ?_⟩
  · rw [load_toUTF8, hindented]
  · rw [load_toUTF8, hcompact]
  · exact String.append_assoc

end Config

end ChainParams

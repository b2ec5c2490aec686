import ChainParams.Proofs.Config.Members
import ChainParams.Proofs.Schema.Exchange

/-!
# A part of a configuration file is exchanged

A parameter set is put together from what its schema reads, and can be taken apart again into
the same values.  So what exchanging a part of a value makes of the value is what it makes of
the parameter set: written down, the set of before with this part exchanged.
-/

namespace ChainParams

/-! ## Forms -/

namespace Form

variable {α : Type} {form : Form α}

/-- A form gives back the values of its schema from what it makes of them. -/
def Faithful (form : Form α) : Prop := ∀ value, form.toValue (form.ofValue value) = value

theorem Faithful.list (h : form.Faithful) : form.list.Faithful := by
  intro (values : List form.schema.Value)
  change (values.map form.ofValue).map form.toValue = values
  rw [List.map_map]
  exact (List.map_congr_left fun value _ => h value).trans (List.map_id values)

theorem Faithful.write_ofValue (h : form.Faithful) (value : form.schema.Value) :
    form.write (form.ofValue value) = form.schema.write value := by
  rw [write, h]

/-- With another part that is read, what the whole is read as has this part exchanged. -/
theorem Faithful.read_exchanged (h : form.Faithful) {inner : Schema} {old new : Json}
    {path : List Json.Step} {j j' : Json} {a : α} {part' : inner.Value}
    (hat : form.schema.at? path = some inner) (hreplaces : Json.Replaces old new path j j')
    (hread : form.read j = .ok a) (hnew : inner.read new = .ok part') :
    ∃ part a', inner.read old = .ok part ∧ form.read j' = .ok a' ∧
      Json.Replaces (inner.write part) (inner.write part') (form.schema.named path)
        (form.write a) (form.write a') := by
  obtain ⟨value, hvalue, rfl⟩ := map_eq_ok_iff.mp hread
  obtain ⟨part, value', hold, hvalue', hexchanged⟩ :=
    Schema.read_exchanged hnew form.schema hat hreplaces hvalue
  refine ⟨part, form.ofValue value', hold, map_eq_ok_iff.mpr ⟨value', hvalue', rfl⟩, ?_⟩
  rw [h.write_ofValue, h.write_ofValue]
  exact hexchanged

end Form

/-! ## Parameter sets -/

theorem Seed.faithful_form : Seed.form.Faithful := fun _ => rfl

theorem Checkpoint.faithful_form : Checkpoint.form.Faithful := fun _ => rfl

theorem ParameterSet.faithful_form : ParameterSet.form.Faithful := by
  intro (name, magic, port, seeds, genesis, powLimit, powLimitBits, height34, height65, height66,
    maturity, interval, timespan, spacing, factor, reduce, reduction, generate, checkpoints, others)
  have hseeds := Seed.faithful_form.list seeds
  have hcheckpoints := Checkpoint.faithful_form.list checkpoints
  change (name, magic, port, Seed.form.list.toValue (Seed.form.list.ofValue seeds), genesis,
    powLimit, powLimitBits, height34, height65, height66, maturity, interval, timespan, spacing,
    factor, reduce, reduction, generate,
    Checkpoint.form.list.toValue (Checkpoint.form.list.ofValue checkpoints), others) = _
  rw [hseeds, hcheckpoints]
  rfl

end ChainParams

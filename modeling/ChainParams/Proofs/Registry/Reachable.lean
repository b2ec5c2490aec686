import ChainParams.Config
import ChainParams.Registry
import ChainParams.Proofs.Registry.Indices

/-!
# The registries that calls lead to

A registry starts without networks or with the known ones, and changes only when
a parameter set is registered: one that is given, or one that the text of a
configuration file describes.  An attempt either puts a sound network with a new
magic behind the others or changes nothing (`attempt_cases`), so what holds of
the empty registry and survives such a network holds of every reachable registry
(`Reachable.push_induction`).
-/

namespace ChainParams.Registry

/-! ## Calls -/

/-- A call that may add a network. -/
inductive Call where
  | set (p : ParameterSet)
  | text (description : String)
  | file (contents : Except FileError ByteArray)

/-- The parameter set that a call registers, if it gets that far. -/
def Call.offer? : Call → Option ParameterSet
  | set p => some p
  | text description => (Config.parse description).toOption
  | file contents => (Config.load contents).toOption

/-- The registry after a call. -/
def call (r : Registry) (c : Call) : Registry :=
  match c.offer? with
  | some p => r.attempt p
  | none => r

/-- The registries that calls lead to, from the empty or the known one. -/
inductive Reachable : Registry → Prop
  | empty : Reachable empty
  | known : Reachable known
  | call {r : Registry} : Reachable r → (c : Call) → Reachable (r.call c)

/-- None of the known networks is refused. -/
theorem known_networks : known.networks = KnownNetwork.all.map KnownNetwork.params := rfl

theorem Reachable.attempt {r : Registry} (h : r.Reachable) (p : ParameterSet) :
    (r.attempt p).Reachable := h.call (.set p)

theorem Reachable.run {r : Registry} (h : r.Reachable) (calls : List Call) :
    (calls.foldl Registry.call r).Reachable := by
  induction calls generalizing r with
  | nil => exact h
  | cons c calls ih => exact ih (h.call c)

/-- The reachable registries are those at the end of a run of calls. -/
theorem reachable_iff_run {r : Registry} :
    r.Reachable ↔
      ∃ start ∈ [empty, known], ∃ calls : List Call, calls.foldl Registry.call start = r := by
  constructor
  · intro h
    induction h with
    | empty => exact ⟨empty, by simp, [], rfl⟩
    | known => exact ⟨known, by simp, [], rfl⟩
    | call _ c ih =>
        obtain ⟨start, hstart, calls, rfl⟩ := ih
        refine ⟨start, hstart, calls ++ [c], ?_⟩
        rw [List.foldl_append]
        rfl
  · rintro ⟨start, hstart, calls, rfl⟩
    obtain rfl | rfl : start = empty ∨ start = known := by simpa using hstart
    · exact Reachable.empty.run calls
    · exact Reachable.known.run calls

/-! ## What an attempt can do -/

/-- Whether a set can be registered: its magic is free and it breaks no law. -/
structure Admits (r : Registry) (p : ParameterSet) : Prop where
  free : r.isRegistered p.magic = false
  valid : p.validate = .ok ()

section

variable {r : Registry} {p : ParameterSet}

theorem register_eq_duplicate_iff :
    r.register p = .error (.duplicate p.name p.magic) ↔ r.isRegistered p.magic = true := by
  rw [register]
  cases r.isRegistered p.magic <;> cases p.validate <;> simp

theorem register_eq_invalid_iff {name : String} {flaw : Flaw} :
    r.register p = .error (.invalid name flaw) ↔
      r.isRegistered p.magic = false ∧ p.name = name ∧ p.validate = .error flaw := by
  rw [register]
  cases r.isRegistered p.magic <;> cases p.validate <;> simp

theorem register_eq_ok_iff {r' : Registry} :
    r.register p = .ok r' ↔ r.Admits p ∧ r.push p = r' := by
  have hadmits : r.Admits p ↔ r.isRegistered p.magic = false ∧ p.validate = .ok () :=
    ⟨fun h => ⟨h.free, h.valid⟩, fun h => ⟨h.1, h.2⟩⟩
  rw [hadmits, register]
  cases r.isRegistered p.magic <;> cases p.validate <;> simp

theorem attempt_of_register_ok {r' : Registry} (h : r.register p = .ok r') :
    r.attempt p = r' := by
  rw [Registry.attempt, h]

theorem attempt_of_register_error {e : RegisterError} (h : r.register p = .error e) :
    r.attempt p = r := by
  rw [Registry.attempt, h]

end

/-- An attempt adds the network or changes nothing. -/
theorem attempt_cases (r : Registry) (p : ParameterSet) :
    (r.Admits p ∧ r.attempt p = r.push p) ∨ (¬ r.Admits p ∧ r.attempt p = r) := by
  cases hregister : r.register p with
  | ok r' =>
      obtain ⟨hadmits, rfl⟩ := register_eq_ok_iff.mp hregister
      exact .inl ⟨hadmits, attempt_of_register_ok hregister⟩
  | error e =>
      refine .inr ⟨fun hadmits => ?_, attempt_of_register_error hregister⟩
      have hok := register_eq_ok_iff.mpr ⟨hadmits, rfl⟩
      cases hregister.symm.trans hok

theorem foldl_attempt_induction {motive : Registry → Prop}
    (hpush : ∀ r p, motive r → r.Admits p → motive (r.push p)) (networks : List ParameterSet) :
    ∀ r, motive r → motive (networks.foldl Registry.attempt r) := by
  induction networks with
  | nil => exact fun _ h => h
  | cons p networks ih =>
      intro r h
      refine ih _ ?_
      rcases attempt_cases r p with ⟨hadmits, hstep⟩ | ⟨-, hstep⟩ <;> rw [hstep]
      · exact hpush r p h hadmits
      · exact h

/-- What holds of the empty registry and survives the registration of a sound
network with a new magic holds of every reachable registry. -/
theorem Reachable.push_induction {motive : Registry → Prop} (hempty : motive Registry.empty)
    (hpush : ∀ r p, motive r → r.Admits p → motive (r.push p)) {r : Registry}
    (h : r.Reachable) : motive r := by
  induction h with
  | empty => exact hempty
  -- The known registry is itself made by attempts on the empty one.
  | known => exact foldl_attempt_induction hpush _ _ hempty
  | @call r _ c ih =>
      rw [Registry.call]
      cases c.offer? with
      | none => exact ih
      | some p => exact foldl_attempt_induction hpush [p] r ih

end ChainParams.Registry

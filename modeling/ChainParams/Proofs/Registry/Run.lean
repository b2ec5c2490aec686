import ChainParams.Proofs.Registry.Reachable

/-!
# Runs of calls

Of the calls of a run only those count whose registration succeeds.  The list of
networks grows by exactly these, in the order of the calls (`networks_run`), and
the run ends where it ends without all the others (`run_eq_foldl_added`): an
attempt that fails leaves no trace.
-/

namespace ChainParams.Registry

/-- The registry after a run of calls. -/
def run (r : Registry) (calls : List Call) : Registry := calls.foldl call r

/-- The network that a call adds, if its registration succeeds. -/
def added? (r : Registry) (c : Call) : Option ParameterSet :=
  c.offer?.filter fun p => (r.register p).isOk

/-- The networks that a run of calls adds, in the order of their registration. -/
def added (r : Registry) : List Call → List ParameterSet
  | [] => []
  | c :: calls => (r.added? c).toList ++ (r.call c).added calls

/-- A call adds the network that it offers, or changes nothing. -/
theorem call_cases (r : Registry) (c : Call) :
    (∃ p, r.added? c = some p ∧ r.call c = r.push p ∧ r.attempt p = r.push p) ∨
      (r.added? c = none ∧ r.call c = r) := by
  unfold added? call
  cases c.offer? with
  | none => exact .inr ⟨rfl, rfl⟩
  | some p =>
      cases hregister : r.register p with
      | ok r' =>
          obtain ⟨-, rfl⟩ := register_eq_ok_iff.mp hregister
          have hattempt := attempt_of_register_ok hregister
          refine .inl ⟨p, ?_, hattempt, hattempt⟩
          rw [Option.filter_some, hregister]
          rfl
      | error e =>
          refine .inr ⟨?_, attempt_of_register_error hregister⟩
          rw [Option.filter_some, hregister]
          rfl

/-- The networks after a run are those before it and then those that it added. -/
theorem networks_run (r : Registry) (calls : List Call) :
    (r.run calls).networks = r.networks ++ r.added calls := by
  induction calls generalizing r with
  | nil => exact (List.append_nil _).symm
  | cons c calls ih =>
      have hrest : (r.run (c :: calls)).networks = (r.call c).networks ++ (r.call c).added calls :=
        ih (r.call c)
      rw [hrest, added]
      rcases call_cases r c with ⟨p, hadded, hcall, -⟩ | ⟨hadded, hcall⟩
      · rw [hadded, hcall, push, List.append_assoc]
        rfl
      · rw [hadded, hcall]
        rfl

/-- The calls that add nothing can be left out of a run. -/
theorem run_eq_foldl_added (r : Registry) (calls : List Call) :
    r.run calls = (r.added calls).foldl attempt r := by
  induction calls generalizing r with
  | nil => rfl
  | cons c calls ih =>
      have hrest : r.run (c :: calls) = ((r.call c).added calls).foldl attempt (r.call c) :=
        ih (r.call c)
      rw [hrest, added]
      rcases call_cases r c with ⟨p, hadded, hcall, hattempt⟩ | ⟨hadded, hcall⟩
      · rw [hadded, hcall, ← hattempt]
        rfl
      · rw [hadded, hcall]
        rfl

end ChainParams.Registry

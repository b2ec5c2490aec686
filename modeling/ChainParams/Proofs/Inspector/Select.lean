import ChainParams.Inspector
import ChainParams.Proofs.Config.RoundTrip
import ChainParams.Proofs.Inspector.Arguments
import ChainParams.Proofs.Known
import ChainParams.Proofs.Registry.Consistent

/-!
# Which network the inspector shows

A text that calls a known network selects it, whatever stands in the file of a
custom network.  Every other text selects the custom network if it is its name,
character for character, and nothing otherwise (`Registers.select_eq`).  What a run
prints is then read off the network that is selected.
-/

namespace ChainParams.Inspector

/-- Whether a file describes a network that can be registered behind the known
ones. -/
structure Registers (file : Except FileError ByteArray) (p : ParameterSet) : Prop where
  loaded : Config.load file = .ok p
  registered : ∃ r, Registry.known.register p = .ok r

/-! ## Selecting -/

section

variable {custom : Option (Except FileError ByteArray)} {file : Except FileError ByteArray}
  {p : ParameterSet}

theorem Registers.registryWith_eq (h : Registers file p) :
    registryWith (some file) = .ok (Registry.known.push p) := by
  obtain ⟨r, hregister⟩ := h.registered
  obtain ⟨-, rfl⟩ := Registry.register_eq_ok_iff.mp hregister
  simp only [registryWith, h.loaded, hregister]

theorem select_of_registryWith {registry : Registry} (h : registryWith custom = .ok registry)
    (text : String) :
    select custom text =
      match registry.byName? (selectedName text) with
      | some q => .ok q
      | none => .error (.notRegistered (selectedName text)) := by
  rw [select, h]
  rfl

/-- Without a file only the known networks can be selected. -/
theorem select_none (text : String) :
    select none text =
      match KnownNetwork.ofText? text with
      | some network => .ok network.params
      | none => .error (.notRegistered text) := by
  rw [select_of_registryWith rfl, selectedName]
  cases hcall : KnownNetwork.ofText? text with
  | some network => simp only [Registry.known_byName?_name]
  | none => simp only [Registry.known_byName?_eq_none hcall]

/-- With a file the custom network can be selected as well, by its own name only,
and only if this name calls no known network. -/
theorem Registers.select_eq (h : Registers file p) (text : String) :
    select (some file) text =
      match KnownNetwork.ofText? text with
      | some network => .ok network.params
      | none => if p.name = text then .ok p else .error (.notRegistered text) := by
  rw [select_of_registryWith h.registryWith_eq, selectedName, Registry.byName?_push]
  cases hcall : KnownNetwork.ofText? text with
  | some network => simp only [Registry.known_byName?_name, Option.some_or]
  | none =>
      simp only [Registry.known_byName?_eq_none hcall, Option.none_or]
      by_cases hname : p.name = text
      · rw [if_pos hname, if_pos hname]
      · rw [if_neg hname, if_neg hname]

/-- A custom network is none of the known ones, since its magic is another. -/
theorem Registers.ne_params (h : Registers file p) (network : KnownNetwork) :
    network.params ≠ p := by
  obtain ⟨r, hregister⟩ := h.registered
  have hfree := (Registry.register_eq_ok_iff.mp hregister).1.free
  rw [Registry.Reachable.known.consistent.isRegistered_eq_false_iff] at hfree
  have hmem : network.params ∈ Registry.known.networks := by
    rw [Registry.known_networks]
    apply List.mem_map_of_mem
    cases network <;> decide
  intro heq
  exact hfree _ hmem (congrArg ParameterSet.magic heq)

theorem exists_select_eq_error
    (h : (∃ e, Config.load file = .error e) ∨
      ∃ p e, Config.load file = .ok p ∧ Registry.known.register p = .error e) (text : String) :
    ∃ failure, select (some file) text = .error failure := by
  rcases h with ⟨e, hload⟩ | ⟨p, e, hload, hregister⟩
  · refine ⟨.config e, ?_⟩
    rw [select, registryWith, hload]
    rfl
  · refine ⟨.refused e, ?_⟩
    simp only [select, registryWith, hload, hregister]
    rfl

end

/-! ## Running -/

section

variable {files : String → Except FileError ByteArray} {args : List String} {request : Request}

theorem run_of_select_ok {p : ParameterSet} (hargs : Asks args request)
    (h : select (request.custom.map files) request.network = .ok p) :
    run files args = .shown (display request.json p) := by
  unfold Asks at hargs
  simp only [run, hargs, output, h]
  rfl

theorem run_of_select_error {failure : Failure} (hargs : Asks args request)
    (h : select (request.custom.map files) request.network = .error failure) :
    run files args = .failed failure := by
  unfold Asks at hargs
  simp only [run, hargs, output, h]
  rfl

variable {network path : String} {json : Bool} {p : ParameterSet} {known : KnownNetwork}

/-- A text that calls a known network shows it, without a file or with one. -/
theorem run_of_call (hargs : Asks args ⟨network, none, json⟩)
    (hcall : KnownNetwork.ofText? network = some known) :
    run files args = .shown (display json known.params) := by
  have hselect := select_none network
  rw [hcall] at hselect
  exact run_of_select_ok hargs hselect

theorem Registers.run_of_call (h : Registers (files path) p)
    (hargs : Asks args ⟨network, some path, json⟩)
    (hcall : KnownNetwork.ofText? network = some known) :
    run files args = .shown (display json known.params) := by
  have hselect := h.select_eq network
  rw [hcall] at hselect
  exact run_of_select_ok hargs hselect

theorem Registers.run_of_name (h : Registers (files path) p)
    (hargs : Asks args ⟨p.name, some path, json⟩)
    (hcall : KnownNetwork.ofText? p.name = none) :
    run files args = .shown (display json p) := by
  have hselect := h.select_eq p.name
  rw [hcall] at hselect
  dsimp only at hselect
  rw [if_pos rfl] at hselect
  exact run_of_select_ok hargs hselect

theorem Registers.exitCode_of_name_ne (h : Registers (files path) p)
    (hargs : Asks args ⟨network, some path, json⟩)
    (hcall : KnownNetwork.ofText? network = none) (hname : p.name ≠ network) :
    (run files args).exitCode = 1 := by
  have hselect := h.select_eq network
  rw [hcall] at hselect
  dsimp only at hselect
  rw [if_neg hname] at hselect
  rw [run_of_select_error hargs hselect, Outcome.exitCode_failed]

end

end ChainParams.Inspector

import ChainParams.Proofs.Config.Respelling
import ChainParams.Proofs.Inspector.Custom

/-!
# What the inspector prints is a configuration file

The inspector prints a network in the form of a configuration file and a line break behind
it.  Only valid networks are registered, so the file it prints is always accepted and
describes the network that was shown.  If this is the custom network, then the printed file
can stand in for the one it was read from.
-/

namespace ChainParams.Inspector

/-! ## What is selected is valid -/

section

variable {custom : Option (Except FileError ByteArray)} {file : Except FileError ByteArray}
  {text : String} {p q : ParameterSet}

/-- The inspector makes a registry only by registering a network that it loaded. -/
theorem registryWith_eq_ok_iff {registry : Registry} :
    registryWith custom = .ok registry ↔
      (custom = none ∧ registry = .known) ∨
      ∃ file p, custom = some file ∧ Config.load file = .ok p ∧
        Registry.known.register p = .ok registry := by
  cases custom with
  | none => simp [registryWith, eq_comm]
  | some file =>
      rw [registryWith]
      cases hload : Config.load file with
      | error e => simp [hload]
      | ok p =>
          cases hregister : Registry.known.register p with
          | error e => simp [hload, hregister]
          | ok r => simp [hload, hregister]

theorem exists_registryWith_of_select (h : select custom text = .ok p) :
    ∃ registry, registryWith custom = .ok registry ∧
      registry.byName? (selectedName text) = some p := by
  cases hregistry : registryWith custom with
  | error failure =>
      rw [select, hregistry] at h
      cases h
  | ok registry =>
      rw [select_of_registryWith hregistry] at h
      split at h
      · next q hname =>
        cases h
        exact ⟨registry, rfl, hname⟩
      · cases h

theorem reachable_of_registryWith {registry : Registry} (h : registryWith custom = .ok registry) :
    registry.Reachable := by
  obtain ⟨-, rfl⟩ | ⟨file, p, -, -, hregister⟩ := registryWith_eq_ok_iff.mp h
  · exact .known
  · rw [← Registry.attempt_of_register_ok hregister]
    exact Registry.Reachable.known.attempt p

theorem validate_of_select (h : select custom text = .ok p) : p.validate = .ok () := by
  obtain ⟨registry, hregistry, hname⟩ := exists_registryWith_of_select h
  have hvalid := (reachable_of_registryWith hregistry).consistent.valid
  exact hvalid p (List.mem_of_find?_eq_some hname)

/-- A file with which a network is selected describes a network that can be registered. -/
theorem registers_of_select (h : select (some file) text = .ok p)
    (hload : Config.load file = .ok q) : Registers file q := by
  obtain ⟨registry, hregistry, -⟩ := exists_registryWith_of_select h
  obtain ⟨hnone, -⟩ | ⟨_, q', ⟨⟩, hload', hregister⟩ := registryWith_eq_ok_iff.mp hregistry
  · cases hnone
  · obtain rfl : q = q' := Except.ok.inj (hload.symm.trans hload')
    exact ⟨hload, registry, hregister⟩

end

/-! ## Running -/

variable {files : String → Except FileError ByteArray} {args : List String} {request : Request}

theorem exists_select_of_exitCode (hargs : Asks args request) (h : (run files args).exitCode = 0) :
    ∃ p, select (request.custom.map files) request.network = .ok p := by
  cases hselect : select (request.custom.map files) request.network with
  | ok p => exact ⟨p, rfl⟩
  | error failure =>
      rw [run_of_select_error hargs hselect] at h
      cases h

/-- Whatever file is given or not, and whatever network is asked for: if the run prints a
network as a file, then the whole output describes the network that was selected.  If this
is the network of the given file, then the output can be given instead, and the run with it
leaves the same behind. -/
theorem run_json_reusable {network : String} {custom : Option String}
    (hargs : Asks args ⟨network, custom, true⟩) (hrun : (run files args).exitCode = 0) :
    ∃ p, select (custom.map files) network = .ok p ∧
      (run files args).stdout = Config.render p ++ "\n" ∧
      Config.parse (run files args).stdout = .ok p ∧
      ∀ path, custom = some path → Config.load (files path) = .ok p →
        ∀ files' args' path', Asks args' ⟨network, some path', true⟩ →
          files' path' = .ok (run files args).stdout.toUTF8 →
            run files' args' = run files args := by
  obtain ⟨p, hselect⟩ := exists_select_of_exitCode hargs hrun
  have hshown := run_of_select_ok hargs hselect
  have hgap : ∀ c ∈ "\n".toList, Json.isGap c = true := by simp [Json.isGap]
  have hparse : Config.parse (run files args).stdout = .ok p := by
    rw [hshown]
    exact Config.parse_append (Config.parse_render_of_valid (validate_of_select hselect)) hgap
  refine ⟨p, hselect, ?_, hparse, ?_⟩
  · rw [hshown]
    rfl
  · rintro path rfl hload files' args' path' hargs' hfile'
    have hfile : Registers (files path) p := registers_of_select hselect hload
    have hregisters : Registers (files' path') p := by
      refine ⟨?_, hfile.registered⟩
      rw [hfile', Config.load_toUTF8, hparse]
    have hselect' : select (some (files' path')) network = .ok p := by
      rw [hregisters.select_eq, ← hfile.select_eq]
      exact hselect
    rw [run_of_select_ok hargs' hselect', hshown]

/-- Files that hold the description of a network on one line, whatever their path is. -/
def onOneLine (p : ParameterSet) (_path : String) : Except FileError ByteArray :=
  .ok (ParameterSet.form.write p).compact.toUTF8

/-- A run that shows `mainland` as a file. -/
def mainlandArguments : List String := ["-n Mainland", "-c", "net", "--json"]

/-- A file on one line is printed on many, and these are printed as they are. -/
theorem mainland_run_json_reusable :
    Config.load (onOneLine mainland "net") = .ok mainland ∧
    (run (onOneLine mainland) mainlandArguments).stdout = Config.render mainland ++ "\n" ∧
    Config.parse (run (onOneLine mainland) mainlandArguments).stdout = .ok mainland ∧
    run (fun _ => .ok (run (onOneLine mainland) mainlandArguments).stdout.toUTF8)
        ["--json", "--custom=out", "-n= Mainland"] =
      run (onOneLine mainland) mainlandArguments := by
  have hvalid : mainland.validate = .ok () := rfl
  have hload : Config.load (onOneLine mainland "net") = .ok mainland := by
    rw [onOneLine, Config.load_toUTF8]
    exact (Config.parse_write Json.Style.blank_compact mainland).trans
      (Config.reparsed_of_valid hvalid)
  have hfile : Registers (onOneLine mainland "net") mainland :=
    ⟨hload, _, Registry.register_eq_ok_iff.mpr ⟨⟨rfl, hvalid⟩, rfl⟩⟩
  have hcall : KnownNetwork.ofText? mainland.name = none := by decide +kernel
  have hargs : Asks mainlandArguments ⟨mainland.name, some "net", true⟩ := by decide +kernel
  have hrun := congrArg Outcome.exitCode (hfile.run_of_name hargs hcall)
  obtain ⟨p, hselect, hstdout, hparse, hagain⟩ := run_json_reusable hargs hrun
  have hp : p = mainland := by
    have h := hfile.select_eq mainland.name
    rw [hcall] at h
    exact Except.ok.inj (hselect.symm.trans (h.trans (if_pos rfl)))
  subst hp
  exact ⟨hload, hstdout, hparse, hagain "net" rfl hload _ _ "out" (by decide +kernel) rfl⟩

end ChainParams.Inspector

import ChainParams.Proofs.Inspector.Select
import ChainParams.Proofs.Inspector.Summary

/-!
# A custom network beside the known ones

The file of a custom network has no influence on what is shown of the known
networks, whatever the custom network takes over from them (`run_with_file`).  The
price is that it cannot be shown itself if its name calls a known network, which
nothing prevents; every other custom network is shown by its name
(`run_with_own_name`).  Which text shows a network is said by `Shows`.
-/

namespace ChainParams.Inspector

/-- Whatever network is asked for, and whatever file is given with it: the file can
be named unless its path is empty, and if it is read and registered, then a text
that calls a known network shows this network and prints what it prints without the
file, and any other text shows the custom network if it is its name and fails if it
is not.  If the file is not read or not registered, nothing is printed and the run
fails. -/
theorem run_with_file (files : String → Except FileError ByteArray) (network path : String)
    (json : Bool) :
    (path ≠ "" → ∃ args, Asks args ⟨network, some path, json⟩) ∧
    (∃ plain, Asks plain ⟨network, none, json⟩) ∧
    ∀ args plain, Asks args ⟨network, some path, json⟩ → Asks plain ⟨network, none, json⟩ →
      (∀ p, Registers (files path) p →
        (Text.asciiLowercase (Text.trim network) ∈ KnownNetwork.callNames →
          (run files args).stdout = (run files plain).stdout ∧
          (run files args).exitCode = 0 ∧ (run files plain).exitCode = 0 ∧
          ∃ known, KnownNetwork.ofText? network = some known ∧
            Shows json known.params (run files args).stdout) ∧
        (Text.asciiLowercase (Text.trim network) ∉ KnownNetwork.callNames →
          ((run files args).exitCode = 0 ↔ p.name = network) ∧
          (p.name = network → Shows json p (run files args).stdout))) ∧
      ((∃ e, Config.load (files path) = .error e) ∨
          (∃ p e, Config.load (files path) = .ok p ∧ Registry.known.register p = .error e) →
        (run files args).exitCode ≠ 0 ∧ (run files args).stdout = "") := by
  refine ⟨?_, (exists_asks_iff _).mpr nofun, ?_⟩
  · intro hpath
    apply (exists_asks_iff _).mpr
    intro heq
    exact hpath (Option.some.inj heq)
  · intro args plain hargs hplain
    refine ⟨?_, ?_⟩
    · intro p hfile
      refine ⟨?_, ?_⟩
      · intro hcalled
        obtain ⟨known, hcall⟩ := KnownNetwork.exists_ofText?_eq_some hcalled
        rw [hfile.run_of_call hargs hcall, run_of_call hplain hcall]
        exact ⟨rfl, rfl, rfl, known, hcall, shows_display json known.params⟩
      · intro huncalled
        have hcall := (KnownNetwork.ofText?_eq_none_iff network).mpr huncalled
        by_cases hname : p.name = network
        · subst hname
          rw [hfile.run_of_name hargs hcall]
          exact ⟨iff_of_true rfl rfl, fun _ => shows_display json p⟩
        · rw [hfile.exitCode_of_name_ne hargs hcall hname]
          exact ⟨iff_of_false (by decide) hname, fun heq => absurd heq hname⟩
    · intro hfails
      obtain ⟨failure, hselect⟩ := exists_select_eq_error hfails network
      rw [run_of_select_error hargs hselect, Outcome.exitCode_failed, Outcome.stdout_failed]
      exact ⟨by decide, rfl⟩

/-- Files that hold the description of a network, whatever their path is. -/
def holding (p : ParameterSet) (_path : String) : Except FileError ByteArray :=
  .ok (Config.render p).toUTF8

theorem registers_holding {p : ParameterSet} (hvalid : p.validate = .ok ())
    (hfree : Registry.known.isRegistered p.magic = false) (path : String) :
    Registers (holding p path) p := by
  refine ⟨?_, _, Registry.register_eq_ok_iff.mpr ⟨⟨hfree, hvalid⟩, rfl⟩⟩
  rw [holding, Config.load_toUTF8, Config.parse_render_of_valid hvalid]

/-- A network that pretends to be the main network. -/
def impostor : ParameterSet :=
  { ParameterSet.mainnet with magic := ⟨0x696d706f⟩, defaultPort := 1, pubKeyHashId := 0x8c }

/-- A network whose name begins like that of the main network. -/
def mainland : ParameterSet :=
  { ParameterSet.regtest with name := " Mainland", magic := ⟨0x6d61696e⟩ }

/-- The file of the impostor changes nothing about the main network, and no other text
shows it; without the file the run fails.  The file of `mainland` makes it known by its
name, in both forms. -/
theorem mainland_impostor_run_with_file :
    (Registers (holding impostor "net") impostor ∧
      (run (holding impostor) ["-n", " MAIN ", "-c", "net"]).stdout =
        (run (holding impostor) ["-n", " MAIN "]).stdout ∧
      Shows false .mainnet (run (holding impostor) ["-n", " MAIN ", "-c", "net"]).stdout ∧
      (run (holding impostor) ["-n", "Main1", "-c", "net"]).exitCode ≠ 0) ∧
    ((run (fun _ => .error .notFound) ["-n", " MAIN ", "-c", "net"]).exitCode ≠ 0 ∧
      (run (fun _ => .error .notFound) ["-n", " MAIN ", "-c", "net"]).stdout = "") ∧
    Registers (holding mainland "net") mainland ∧
    (run (holding mainland) ["-n Mainland", "-c", "net"]).exitCode = 0 ∧
    Shows false mainland (run (holding mainland) ["-n Mainland", "-c", "net"]).stdout ∧
    Shows true mainland (run (holding mainland) ["-n Mainland", "-c", "net", "--json"]).stdout := by
  have hcalled : Text.asciiLowercase (Text.trim " MAIN ") ∈ KnownNetwork.callNames := by
    decide +kernel
  have huncalled : Text.asciiLowercase (Text.trim "Main1") ∉ KnownNetwork.callNames := by
    decide +kernel
  have hmainland : Text.asciiLowercase (Text.trim mainland.name) ∉ KnownNetwork.callNames := by
    decide +kernel
  refine ⟨?_, ?_, ?_⟩
  · have hfile : Registers (holding impostor "net") impostor := registers_holding rfl rfl "net"
    have hname : impostor.name ≠ "Main1" := by decide
    obtain ⟨-, -, hmain⟩ := run_with_file (holding impostor) " MAIN " "net" false
    obtain ⟨-, -, hother⟩ := run_with_file (holding impostor) "Main1" "net" false
    have hmain := (hmain ["-n", " MAIN ", "-c", "net"] ["-n", " MAIN "] (by decide +kernel)
      (by decide +kernel)).1 impostor hfile
    have hother := (hother ["-n", "Main1", "-c", "net"] ["-n", "Main1"] (by decide +kernel)
      (by decide +kernel)).1 impostor hfile
    obtain ⟨hsame, -, -, known, hknown, hshown⟩ := hmain.1 hcalled
    have hmainnet : KnownNetwork.ofText? " MAIN " = some .mainnet := by decide +kernel
    obtain rfl : KnownNetwork.mainnet = known := Option.some.inj (hmainnet.symm.trans hknown)
    exact ⟨hfile, hsame, hshown, mt (hother.2 huncalled).1.mp hname⟩
  · obtain ⟨-, -, hmissing⟩ := run_with_file (fun _ => .error .notFound) " MAIN " "net" false
    exact (hmissing ["-n", " MAIN ", "-c", "net"] ["-n", " MAIN "] (by decide +kernel)
      (by decide +kernel)).2 (.inl ⟨_, rfl⟩)
  · have hfile : Registers (holding mainland "net") mainland := registers_holding rfl rfl "net"
    obtain ⟨-, -, hlines⟩ := run_with_file (holding mainland) mainland.name "net" false
    obtain ⟨-, -, hjson⟩ := run_with_file (holding mainland) mainland.name "net" true
    have hlines := ((hlines ["-n Mainland", "-c", "net"] ["-n Mainland"] (by decide +kernel)
      (by decide +kernel)).1 mainland hfile).2 hmainland
    have hjson := ((hjson ["-n Mainland", "-c", "net", "--json"] ["-n Mainland", "--json"]
      (by decide +kernel) (by decide +kernel)).1 mainland hfile).2 hmainland
    exact ⟨hfile, hlines.1.mpr rfl, hlines.2 rfl, hjson.2 rfl⟩

/-- When a custom network is asked for by its own name, the run always succeeds, and
it shows this network exactly if the name calls no known network.  Otherwise the
known network is shown. -/
theorem run_with_own_name {files : String → Except FileError ByteArray} {args : List String}
    {path : String} {json : Bool} {p : ParameterSet}
    (hargs : Asks args ⟨p.name, some path, json⟩) (hfile : Registers (files path) p) :
    ∃ q, select (some (files path)) p.name = .ok q ∧
      (run files args).exitCode = 0 ∧ (run files args).stdout = display json q ∧
      Shows json q (display json q) ∧
      (q = p ↔ Text.asciiLowercase (Text.trim p.name) ∉ KnownNetwork.callNames) ∧
      ∀ network, KnownNetwork.ofText? p.name = some network → q = network.params := by
  have hselect := hfile.select_eq p.name
  rw [← KnownNetwork.ofText?_eq_none_iff]
  cases hcall : KnownNetwork.ofText? p.name with
  | some network =>
      rw [hcall] at hselect
      rw [hfile.run_of_call hargs hcall]
      refine ⟨network.params, hselect, rfl, rfl, shows_display json _, ?_, ?_⟩
      · exact iff_of_false (hfile.ne_params network) nofun
      · rintro _ ⟨⟩
        rfl
  | none =>
      rw [hcall] at hselect
      rw [hfile.run_of_name hargs hcall]
      refine ⟨p, ?_, rfl, rfl, shows_display json p, iff_of_true rfl rfl, nofun⟩
      exact hselect.trans (if_pos rfl)

/-- A network whose name calls the main network. -/
def namesake : ParameterSet := { mainland with name := "main" }

theorem mainland_run_with_own_name :
    Registers (holding mainland "net") mainland ∧
    (run (holding mainland) ["-n Mainland", "-c", "net", "--json"]).exitCode = 0 ∧
    (run (holding mainland) ["-n Mainland", "-c", "net", "--json"]).stdout =
      Config.render mainland ++ "\n" := by
  have hfile : Registers (holding mainland "net") mainland := registers_holding rfl rfl "net"
  have hargs : Asks ["-n Mainland", "-c", "net", "--json"] ⟨mainland.name, some "net", true⟩ := by
    decide +kernel
  obtain ⟨q, -, hcode, hstdout, -, hshown, -⟩ := run_with_own_name hargs hfile
  have hq : q = mainland := hshown.mpr (by decide +kernel)
  rw [hq] at hstdout
  exact ⟨hfile, hcode, hstdout⟩

/-- A network that is called `main` is registered, and when it is asked for, the run
succeeds and shows the main network. -/
theorem namesake_hidden :
    Asks ["-n", "main", "-c", "net"] ⟨namesake.name, some "net", false⟩ ∧
    Registers (holding namesake "net") namesake ∧
    select (some (holding namesake "net")) namesake.name = .ok .mainnet ∧
    ParameterSet.mainnet ≠ namesake ∧
    (run (holding namesake) ["-n", "main", "-c", "net"]).exitCode = 0 ∧
    (run (holding namesake) ["-n", "main", "-c", "net"]).stdout = display false .mainnet ∧
    display false .mainnet ≠ display false namesake := by
  have hfile : Registers (holding namesake "net") namesake := registers_holding rfl rfl "net"
  have hargs : Asks ["-n", "main", "-c", "net"] ⟨namesake.name, some "net", false⟩ := by
    decide +kernel
  have hselect : select (some (holding namesake "net")) namesake.name = .ok .mainnet := by
    have hcall : KnownNetwork.ofText? namesake.name = some .mainnet := by decide +kernel
    rw [hfile.select_eq, hcall]
    rfl
  rw [run_of_select_ok hargs hselect]
  exact ⟨hargs, hfile, hselect, hfile.ne_params .mainnet, Outcome.exitCode_shown _,
    Outcome.stdout_shown _, by decide +kernel⟩

end ChainParams.Inspector

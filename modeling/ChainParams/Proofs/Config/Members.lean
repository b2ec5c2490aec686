import ChainParams.Proofs.Config.Respelling
import ChainParams.Proofs.Schema.Path

/-!
# Nothing is left to a default

What a parameter set is read from says every field of it, once.  Only the seeds, the
checkpoints and the filtering of a seed may be left out; without any other member, at whatever
level, the text is refused, and so it is with a member that is there twice, or with a slot of
the deployment table that nobody knows (`ParameterSet.readText_explicit`).
-/

namespace ChainParams

open Json (Fault Spells)

/-! ## Forms -/

/-- Whether every text that spells a value is read with the same result. -/
def Form.ReadsAs {α : Type} (form : Form α) (j : Json) (result : Except Fault α) : Prop :=
  ∀ text, Spells text j → form.readText text = result

section

variable {α : Type} {form : Form α} {j : Json}

theorem Form.readsAs_read (form : Form α) (j : Json) : form.ReadsAs j (form.read j) := by
  intro text htext
  rw [readText, Schema.readText_of_spells htext, read]

theorem Form.readsAs_of_error {fault : Fault} (h : form.schema.read j = .error fault) :
    form.ReadsAs j (.error fault) := by
  have hread := form.readsAs_read j
  rw [read, h] at hread
  exact hread

end

/-! ## Fields that may be left out -/

/-- The seed, not filtering. -/
def Seed.unfiltered (s : Seed) : Seed := { s with hasFiltering := false }

/-- Of seeds that are read, one can be left without its filtering; the others stay as they
are. -/
theorem Seed.exists_without_hasFiltering (values : List Seed.form.schema.Value) (index : Nat) :
    ∃ values', Seed.form.list.schema.modifyAt (Schema.without "has_filtering") [.item index]
        values = .ok values' ∧
      Seed.form.list.ofValue values' =
        (Seed.form.list.ofValue values).modify index Seed.unfiltered := by
  change ∃ values', values[index]?.elim (Except.ok values) _ = .ok values' ∧
    List.map Seed.form.ofValue values' = (List.map Seed.form.ofValue values).modify index _
  rw [List.modify_eq_set_getElem?, List.getElem?_map]
  cases values[index]? with
  | none => exact ⟨values, rfl, rfl⟩
  | some value => exact ⟨_, rfl, List.map_set⟩

/-- The keys of the slots in the deployment table. -/
def DeploymentTable.keys : List String := ["test_dummy", "csv", "segwit"]

namespace ParameterSet

/-- The keys that may be left out. -/
def optionalKeys : List String := ["dns_seeds", "checkpoints", "has_filtering"]

theorem optionalNames_subset : schema.optionalNames ⊆ optionalKeys := by
  have hnames : schema.optionalNames = ["dns_seeds", "has_filtering", "checkpoints"] := rfl
  rw [hnames]
  decide

theorem hasField_seeds : schema.HasField [] "dns_seeds" := ⟨_, _, _, rfl, by decide⟩

theorem hasField_checkpoints : schema.HasField [] "checkpoints" := ⟨_, _, _, rfl, by decide⟩

theorem hasField_hasFiltering (index : Nat) :
    schema.HasField [.field "dns_seeds", .item index] "has_filtering" :=
  ⟨_, _, _, rfl, by decide⟩

theorem without_seeds (values : schema.Value) :
    (schema.modifyAt (Schema.without "dns_seeds") [] values).map form.ofValue =
      .ok { form.ofValue values with seeds := [] } := by
  rfl

theorem without_checkpoints (values : schema.Value) :
    (schema.modifyAt (Schema.without "checkpoints") [] values).map form.ofValue =
      .ok { form.ofValue values with checkpoints := [] } := by
  rfl

theorem without_hasFiltering (values : schema.Value) (index : Nat) :
    (schema.modifyAt (Schema.without "has_filtering") [.field "dns_seeds", .item index]
        values).map form.ofValue =
      .ok { form.ofValue values with
        seeds := (form.ofValue values).seeds.modify index Seed.unfiltered } := by
  obtain ⟨name, magic, port, seeds, others⟩ := values
  obtain ⟨seeds', hmodified, hseeds⟩ := Seed.exists_without_hasFiltering seeds index
  -- The seeds stand behind the name, the magic and the port, which are put back in front of them.
  change (((((Seed.form.list.schema.modifyAt _ [.item index] seeds).map _).map _).map _).map
    _).map form.ofValue = _
  rw [hmodified]
  change Except.ok { form.ofValue (name, magic, port, seeds, others) with
    seeds := Seed.form.list.ofValue seeds' } = _
  rw [hseeds]
  rfl

/-! ## Wording -/

theorem message_missing (key : String) :
    (Fault.data (.missing key)).message = "missing field `" ++ key ++ "`" := by
  change "missing field " ++ ("`" ++ key ++ "`") = _
  rw [← String.append_assoc, ← String.append_assoc]
  rfl

theorem message_duplicate (key : String) :
    (Fault.data (.duplicate key)).message = "duplicate field `" ++ key ++ "`" := by
  change "duplicate field " ++ ("`" ++ key ++ "`") = _
  rw [← String.append_assoc, ← String.append_assoc]
  rfl

theorem message_unknown (key : String) :
    (Fault.data (.unknownField key DeploymentTable.keys)).message =
      "unknown field `" ++ key ++ "`, expected one of `test_dummy`, `csv`, `segwit`" := by
  have hfront : "unknown field `" = "unknown field " ++ "`" := rfl
  have hback : "`, expected one of `test_dummy`, `csv`, `segwit`" =
      "`" ++ (", expected " ++ Json.oneOf DeploymentTable.keys) := rfl
  change "unknown field " ++ ("`" ++ key ++ "`") ++ ", expected " ++ _ = _
  rw [hfront, hback]
  simp only [String.append_assoc]

/-! ## Every member counts -/

/-- What a parameter set and a value that it is read from have to do with each other: every
member of a record in the value is needed, and none can be there twice. -/
structure Explicit (p : ParameterSet) (j : Json) : Prop where
  missing : ∀ path key j', schema.HasField path key → key ∉ optionalKeys →
    Json.Drops path key j j' → form.ReadsAs j' (.error (.data (.missing key)))
  noSeeds : ∀ j', Json.Drops [] "dns_seeds" j j' → form.ReadsAs j' (.ok { p with seeds := [] })
  noCheckpoints : ∀ j', Json.Drops [] "checkpoints" j j' →
    form.ReadsAs j' (.ok { p with checkpoints := [] })
  noFiltering : ∀ index j', Json.Drops [.field "dns_seeds", .item index] "has_filtering" j j' →
    form.ReadsAs j' (.ok { p with seeds := p.seeds.modify index Seed.unfiltered })
  duplicate : ∀ path key j', schema.HasField path key → Json.Repeats path key j j' →
    form.ReadsAs j' (.error (.data (.duplicate key)))
  unknown : ∀ path key j', schema.at? path = some DeploymentTable.form.schema →
    key ∉ DeploymentTable.keys → Json.Adds path key j j' →
      form.ReadsAs j' (.error (.data (.unknownField key DeploymentTable.keys)))
  slots : ∀ members, j = .obj members →
    (members.map Prod.fst).count (some "deployments") = 1 ∧
      ∀ slots, (some "deployments", Json.obj slots) ∈ members →
        (slots.map Prod.fst).Perm (DeploymentTable.keys.map some)

variable {p : ParameterSet} {j j' : Json}

/-- Without a member that may be left out, the set is read with what stands for it then. -/
theorem readsAs_of_drops {path : List Json.Step} {key : String} {values : schema.Value}
    (hread : schema.read j = .ok values) (hfield : schema.HasField path key)
    (hdrops : Json.Drops path key j j')
    (hwithout : (schema.modifyAt (Schema.without key) path values).map form.ofValue = .ok p) :
    form.ReadsAs j' (.ok p) := by
  have hagain := (Schema.read_drops hfield hdrops hread).1
  have hread' : form.read j' = .ok p := (congrArg (Except.map form.ofValue) hagain).trans hwithout
  exact hread' ▸ form.readsAs_read j'

/-- The slots of the deployment table stand in a value once each. -/
theorem perm_keys_of_read {members slots : Json.Members} {values : schema.Value}
    (hread : schema.read (.obj members) = .ok values)
    (hslots : (some "deployments", Json.obj slots) ∈ members) :
    (slots.map Prod.fst).Perm (DeploymentTable.keys.map some) := by
  obtain ⟨front, back, rfl⟩ := List.append_of_mem hslots
  have hat : schema.at? [.field "deployments"] = some DeploymentTable.form.schema := rfl
  have hpart : Json.Replaces (.obj slots) (.obj slots) [.field "deployments"]
      (.obj (front ++ (some "deployments", .obj slots) :: back))
      (.obj (front ++ (some "deployments", .obj slots) :: back)) :=
    .field front "deployments" back .here
  obtain ⟨part, hslots, -⟩ := (schema.read_replaced hat hpart hread).eq_modified
  exact Schema.perm_names_of_read (by decide) (by decide) hslots

theorem explicit_of_read (h : form.read j = .ok p) : p.Explicit j := by
  obtain ⟨values, hread, rfl⟩ := map_eq_ok_iff.mp h
  exact {
    missing := by
      intro path key j' hfield hkey hdrops
      have hrequired : key ∉ schema.optionalNames := fun hmem => hkey (optionalNames_subset hmem)
      exact Form.readsAs_of_error ((Schema.read_drops hfield hdrops hread).2 hrequired)
    noSeeds := by
      intro j' hdrops
      exact readsAs_of_drops hread hasField_seeds hdrops (without_seeds values)
    noCheckpoints := by
      intro j' hdrops
      exact readsAs_of_drops hread hasField_checkpoints hdrops (without_checkpoints values)
    noFiltering := by
      intro index j' hdrops
      exact readsAs_of_drops hread (hasField_hasFiltering index) hdrops
        (without_hasFiltering values index)
    duplicate := by
      intro path key j' hfield hrepeats
      exact Form.readsAs_of_error (Schema.read_repeats hfield hrepeats hread)
    unknown := by
      intro path key j' hat hkey hadds
      exact Form.readsAs_of_error (Schema.read_adds hat hkey hadds hread)
    slots := by
      rintro members rfl
      have hcount : (members.map Prod.fst).count (some "deployments") = 1 :=
        Schema.count_key_of_read (by decide) (by decide) hread
      refine ⟨hcount, ?_⟩
      intro slots hslots
      exact perm_keys_of_read hread hslots }

/-- A text that describes a parameter set spells one value, and this says every field
explicitly: without a member the text is refused, or read with no seeds, no checkpoints or no
filtering if that is the member; with a member of the same key behind it, or with another slot
in the deployment table, it is refused. -/
theorem readText_explicit :
    (∀ text p, form.readText text = .ok p →
      (∃ j, Spells text j) ∧ ∀ j, Spells text j → p.Explicit j) ∧
    (∀ key, (Fault.data (.missing key)).message = "missing field `" ++ key ++ "`") ∧
    (∀ key, (Fault.data (.duplicate key)).message = "duplicate field `" ++ key ++ "`") ∧
    ∀ key, (Fault.data (.unknownField key DeploymentTable.keys)).message =
      "unknown field `" ++ key ++ "`, expected one of `test_dummy`, `csv`, `segwit`" := by
  refine ⟨?_, ?_, ?_, ?_⟩
  · intro text p h
    obtain ⟨j, htext, hread⟩ := Form.readText_eq_ok_iff.mp h
    refine ⟨⟨j, htext⟩, ?_⟩
    intro j' htext'
    obtain rfl := htext.unique htext'
    exact explicit_of_read hread
  · exact message_missing
  · exact message_duplicate
  · exact message_unknown

/-- The members of an object. -/
def membersOf : Json → Json.Members
  | .obj members => members
  | _ => []

/-- A description of the regression test network without its name. -/
def nameless : Json := .obj (membersOf (form.write regtest)).tail

/-- A description of the regression test network that ends with another name. -/
def renamed : Json := .obj (membersOf (form.write regtest) ++ [(some "name", oddity)])

/-- A description of the regression test network whose deployment table starts with a slot
that nobody knows. -/
def extended : Json :=
  .obj ((membersOf (form.write regtest)).map fun (key, value) =>
    if key = some "deployments" then (key, .obj ((some "taproot", .null) :: membersOf value))
    else (key, value))

theorem regtest_explicit :
    form.readText (Config.render regtest) = .ok regtest ∧
    form.readText nameless.compact = .error (.data (.missing "name")) ∧
    form.readText renamed.compact = .error (.data (.duplicate "name")) ∧
    form.readText extended.compact =
      .error (.data (.unknownField "taproot" DeploymentTable.keys)) := by
  have hvalid : regtest.validate = .ok () := by rfl
  have hread := (Config.parse_eq_ok_iff.mp (Config.parse_render_of_valid hvalid)).1
  obtain ⟨hexplicit, -⟩ := readText_explicit
  have htext := Json.spells_write Json.Style.blank_indented (form.write regtest)
  have h := (hexplicit _ _ hread).2 _ htext
  have hname : schema.HasField [] "name" := ⟨_, _, _, rfl, by decide⟩
  have hdrops : Json.Drops [] "name" (form.write regtest) nameless := ⟨[], _, _, .here⟩
  have hrepeats : Json.Repeats [] "name" (form.write regtest) renamed :=
    ⟨membersOf (form.write regtest), oddity, [], .head _, .here⟩
  have hadds : Json.Adds [.field "deployments"] "taproot" (form.write regtest) extended :=
    ⟨[], .null, _, .field ((membersOf (form.write regtest)).take 21) "deployments"
      ((membersOf (form.write regtest)).drop 22) .here⟩
  have hspells (j : Json) : Spells j.compact j := Json.spells_write Json.Style.blank_compact j
  refine ⟨hread, ?_, ?_, ?_⟩
  · exact h.missing _ _ _ hname (by decide) hdrops _ (hspells nameless)
  · exact h.duplicate _ _ _ hname hrepeats _ (hspells renamed)
  · exact h.unknown _ _ _ rfl (by decide) hadds _ (hspells extended)

end ParameterSet

end ChainParams

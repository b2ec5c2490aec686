import ChainParams.Registry.Identify
import ChainParams.Proofs.ParameterSet.Validate
import ChainParams.Proofs.Registry.Consistent

/-!
# Registering a network

Whether a network is registered is decided by its magic first and by its laws
after that; the header of its first block does not matter.  A network that is
refused leaves the registry as it was, and one that is registered changes the
answers to its own magic, address identifiers and key version only.
-/

namespace ChainParams

/-- What is read from a text is sound. -/
theorem Config.validate_of_parse {text : String} {p : ParameterSet} (h : parse text = .ok p) :
    p.validate = .ok () := (parse_eq_ok_iff.mp h).2

namespace Registry

variable {r : Registry} {p : ParameterSet}

/-! ## The first block -/

/-- The first block of a network does not decide whether it is registered, and
no table knows it. -/
theorem register_withGenesis (r : Registry) (p : ParameterSet) (genesis : Genesis) :
    r.register { p with genesis } = (r.register p).map fun r' =>
      { r' with networks := r.networks ++ [{ p with genesis }] } := by
  have hvalid : ({ p with genesis } : ParameterSet).validate = p.validate := rfl
  rw [register, register, hvalid]
  dsimp only
  cases r.isRegistered p.magic with
  | true => rfl
  | false => cases p.validate <;> rfl

/-! ## Versions of extended keys -/

/-- Versions of four bytes are looked up. -/
theorem hdPublicId_toList (r : Registry) (key : Vector UInt8 4) :
    r.hdPublicId key.toList =
      match r.indices.hdPublicIds.get? key with
      | some publicId => .ok publicId
      | none => .error ⟨key.toList⟩ := by
  rw [hdPublicId, dif_pos (Vector.length_toList ..)]
  rfl

/-- Nothing else is. -/
theorem hdPublicId_of_length_ne (r : Registry) {id : List UInt8} (h : id.length ≠ 4) :
    r.hdPublicId id = .error ⟨id⟩ := by
  rw [hdPublicId, dif_neg h]

theorem exists_toList_eq {id : List UInt8} (h : id.length = 4) :
    ∃ key : Vector UInt8 4, key.toList = id :=
  ⟨⟨id.toArray, h⟩, rfl⟩

/-! ## What a new network changes -/

/-- `r'` is `r` with a network behind the others.  Each table has changed at the
entry of this network only, and every question that is not about it is answered
as before. -/
structure Adds (r : Registry) (p : ParameterSet) (r' : Registry) : Prop where
  networks : r'.networks = r.networks ++ [p]
  own : r'.byMagic? p.magic = some p ∧ r'.isPubKeyHashId p.pubKeyHashId ∧
    r'.isScriptHashId p.scriptHashId ∧ r'.indices.bech32Starts.contains p.bech32Start ∧
    r'.hdPublicId p.hdPrivateKeyId.toList = .ok p.hdPublicKeyId
  positions : ∀ m, m ≠ p.magic → r'.indices.byMagic.get? m = r.indices.byMagic.get? m
  pubKeyHashIds : ∀ id, id ≠ p.pubKeyHashId → r'.isPubKeyHashId id = r.isPubKeyHashId id
  scriptHashIds : ∀ id, id ≠ p.scriptHashId → r'.isScriptHashId id = r.isScriptHashId id
  bech32Starts : ∀ start, start ≠ p.bech32Start →
    r'.indices.bech32Starts.contains start = r.indices.bech32Starts.contains start
  hdPublicIds : ∀ key, key ≠ p.hdPrivateKeyId →
    r'.indices.hdPublicIds.get? key = r.indices.hdPublicIds.get? key
  byMagic : ∀ m, m ≠ p.magic → r'.byMagic? m = r.byMagic? m
  isBech32Start : ∀ text, Text.lowercase text ≠ p.bech32Start →
    r'.isBech32Start text = r.isBech32Start text
  hdPublicId : ∀ id, id ≠ p.hdPrivateKeyId.toList → r'.hdPublicId id = r.hdPublicId id

theorem Consistent.adds_push (h : r.Consistent) (hp : r.Admits p) : r.Adds p (r.push p) where
  networks := rfl
  own := by
    have hposition : (r.push p).indices.byMagic.get? p.magic = some r.networks.length :=
      Table.get?_insert_self _ _ _
    have hpublic : (r.push p).indices.hdPublicIds.get? p.hdPrivateKeyId = some p.hdPublicKeyId :=
      Table.get?_insert_self _ _ _
    refine ⟨?_, ?_, ?_, ?_, ?_⟩
    · rw [byMagic?, hposition]
      exact List.getElem?_concat_length
    · exact (Table.contains_insert ..).mpr (.inl rfl)
    · exact (Table.contains_insert ..).mpr (.inl rfl)
    · exact (Table.contains_insert ..).mpr (.inl rfl)
    · rw [hdPublicId_toList, hpublic]
  positions := fun m hm => Table.get?_insert_of_ne _ hm _
  pubKeyHashIds := fun id hid => congrArg Option.isSome (Table.get?_insert_of_ne _ hid _)
  scriptHashIds := fun id hid => congrArg Option.isSome (Table.get?_insert_of_ne _ hid _)
  bech32Starts := fun start hstart => congrArg Option.isSome (Table.get?_insert_of_ne _ hstart _)
  hdPublicIds := fun key hkey => Table.get?_insert_of_ne _ hkey _
  byMagic := by
    intro m hm
    have hlast : ¬ p.magic = m := Ne.symm hm
    rw [(h.push hp).byMagic?_eq_find?, h.byMagic?_eq_find?]
    simp [Registry.push, List.find?_append, hlast]
  isBech32Start := fun text htext => congrArg Option.isSome (Table.get?_insert_of_ne _ htext _)
  hdPublicId := by
    intro id hid
    -- The table is keyed by versions of four bytes; all others are refused by both registries.
    by_cases hlength : id.length = 4
    · obtain ⟨key, rfl⟩ := exists_toList_eq hlength
      have hkey : key ≠ p.hdPrivateKeyId := fun heq => hid (congrArg Vector.toList heq)
      have hget : (r.push p).indices.hdPublicIds.get? key = r.indices.hdPublicIds.get? key :=
        Table.get?_insert_of_ne _ hkey _
      rw [hdPublicId_toList, hdPublicId_toList, hget]
    · rw [hdPublicId_of_length_ne _ hlength, hdPublicId_of_length_ne _ hlength]

/-! ## Registering -/

/-- In every reachable registry: a set is refused as a duplicate exactly if a
network has its magic, whatever else is wrong with it, and otherwise for its
first broken law, which a set from a configuration file does not have.  A
refusal changes nothing; a new network changes the answers to what is its own.
Its first block has no say in any of this. -/
theorem Reachable.register_decides (h : r.Reachable) (p : ParameterSet) :
    (r.register p = .error (.duplicate p.name p.magic) ↔ ∃ n ∈ r.networks, n.magic = p.magic) ∧
    (∀ flaw, r.register p = .error (.invalid p.name flaw) ↔
      (∀ n ∈ r.networks, n.magic ≠ p.magic) ∧ p.validate = .error flaw) ∧
    (r.register p = .ok (r.push p) ↔
      (∀ n ∈ r.networks, n.magic ≠ p.magic) ∧ p.validate = .ok ()) ∧
    (∀ e, r.register p = .error e → r.attempt p = r) ∧
    (∀ r', r.register p = .ok r' → r.attempt p = r' ∧ r.Adds p r') ∧
    (∀ text, Config.parse text = .ok p →
      ∀ name flaw, r.register p ≠ .error (.invalid name flaw)) ∧
    (∀ genesis, r.register { p with genesis } = (r.register p).map fun r' =>
      { r' with networks := r.networks ++ [{ p with genesis }] }) := by
  have hr := h.consistent
  have hnew := hr.isRegistered_eq_false_iff p.magic
  refine ⟨?_, ?_, ?_, ?_, ?_, ?_, register_withGenesis r p⟩
  · rw [register_eq_duplicate_iff, hr.isRegistered_iff]
  · intro flaw
    rw [register_eq_invalid_iff, hnew, eq_self, true_and]
  · rw [register_eq_ok_iff, ← hnew]
    exact ⟨fun ⟨hp, _⟩ => ⟨hp.free, hp.valid⟩, fun ⟨hfree, hvalid⟩ => ⟨⟨hfree, hvalid⟩, rfl⟩⟩
  · exact fun e => attempt_of_register_error
  · intro r' hregister
    obtain ⟨hp, rfl⟩ := register_eq_ok_iff.mp hregister
    exact ⟨attempt_of_register_ok hregister, hr.adds_push hp⟩
  · intro text htext name flaw hregister
    obtain ⟨-, -, hflaw⟩ := register_eq_invalid_iff.mp hregister
    cases (Config.validate_of_parse htext).symm.trans hflaw

theorem mainnet_register_decides :
    known.register .mainnet =
      .error (.duplicate ParameterSet.mainnet.name ParameterSet.mainnet.magic) ∧
    known.attempt .mainnet = known ∧ empty.register .mainnet = .ok (empty.push .mainnet) := by
  have htaken := Reachable.register_decides .known .mainnet
  have hfree := Reachable.register_decides .empty .mainnet
  have hmem : ParameterSet.mainnet ∈ known.networks := known_networks ▸ List.mem_cons_self ..
  have hduplicate := htaken.1.mpr ⟨.mainnet, hmem, rfl⟩
  refine ⟨hduplicate, htaken.2.2.2.1 _ hduplicate, hfree.2.2.1.mpr ⟨?_, rfl⟩⟩
  intro n hn
  cases hn

end Registry

end ChainParams

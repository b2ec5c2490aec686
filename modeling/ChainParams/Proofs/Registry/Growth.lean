import ChainParams.Proofs.Registry.Versions

/-!
# Answers that stay

Networks are only ever added, so a later registry knows at least what an earlier
one knew.  What a new network does to an answer depends on the question: a magic is
never given twice, of several networks with one name the first counts, and of
several with one extended-key version the last.  So the answers to the first two
questions stay as they are, an answer to the third may be replaced but is never
withdrawn, and yes stays yes (`Extends`).  One new network is the step
(`Adds.extends`), and the steps of a run are put together one behind another
(`Extends.trans`).
-/

namespace ChainParams

/-- A kind is below the kinds that a byte can have once more networks use it. -/
instance : LE AddressIdKind := ⟨fun a b => a = b ∨ a = .unknown ∨ b = .ambiguous⟩

instance : DecidableLE AddressIdKind := fun a b =>
  inferInstanceAs (Decidable (a = b ∨ a = .unknown ∨ b = .ambiguous))

theorem AddressIdKind.ofAnswers_le_ofAnswers {a b a' b' : Bool} (ha : a = true → a' = true)
    (hb : b = true → b' = true) : ofAnswers a b ≤ ofAnswers a' b' := by
  revert a b a' b'
  decide

namespace Registry

/-- What `r` answers is still answered by `r'`, which has the networks `more` behind
those of `r`.  The public version that belongs to a key version is the only answer
that may be another one, and it is then that of a new network. -/
structure Extends (r : Registry) (more : List ParameterSet) (r' : Registry) : Prop where
  networks : r'.networks = r.networks ++ more
  positions : ∀ m i, r.indices.byMagic.get? m = some i → r'.indices.byMagic.get? m = some i
  byMagic : ∀ m n, r.byMagic? m = some n → r'.byMagic? m = some n
  byName : ∀ name n, r.byName? name = some n → r'.byName? name = some n
  pubKeyHashIds : ∀ id, r.isPubKeyHashId id = true → r'.isPubKeyHashId id = true
  scriptHashIds : ∀ id, r.isScriptHashId id = true → r'.isScriptHashId id = true
  bech32Starts : ∀ text, r.isBech32Start text = true → r'.isBech32Start text = true
  hdPublicIds : ∀ id q, r.hdPublicId id = .ok q →
    ∃ q', r'.hdPublicId id = .ok q' ∧
      (q' = q ∨ ∃ n ∈ more, n.hdPrivateKeyId.toList = id ∧ n.hdPublicKeyId = q')

variable {r r' r'' : Registry} {p : ParameterSet} {more later : List ParameterSet}

theorem Extends.refl (r : Registry) : r.Extends [] r where
  networks := (List.append_nil _).symm
  positions := fun _ _ h => h
  byMagic := fun _ _ h => h
  byName := fun _ _ h => h
  pubKeyHashIds := fun _ h => h
  scriptHashIds := fun _ h => h
  bech32Starts := fun _ h => h
  hdPublicIds := fun _ q h => ⟨q, h, .inl rfl⟩

theorem Extends.trans (h : r.Extends more r') (h' : r'.Extends later r'') :
    r.Extends (more ++ later) r'' where
  networks := by rw [h'.networks, h.networks, List.append_assoc]
  positions := fun m i hi => h'.positions m i (h.positions m i hi)
  byMagic := fun m n hn => h'.byMagic m n (h.byMagic m n hn)
  byName := fun name n hn => h'.byName name n (h.byName name n hn)
  pubKeyHashIds := fun id hid => h'.pubKeyHashIds id (h.pubKeyHashIds id hid)
  scriptHashIds := fun id hid => h'.scriptHashIds id (h.scriptHashIds id hid)
  bech32Starts := fun text htext => h'.bech32Starts text (h.bech32Starts text htext)
  hdPublicIds := by
    intro id q hq
    obtain ⟨q', hq', hnew⟩ := h.hdPublicIds id q hq
    obtain ⟨q'', hq'', hnewer⟩ := h'.hdPublicIds id q' hq'
    refine ⟨q'', hq'', ?_⟩
    rcases hnewer with rfl | ⟨n, hn, hid, hpublic⟩
    · rcases hnew with rfl | ⟨n, hn, hid, hpublic⟩
      · exact .inl rfl
      · exact .inr ⟨n, List.mem_append_left _ hn, hid, hpublic⟩
    · exact .inr ⟨n, List.mem_append_right _ hn, hid, hpublic⟩

/-! ## One network more -/

theorem ne_of_get?_byMagic (hfree : r.isRegistered p.magic = false) {m : Magic} {i : Nat}
    (hi : r.indices.byMagic.get? m = some i) : m ≠ p.magic := by
  rintro rfl
  rw [isRegistered, Table.contains, hi] at hfree
  cases hfree

theorem Adds.extends (h : r.Adds p r') (hfree : r.isRegistered p.magic = false) :
    r.Extends [p] r' where
  networks := h.networks
  positions := by
    intro m i hi
    rw [h.positions m (ne_of_get?_byMagic hfree hi)]
    exact hi
  byMagic := by
    intro m n hn
    obtain ⟨i, hi, -⟩ := Option.bind_eq_some_iff.mp hn
    rw [h.byMagic m (ne_of_get?_byMagic hfree hi)]
    exact hn
  byName := by
    intro name n hn
    rw [byName?] at hn
    rw [byName?, h.networks, List.find?_append, hn, Option.some_or]
  pubKeyHashIds := by
    intro id hid
    by_cases hown : id = p.pubKeyHashId
    · rw [hown]
      exact h.own.2.1
    · rw [h.pubKeyHashIds id hown]
      exact hid
  scriptHashIds := by
    intro id hid
    by_cases hown : id = p.scriptHashId
    · rw [hown]
      exact h.own.2.2.1
    · rw [h.scriptHashIds id hown]
      exact hid
  bech32Starts := by
    intro text htext
    by_cases hown : Text.lowercase text = p.bech32Start
    · rw [Registry.isBech32Start, hown]
      exact h.own.2.2.2.1
    · rw [h.isBech32Start text hown]
      exact htext
  hdPublicIds := by
    intro id q hq
    by_cases hown : id = p.hdPrivateKeyId.toList
    · -- The new network has the version, and the last one with it decides.
      refine ⟨p.hdPublicKeyId, ?_, .inr ⟨p, List.mem_singleton_self p, hown.symm, rfl⟩⟩
      rw [hown]
      exact h.own.2.2.2.2
    · refine ⟨q, ?_, .inl rfl⟩
      rw [h.hdPublicId id hown]
      exact hq

/-! ## Runs -/

theorem admits_of_added? {c : Call} (h : r.added? c = some p) : r.Admits p := by
  obtain ⟨-, hregister⟩ := Option.filter_eq_some_iff.mp h
  cases hresult : r.register p with
  | ok _ => exact (register_eq_ok_iff.mp hresult).1
  | error _ =>
      rw [hresult] at hregister
      cases hregister

theorem Reachable.extends_call (h : r.Reachable) (c : Call) :
    r.Extends (r.added? c).toList (r.call c) := by
  rcases call_cases r c with ⟨p, hadded, hcall, -⟩ | ⟨hadded, hcall⟩
  · have hp := admits_of_added? hadded
    rw [hadded, hcall]
    exact (h.consistent.adds_push hp).extends hp.free
  · rw [hadded, hcall]
    exact Extends.refl r

theorem Reachable.extends_run (h : r.Reachable) (calls : List Call) :
    r.Extends (r.added calls) (r.run calls) := by
  induction calls generalizing r with
  | nil => exact Extends.refl r
  | cons c calls ih => exact (h.extends_call c).trans (ih (h.call c))

/-- Whatever is called on a reachable registry, successful or not, its networks stay
in front in their order.  What stood at a position, under a magic or under a name
stands there afterwards, every yes stays a yes, a version of extended private keys
that was known is known, with the same public version or that of a network which
came in, and the kind of a byte does not go down. -/
theorem Reachable.run_keeps_answers (h : r.Reachable) (calls : List Call) :
    r.networks <+: (r.run calls).networks ∧
    (∀ (i : Nat) n, r.networks[i]? = some n → (r.run calls).networks[i]? = some n) ∧
    (∀ m i, r.indices.byMagic.get? m = some i →
      (r.run calls).indices.byMagic.get? m = some i) ∧
    (∀ m n, r.byMagic? m = some n → (r.run calls).byMagic? m = some n) ∧
    (∀ name n, r.byName? name = some n → (r.run calls).byName? name = some n) ∧
    (∀ id, r.isPubKeyHashId id = true → (r.run calls).isPubKeyHashId id = true) ∧
    (∀ id, r.isScriptHashId id = true → (r.run calls).isScriptHashId id = true) ∧
    (∀ text, r.isBech32Start text = true → (r.run calls).isBech32Start text = true) ∧
    (∀ id q, r.hdPublicId id = .ok q → ∃ q', (r.run calls).hdPublicId id = .ok q' ∧
      (q' = q ∨ ∃ n ∈ r.added calls, n.hdPrivateKeyId.toList = id ∧ n.hdPublicKeyId = q')) ∧
    ∀ id, r.classify id ≤ (r.run calls).classify id := by
  have hrun := h.extends_run calls
  have hstart : r.networks <+: (r.run calls).networks := ⟨_, hrun.networks.symm⟩
  refine ⟨hstart, ?_, hrun.positions, hrun.byMagic, hrun.byName, hrun.pubKeyHashIds,
    hrun.scriptHashIds, hrun.bech32Starts, hrun.hdPublicIds, ?_⟩
  · intro i n hn
    obtain ⟨hi, rfl⟩ := List.getElem?_eq_some_iff.mp hn
    exact List.prefix_iff_getElem?.mp hstart i hi
  · intro id
    exact AddressIdKind.ofAnswers_le_ofAnswers (hrun.pubKeyHashIds id) (hrun.scriptHashIds id)

/-- A network with the name of the main network, whose script-hash addresses start
like the key-hash addresses of that, and with the extended-key version of the test
networks. -/
def latecomer : ParameterSet :=
  { ParameterSet.regtest with
    name := "mainnet", magic := ⟨0x6c617465⟩, scriptHashId := 0x4c
    hdPublicKeyId := #v[0x01, 0x02, 0x03, 0x04] }

/-- The latecomer takes neither the name nor the byte away from the main network, and
the version of the test networks is still known. -/
theorem latecomer_keeps_answers :
    (known.run [.set .testnet3, .set latecomer]).networks = known.networks ++ [latecomer] ∧
    (known.run [.set .testnet3, .set latecomer]).byName? "mainnet" = some .mainnet ∧
    known.classify 0x4c = .pubKeyHash ∧
    (known.run [.set .testnet3, .set latecomer]).classify 0x4c = .ambiguous ∧
    known.classify 0x4c ≤ (known.run [.set .testnet3, .set latecomer]).classify 0x4c ∧
    known.hdPublicId [0x04, 0x35, 0x83, 0x94] = .ok #v[0x04, 0x35, 0x87, 0xcf] ∧
    ∃ q, (known.run [.set .testnet3, .set latecomer]).hdPublicId [0x04, 0x35, 0x83, 0x94] =
      .ok q := by
  have hnetworks := networks_run known [.set .testnet3, .set latecomer]
  have hadded : known.added [.set .testnet3, .set latecomer] = [latecomer] := rfl
  rw [hadded] at hnetworks
  obtain ⟨-, -, -, -, hname, -, -, -, hversion, hkind⟩ :=
    Reachable.run_keeps_answers .known [.set .testnet3, .set latecomer]
  have hlast : IsLastWith [0x04, 0x35, 0x83, 0x94] .regtest known.networks := by
    rw [known_networks]
    refine ⟨rfl, [.mainnet, .testnet3], [], rfl, ?_⟩
    exact List.forall_mem_nil _
  have hbefore := (Reachable.known.consistent.hdPublicId_eq_ok_iff _ _).mpr
    ⟨rfl, .regtest, hlast, rfl⟩
  obtain ⟨q, hafter, -⟩ := hversion _ _ hbefore
  exact ⟨hnetworks, hname "mainnet" .mainnet rfl, rfl, rfl, hkind 0x4c, hbefore, q, hafter⟩

end Registry

end ChainParams

import ChainParams.Proofs.Registry.Bech32
import ChainParams.Proofs.Registry.Run

/-!
# Answers are those of a scan

The questions about address identifiers are answered from tables that grow while
networks of all kinds come and go unregistered, and entries of different networks
coincide.  In every reachable registry the answers are nevertheless those of a
search through the registered networks, and of nothing else.
-/

namespace ChainParams

/-- What a kind says: whether the byte starts the key-hash addresses of a network,
and whether it starts the script-hash addresses of one. -/
def AddressIdKind.Says (isPubKeyHash isScriptHash : Prop) : AddressIdKind → Prop
  | .ambiguous => isPubKeyHash ∧ isScriptHash
  | .pubKeyHash => isPubKeyHash ∧ ¬ isScriptHash
  | .scriptHash => ¬ isPubKeyHash ∧ isScriptHash
  | .unknown => ¬ isPubKeyHash ∧ ¬ isScriptHash

/-- Two answers have exactly one kind. -/
theorem AddressIdKind.ofAnswers_eq_iff (isPubKeyHash isScriptHash : Bool) (kind : AddressIdKind) :
    ofAnswers isPubKeyHash isScriptHash = kind ↔
      kind.Says (isPubKeyHash = true) (isScriptHash = true) := by
  cases isPubKeyHash <;> cases isScriptHash <;> cases kind <;> simp [ofAnswers, Says]

namespace Registry

theorem Consistent.isPubKeyHashId_iff {r : Registry} (h : r.Consistent) (id : UInt8) :
    r.isPubKeyHashId id = true ↔ ∃ n ∈ r.networks, n.pubKeyHashId = id := by
  rw [isPubKeyHashId, h.indices_eq]
  exact Indices.contains_ofNetworks (·.pubKeyHashIds) (·.pubKeyHashId) (fun _ _ => ()) rfl
    (fun _ _ _ => rfl) r.networks id

theorem Consistent.isScriptHashId_iff {r : Registry} (h : r.Consistent) (id : UInt8) :
    r.isScriptHashId id = true ↔ ∃ n ∈ r.networks, n.scriptHashId = id := by
  rw [isScriptHashId, h.indices_eq]
  exact Indices.contains_ofNetworks (·.scriptHashIds) (·.scriptHashId) (fun _ _ => ()) rfl
    (fun _ _ _ => rfl) r.networks id

/-- In every reachable registry the questions about the starts of addresses are
answered by the registered networks: a byte or a text is known exactly if it is
that of a network, and the two answers for a byte, which may come from different
networks, make its kind.  Whatever calls come next, the networks whose
registration fails can be left out, so that no answer depends on them. -/
theorem Reachable.answers_scan {r : Registry} (h : r.Reachable) :
    (∀ id, r.isPubKeyHashId id = true ↔ ∃ n ∈ r.networks, n.pubKeyHashId = id) ∧
    (∀ id, r.isScriptHashId id = true ↔ ∃ n ∈ r.networks, n.scriptHashId = id) ∧
    (∀ id kind, r.classify id = kind ↔
      kind.Says (∃ n ∈ r.networks, n.pubKeyHashId = id) (∃ n ∈ r.networks, n.scriptHashId = id)) ∧
    (∀ text, r.isBech32Start text = true ↔
      ∃ n ∈ r.networks, n.bech32Start = Text.lowercase text) ∧
    (∀ calls, (r.run calls).networks = r.networks ++ r.added calls ∧
      r.run calls = (r.added calls).foldl Registry.attempt r) := by
  have hr := h.consistent
  refine ⟨hr.isPubKeyHashId_iff, hr.isScriptHashId_iff, ?_, ?_, ?_⟩
  · intro id kind
    rw [classify, AddressIdKind.ofAnswers_eq_iff, hr.isPubKeyHashId_iff, hr.isScriptHashId_iff]
  · intro text
    rw [isBech32Start, hr.contains_bech32Starts_iff]
  · intro calls
    exact ⟨networks_run r calls, run_eq_foldl_added r calls⟩

/-- A network whose script-hash addresses start like the key-hash addresses of the
main network. -/
def overlapping : ParameterSet :=
  { ParameterSet.regtest with magic := ⟨0x01020304⟩, scriptHashId := 0x4c }

/-- The byte means key hashes to one network and script hashes to another, and the
attempt that fails in between does not matter.  Capitals do not matter at the start of an
address, but the separator does. -/
theorem overlapping_answers_scan :
    (known.run [.set .testnet3, .set overlapping]).Reachable ∧
    (known.run [.set .testnet3, .set overlapping]).networks = known.networks ++ [overlapping] ∧
    (known.run [.set .testnet3, .set overlapping]).classify 0x4c = .ambiguous ∧
    (known.run [.set .testnet3, .set overlapping]).isBech32Start "BC1" = true ∧
    (known.run [.set .testnet3, .set overlapping]).isBech32Start "BC" = false := by
  have hreachable : (known.run [.set .testnet3, .set overlapping]).Reachable :=
    Reachable.known.run _
  have hstart := (Reachable.answers_scan .known).2.2.2.2 [.set .testnet3, .set overlapping]
  have hadded : known.added [.set .testnet3, .set overlapping] = [overlapping] := rfl
  rw [hadded] at hstart
  have hmainnet : ParameterSet.mainnet ∈ known.networks ++ [overlapping] :=
    List.mem_append_left _ (known_networks ▸ List.mem_cons_self ..)
  obtain ⟨-, -, hkind, hbech32, -⟩ := Reachable.answers_scan hreachable
  rw [hstart.1] at hkind hbech32
  refine ⟨hreachable, hstart.1, (hkind 0x4c .ambiguous).mpr ?_, (hbech32 "BC1").mpr ?_, ?_⟩
  · exact ⟨⟨.mainnet, hmainnet, rfl⟩,
      ⟨overlapping, List.mem_append_right _ (List.mem_singleton_self _), rfl⟩⟩
  · have hlower : ParameterSet.mainnet.bech32Start = Text.lowercase "BC1" := by decide +kernel
    exact ⟨.mainnet, hmainnet, hlower⟩
  · have hnone : ∀ n ∈ known.networks ++ [overlapping],
        n.bech32Start ≠ Text.lowercase "BC" := by decide +kernel
    rw [Bool.eq_false_iff]
    intro hstarts
    obtain ⟨n, hn, hlower⟩ := (hbech32 "BC").mp hstarts
    exact hnone n hn hlower

end Registry

end ChainParams

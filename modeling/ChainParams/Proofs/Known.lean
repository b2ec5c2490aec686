import ChainParams.Proofs.Registry.Reachable

/-!
# The known networks and what they are called

A text calls a known network by six names.  The name that a network has itself is
one of them, so a text that calls no known network is not the name of one either.
None of the known networks is refused when they are registered, and the headers of
their first blocks are right (`foldlM_registerAnchored_known`).
-/

namespace ChainParams

namespace KnownNetwork

/-- The names of known networks, in small letters. -/
def callNames : List String := ["mainnet", "main", "regtest", "testnet3", "testnet", "test"]

theorem ofName?_eq_none_iff (name : String) : ofName? name = none ↔ name ∉ callNames := by
  simp only [callNames, List.mem_cons, List.not_mem_nil, or_false]
  unfold ofName?
  grind

theorem ofText?_eq_none_iff (text : String) :
    ofText? text = none ↔ Text.asciiLowercase (Text.trim text) ∉ callNames :=
  ofName?_eq_none_iff _

theorem exists_ofText?_eq_some {text : String}
    (h : Text.asciiLowercase (Text.trim text) ∈ callNames) :
    ∃ network, ofText? text = some network := by
  apply Option.ne_none_iff_exists'.mp
  intro hnone
  exact (ofText?_eq_none_iff text).mp hnone h

theorem ofText?_name (network : KnownNetwork) : ofText? network.name = some network := by
  cases network <;> decide +kernel

theorem params_name (network : KnownNetwork) : network.params.name = network.name := by
  cases network <;> rfl

/-- The headers of the known networks give the digests that are kept with them. -/
theorem verifyGenesis_params (network : KnownNetwork) :
    network.params.verifyGenesis = .ok () := by
  have hdigest : network.params.genesis.header.digest = network.params.genesis.headerDigest := by
    cases network <;> decide +kernel
  exact if_pos hdigest

end KnownNetwork

namespace Registry

theorem known_byName?_name (network : KnownNetwork) :
    known.byName? network.name = some network.params := by
  cases network <;> rfl

theorem known_byName?_eq_none {name : String} (h : KnownNetwork.ofText? name = none) :
    known.byName? name = none := by
  rw [byName?, known_networks, List.find?_eq_none]
  intro n hn hname
  obtain ⟨network, -, rfl⟩ := List.mem_map.mp hn
  have hname : network.name = name := by simpa [KnownNetwork.params_name] using hname
  rw [← hname, KnownNetwork.ofText?_name] at h
  cases h

theorem foldlM_registerAnchored_cons {r : Registry} {network : KnownNetwork}
    (h : r.Admits network.params) (networks : List KnownNetwork) :
    ((network :: networks).map KnownNetwork.params).foldlM registerAnchored r =
      (networks.map KnownNetwork.params).foldlM registerAnchored (r.push network.params) := by
  have hstep : r.registerAnchored network.params = .ok (r.push network.params) := by
    rw [registerAnchored, network.verifyGenesis_params, register_eq_ok_iff.mpr ⟨h, rfl⟩]
  rw [List.map_cons, List.foldlM_cons, hstep]
  rfl

/-- The known networks are registered one after the other without a refusal, although the
headers of their first blocks are hashed. -/
theorem foldlM_registerAnchored_known :
    (KnownNetwork.all.map KnownNetwork.params).foldlM registerAnchored empty = .ok known := by
  rw [KnownNetwork.all, foldlM_registerAnchored_cons ⟨rfl, rfl⟩,
    foldlM_registerAnchored_cons ⟨rfl, rfl⟩, foldlM_registerAnchored_cons ⟨rfl, rfl⟩]
  rfl

/-- A new network is found by its name only if no older one has this name. -/
theorem byName?_push (r : Registry) (p : ParameterSet) (name : String) :
    (r.push p).byName? name =
      (r.byName? name).or (if p.name = name then some p else none) := by
  rw [byName?, push, List.find?_append, byName?, List.find?_singleton]
  by_cases h : p.name = name <;> simp [h]

end Registry

end ChainParams

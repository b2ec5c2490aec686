import ChainParams.Proofs.ParameterSet.AddressStart
import ChainParams.Proofs.ParameterSet.Sound
import ChainParams.Proofs.Registry.Bech32
import ChainParams.Proofs.Registry.Run

/-!
# Registered networks are sound

Whatever calls lead to a registry, every network in it has passed validation, and
so it obeys all the laws of a sound parameter set.  The table of the starts of
bech32 addresses holds nothing but texts that have the form of one.
-/

namespace ChainParams.Registry

theorem Consistent.isAddressStart {r : Registry} (h : r.Consistent) {start : String}
    (hstart : r.indices.bech32Starts.contains start = true) : IsAddressStart start := by
  obtain ⟨n, hn, rfl⟩ := (h.contains_bech32Starts_iff start).mp hstart
  have hvalid := h.valid n hn
  rw [(bech32Start_of_valid hvalid).2]
  exact isAddressStart_asciiLowercase (ParameterSet.isHumanReadablePart_of_validate hvalid)

/-- In every reachable registry all networks are sound, and every entry of the
table of address starts has the form of one. -/
theorem Reachable.all_sound {r : Registry} (h : r.Reachable) :
    (∀ n ∈ r.networks, n.Sound) ∧
    ∀ start, r.indices.bech32Starts.contains start = true → IsAddressStart start := by
  have hr := h.consistent
  refine ⟨?_, ?_⟩
  · intro n hn
    exact ParameterSet.sound_of_validate (hr.valid n hn)
  · intro start hstart
    exact hr.isAddressStart hstart

/-- A network whose human-readable part is written in capitals. -/
def shouting : ParameterSet :=
  { ParameterSet.regtest with magic := ⟨0x53484f55⟩, humanReadablePart := "DASH" }

/-- The capitals are gone from the start of its addresses. -/
theorem shouting_all_sound :
    (known.run [.set .testnet3, .set shouting]).Reachable ∧
    (known.run [.set .testnet3, .set shouting]).networks = known.networks ++ [shouting] ∧
    shouting.Sound ∧ IsAddressStart "dash1" := by
  have hreachable : (known.run [.set .testnet3, .set shouting]).Reachable :=
    Reachable.known.run _
  have hnetworks := networks_run known [.set .testnet3, .set shouting]
  have hadded : known.added [.set .testnet3, .set shouting] = [shouting] := rfl
  have hstart : (known.run [.set .testnet3, .set shouting]).indices.bech32Starts.contains
      "dash1" = true := by decide +kernel
  obtain ⟨hsound, hstarts⟩ := Reachable.all_sound hreachable
  rw [hadded] at hnetworks
  rw [hnetworks] at hsound
  exact ⟨hreachable, hnetworks, hsound _ (List.mem_append_right _ (List.mem_singleton_self _)),
    hstarts _ hstart⟩

end ChainParams.Registry

import ChainParams.Proofs.Config.RoundTrip
import ChainParams.Proofs.Registry.Consistent
import ChainParams.Proofs.Registry.Run
import Mathlib.Data.List.Induction

/-!
# Registries are rebuilt from descriptions

A registry can be written down as the texts that describe its networks.  When
these are registered one after another, from nothing, each text is read back as
the network that it describes, which breaks no law and has a magic of its own, so
every step succeeds (`Compatible.register_last`).  At the end there are the same
networks in the same order, and the tables of a reachable registry are those of
its networks, whatever calls it came from (`Consistent.ext`).
-/

namespace ChainParams.Registry

/-- The calls that register networks from the texts that describe them. -/
def descriptions (networks : List ParameterSet) : List Call :=
  networks.map fun n => .text (Config.render n)

theorem Consistent.ext {r r' : Registry} (h : r.Consistent) (h' : r'.Consistent)
    (hnetworks : r.networks = r'.networks) : r = r' := by
  obtain ⟨networks, indices⟩ := r
  obtain ⟨networks', indices'⟩ := r'
  have hindices : indices = .ofNetworks networks := h.indices_eq
  have hindices' : indices' = .ofNetworks networks' := h'.indices_eq
  have hnetworks : networks = networks' := hnetworks
  rw [hindices, hindices', hnetworks]

/-! ## Networks that go together -/

/-- Networks that can be registered side by side. -/
structure Compatible (networks : List ParameterSet) : Prop where
  distinct : (networks.map (·.magic)).Nodup
  valid : ∀ n ∈ networks, n.validate = .ok ()

theorem Consistent.compatible {r : Registry} (h : r.Consistent) : Compatible r.networks :=
  ⟨h.distinct, h.valid⟩

section

variable {networks few : List ParameterSet} {n : ParameterSet}

theorem Compatible.sublist (h : Compatible networks) (hfew : few.Sublist networks) :
    Compatible few :=
  ⟨h.distinct.sublist (hfew.map _), fun n hn => h.valid n (hfew.subset hn)⟩

theorem Compatible.valid_last (h : Compatible (networks ++ [n])) : n.validate = .ok () :=
  h.valid n (List.mem_append_right _ (List.mem_singleton_self n))

theorem Compatible.admits_last (h : Compatible (networks ++ [n])) {r : Registry}
    (hr : r.Consistent) (hnetworks : r.networks = networks) : r.Admits n := by
  have hdistinct := h.distinct
  rw [List.map_append, List.nodup_append] at hdistinct
  refine ⟨(hr.isRegistered_eq_false_iff n.magic).mpr ?_, h.valid_last⟩
  intro m hm
  rw [hnetworks] at hm
  exact hdistinct.2.2 _ (List.mem_map_of_mem hm) _ (List.mem_singleton_self _)

/-! ## One description after another -/

/-- Behind the networks before it, the last of compatible networks is registered
from its description. -/
theorem Compatible.register_last (h : Compatible (networks ++ [n]))
    (hnetworks : (empty.run (descriptions networks)).networks = networks) :
    (empty.run (descriptions networks)).register n =
        .ok ((empty.run (descriptions networks)).push n) ∧
      empty.run (descriptions (networks ++ [n])) =
        (empty.run (descriptions networks)).push n := by
  have hreachable : (empty.run (descriptions networks)).Reachable := Reachable.empty.run _
  have hadmits := h.admits_last hreachable.consistent hnetworks
  have hregister := register_eq_ok_iff.mpr ⟨hadmits, rfl⟩
  have hoffer : (Call.text (Config.render n)).offer? = some n := by
    rw [Call.offer?, Config.parse_render_of_valid h.valid_last]
    rfl
  have hcall : (empty.run (descriptions networks)).call (.text (Config.render n)) =
      (empty.run (descriptions networks)).push n := by
    rw [call, hoffer]
    exact attempt_of_register_ok hregister
  refine ⟨hregister, ?_⟩
  rw [descriptions, List.map_append, run, List.foldl_append]
  exact hcall

theorem Compatible.networks_run (h : Compatible networks) :
    (empty.run (descriptions networks)).networks = networks := by
  induction networks using List.reverseRecOn with
  | nil => rfl
  | append_singleton networks n ih =>
      have hbefore := ih (h.sublist (List.sublist_append_left networks [n]))
      rw [(h.register_last hbefore).2, push, hbefore]

end

/-- Every reachable registry is rebuilt, from nothing, by registering the texts that
describe its networks in their order: each text is read back as its network, the
registration of this network succeeds, and at the end there are the same networks
with the same tables, so that all answers are the same. -/
theorem Reachable.replay {r : Registry} (h : r.Reachable) :
    (∀ i n, r.networks[i]? = some n →
      Config.parse (Config.render n) = .ok n ∧
      (Registry.empty.run (descriptions (r.networks.take i))).register n =
        .ok (Registry.empty.run (descriptions (r.networks.take (i + 1))))) ∧
    Registry.empty.run (descriptions r.networks) = r := by
  have hr := h.consistent
  have htake (i : Nat) : Compatible (r.networks.take i) :=
    hr.compatible.sublist (List.take_sublist i r.networks)
  refine ⟨?_, ?_⟩
  · intro i n hn
    have hnext : r.networks.take (i + 1) = r.networks.take i ++ [n] := by
      rw [List.take_add_one, hn]
      rfl
    have hlast : Compatible (r.networks.take i ++ [n]) := hnext ▸ htake (i + 1)
    obtain ⟨hregister, hrun⟩ := hlast.register_last (htake i).networks_run
    refine ⟨Config.parse_render_of_valid hlast.valid_last, ?_⟩
    rw [hnext, hrun, hregister]
  · apply Consistent.ext (Reachable.empty.run _).consistent hr
    exact hr.compatible.networks_run

/-- A network with the extended-key version of the test networks. -/
def branch : ParameterSet :=
  { ParameterSet.regtest with
    name := "branch", magic := ⟨0x6272616e⟩, hdPublicKeyId := #v[0x0b, 0x0c, 0x0d, 0x0e] }

/-- The attempt that failed is not in the descriptions, and the branch, which decides
the version that the test networks share, comes last again. -/
theorem branch_replay :
    (known.run [.set .testnet3, .set branch]).Reachable ∧
    Config.parse (Config.render branch) = .ok branch ∧
    (empty.run (descriptions known.networks)).register branch =
      .ok (empty.run (descriptions (known.networks ++ [branch]))) ∧
    empty.run (descriptions (known.networks ++ [branch])) =
      known.run [.set .testnet3, .set branch] := by
  have hreachable : (known.run [.set .testnet3, .set branch]).Reachable :=
    Reachable.known.run _
  have hnetworks := networks_run known [.set .testnet3, .set branch]
  have hadded : known.added [.set .testnet3, .set branch] = [branch] := rfl
  obtain ⟨hsteps, hreplay⟩ := Reachable.replay hreachable
  rw [hnetworks, hadded] at hsteps hreplay
  obtain ⟨hparse, hregister⟩ := hsteps 3 branch rfl
  exact ⟨hreachable, hparse, hregister, hreplay⟩

end ChainParams.Registry

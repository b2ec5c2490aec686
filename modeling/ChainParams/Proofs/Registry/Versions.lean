import ChainParams.Proofs.Registry.Register
import ChainParams.Proofs.Registry.Run
import Mathlib.Data.List.Induction

/-!
# The last network decides an extended-key version

Networks may share the version of their extended private keys.  The table of
versions keeps one public version for each, and a later registration writes over
an earlier one, so the answer is that of the last network in the list which has
the version asked for.
-/

namespace ChainParams

/-- Whether `n` is the last network of a list with an extended private-key
version. -/
def IsLastWith (id : List UInt8) (n : ParameterSet) (networks : List ParameterSet) : Prop :=
  n.hdPrivateKeyId.toList = id ∧
    ∃ before after, networks = before ++ n :: after ∧ ∀ m ∈ after, m.hdPrivateKeyId.toList ≠ id

/-- The table of versions holds what a search from the end of the list finds. -/
theorem Indices.get?_hdPublicIds_ofNetworks (networks : List ParameterSet) (key : Vector UInt8 4) :
    (ofNetworks networks).hdPublicIds.get? key =
      (networks.reverse.find? (·.hdPrivateKeyId = key)).map (·.hdPublicKeyId) := by
  -- The list grows at its end, as registrations do, and the newest entry is found first.
  induction networks using List.reverseRecOn with
  | nil => rfl
  | append_singleton networks p ih =>
      have hinsert : (ofNetworks (networks ++ [p])).hdPublicIds =
          (ofNetworks networks).hdPublicIds.insert p.hdPrivateKeyId p.hdPublicKeyId := by
        rw [ofNetworks_concat]
        rfl
      rw [hinsert, Table.get?_insert, List.reverse_concat, List.find?_cons, ih]
      by_cases hkey : key = p.hdPrivateKeyId
      · rw [if_pos hkey, decide_eq_true hkey.symm]
        rfl
      · rw [if_neg hkey, decide_eq_false (Ne.symm hkey)]

theorem find?_reverse_eq_some_iff {networks : List ParameterSet} {key : Vector UInt8 4}
    {n : ParameterSet} :
    networks.reverse.find? (·.hdPrivateKeyId = key) = some n ↔
      IsLastWith key.toList n networks := by
  have hsame : ∀ m : ParameterSet, m.hdPrivateKeyId = key ↔ m.hdPrivateKeyId.toList = key.toList :=
    fun m => Vector.toList_inj.symm
  rw [List.find?_eq_some_iff_append, IsLastWith, decide_eq_true_iff, hsame]
  refine and_congr_right fun _ => ?_
  -- What a search from the end passes over is what stands behind the match.
  constructor
  · rintro ⟨as, bs, hreverse, hnone⟩
    refine ⟨bs.reverse, as.reverse, ?_, ?_⟩
    · rw [← List.reverse_inj, hreverse]
      simp
    · intro m hm
      have hne := hnone m (List.mem_reverse.mp hm)
      rw [Ne, ← hsame]
      simpa using hne
  · rintro ⟨before, after, rfl, hnone⟩
    refine ⟨after.reverse, before.reverse, by simp, ?_⟩
    intro m hm
    have hne := hnone m (List.mem_reverse.mp hm)
    rw [Ne, ← hsame] at hne
    simpa using hne

namespace Registry

variable {r : Registry}

theorem Consistent.get?_hdPublicIds_eq_some_iff (h : r.Consistent) (key q : Vector UInt8 4) :
    r.indices.hdPublicIds.get? key = some q ↔
      ∃ n, IsLastWith key.toList n r.networks ∧ n.hdPublicKeyId = q := by
  rw [h.indices_eq, Indices.get?_hdPublicIds_ofNetworks, Option.map_eq_some_iff]
  refine exists_congr fun n => ?_
  rw [find?_reverse_eq_some_iff]

theorem Consistent.get?_hdPublicIds_eq_none_iff (h : r.Consistent) (key : Vector UInt8 4) :
    r.indices.hdPublicIds.get? key = none ↔
      ∀ n ∈ r.networks, n.hdPrivateKeyId.toList ≠ key.toList := by
  rw [h.indices_eq, Indices.get?_hdPublicIds_ofNetworks, Option.map_eq_none_iff,
    List.find?_eq_none]
  simp [Vector.toList_inj]

theorem Consistent.hdPublicId_eq_ok_iff (h : r.Consistent) (id : List UInt8)
    (q : Vector UInt8 4) :
    r.hdPublicId id = .ok q ↔
      id.length = 4 ∧ ∃ n, IsLastWith id n r.networks ∧ n.hdPublicKeyId = q := by
  by_cases hlength : id.length = 4
  · obtain ⟨key, rfl⟩ := exists_toList_eq hlength
    rw [hdPublicId_toList, ← h.get?_hdPublicIds_eq_some_iff, and_iff_right hlength]
    cases r.indices.hdPublicIds.get? key <;> simp
  · rw [hdPublicId_of_length_ne r hlength]
    simp [hlength]

theorem Consistent.hdPublicId_eq_error_iff (h : r.Consistent) (id : List UInt8)
    (e : UnknownHdKey) :
    r.hdPublicId id = .error e ↔ e = ⟨id⟩ ∧ ∀ n ∈ r.networks, n.hdPrivateKeyId.toList ≠ id := by
  by_cases hlength : id.length = 4
  · obtain ⟨key, rfl⟩ := exists_toList_eq hlength
    rw [hdPublicId_toList, ← h.get?_hdPublicIds_eq_none_iff]
    cases r.indices.hdPublicIds.get? key <;> simp [eq_comm]
  · -- A version of another length is that of no network.
    have hnone : ∀ n ∈ r.networks, n.hdPrivateKeyId.toList ≠ id := by
      rintro n - rfl
      exact hlength (Vector.length_toList ..)
    rw [hdPublicId_of_length_ne r hlength, and_iff_left hnone]
    simp [eq_comm]

/-- After a run of calls, from the registry without networks or the known one, an
extended private-key version is answered by the last network of the list that has
it, and refused with the bytes asked for if there is none, which is so for all
bytes that are not four.  The list is the one before the run and then the networks
whose registration succeeded; the calls that failed can be left out. -/
theorem run_hdPublicId_last {start : Registry} (hstart : start = empty ∨ start = known)
    (calls : List Call) :
    (start.run calls).networks = start.networks ++ start.added calls ∧
    start.run calls = (start.added calls).foldl attempt start ∧
    ∀ id : List UInt8,
      (∀ q, (start.run calls).hdPublicId id = .ok q ↔
        id.length = 4 ∧ ∃ n, IsLastWith id n (start.run calls).networks ∧ n.hdPublicKeyId = q) ∧
      (∀ e, (start.run calls).hdPublicId id = .error e ↔
        e = ⟨id⟩ ∧ ∀ n ∈ (start.run calls).networks, n.hdPrivateKeyId.toList ≠ id) ∧
      (id.length ≠ 4 → (start.run calls).hdPublicId id = .error ⟨id⟩) := by
  have hreachable : (start.run calls).Reachable := by
    rcases hstart with rfl | rfl
    · exact Reachable.empty.run calls
    · exact Reachable.known.run calls
  have hr := hreachable.consistent
  refine ⟨networks_run start calls, run_eq_foldl_added start calls, fun id => ?_⟩
  exact ⟨hr.hdPublicId_eq_ok_iff id, hr.hdPublicId_eq_error_iff id,
    hdPublicId_of_length_ne (start.run calls)⟩

/-- A network with the extended private-key version of the test networks. -/
def devnet : ParameterSet :=
  { ParameterSet.regtest with magic := ⟨0xe2caffce⟩, hdPublicKeyId := #v[0x0a, 0x0b, 0x0c, 0x0d] }

/-- Both test networks have the version, and so has the test network that is refused
after the devnet; the devnet answers for it.  One byte more, and nobody does. -/
theorem devnet_hdPublicId_last :
    (known.run [.set devnet, .set .testnet3]).hdPublicId [0x04, 0x35, 0x83, 0x94] =
      .ok #v[0x0a, 0x0b, 0x0c, 0x0d] ∧
    (known.run [.set devnet, .set .testnet3]).hdPublicId [0x04, 0x35, 0x83, 0x94, 0x00] =
      .error ⟨[0x04, 0x35, 0x83, 0x94, 0x00]⟩ := by
  obtain ⟨hnetworks, -, hanswer⟩ := run_hdPublicId_last (.inr rfl) [.set devnet, .set .testnet3]
  have hadded : known.added [.set devnet, .set .testnet3] = [devnet] := rfl
  rw [hadded] at hnetworks
  refine ⟨((hanswer _).1 _).mpr ⟨rfl, devnet, ⟨rfl, known.networks, [], hnetworks, ?_⟩, rfl⟩,
    (hanswer _).2.2 (by decide)⟩
  intro m hm
  cases hm

end Registry

end ChainParams

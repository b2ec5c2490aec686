import ChainParams.Proofs.Registry.Reachable

/-!
# The tables follow the list of networks

The tables of a registry are kept up to date entry by entry, while the list of
networks grows.  In every reachable registry they are the tables of the whole
list, no two networks have the same magic, and the position kept for a magic is
that of its network.
-/

namespace ChainParams.Registry

/-- What every reachable registry has in common. -/
structure Consistent (r : Registry) : Prop where
  indices_eq : r.indices = .ofNetworks r.networks
  distinct : (r.networks.map (·.magic)).Nodup
  position : ∀ m i,
    r.indices.byMagic.get? m = some i ↔ ∃ n, r.networks[i]? = some n ∧ n.magic = m
  valid : ∀ n ∈ r.networks, n.validate = .ok ()

theorem getElem?_concat_eq_some {α : Type} {as : List α} {a b : α} {i : Nat} :
    (as ++ [a])[i]? = some b ↔ as[i]? = some b ∨ i = as.length ∧ b = a := by
  rcases Nat.lt_trichotomy i as.length with hlt | rfl | hgt
  · rw [List.getElem?_append_left hlt]
    simp only [Nat.ne_of_lt hlt, false_and, or_false]
  · rw [List.getElem?_concat_length, List.getElem?_eq_none (Nat.le_refl _)]
    simp only [Option.some.injEq, reduceCtorEq, true_and, false_or, eq_comm]
  · have hout : (as ++ [a]).length ≤ i := by rwa [List.length_append]
    rw [List.getElem?_eq_none hout, List.getElem?_eq_none (Nat.le_of_lt hgt)]
    simp only [reduceCtorEq, Nat.ne_of_gt hgt, false_and, or_false]

namespace Consistent

variable {r : Registry} {p : ParameterSet}

theorem isRegistered_iff (h : r.Consistent) (m : Magic) :
    r.isRegistered m ↔ ∃ n ∈ r.networks, n.magic = m := by
  rw [isRegistered, h.indices_eq]
  exact Indices.contains_ofNetworks (·.byMagic) (·.magic) (fun i _ => i) rfl (fun _ _ _ => rfl)
    r.networks m

theorem isRegistered_eq_false_iff (h : r.Consistent) (m : Magic) :
    r.isRegistered m = false ↔ ∀ n ∈ r.networks, n.magic ≠ m := by
  rw [← Bool.not_eq_true, h.isRegistered_iff]
  simp

theorem empty : Registry.empty.Consistent where
  indices_eq := rfl
  distinct := List.nodup_nil
  position := by
    intro m i
    simp [Registry.empty, Indices.empty, Table.get?, Table.empty]
  valid := by
    intro n hn
    cases hn

theorem distinct_push (h : r.Consistent) (hp : r.Admits p) :
    ((r.push p).networks.map (·.magic)).Nodup := by
  have hnew := (h.isRegistered_eq_false_iff p.magic).mp hp.free
  rw [Registry.push, List.map_append, List.nodup_append]
  refine ⟨h.distinct, by simp, ?_⟩
  intro m hm m' hm' heq
  obtain ⟨n, hn, rfl⟩ := List.mem_map.mp hm
  have hlast : m' = p.magic := List.mem_singleton.mp hm'
  exact hnew n hn (heq.trans hlast)

theorem position_push (h : r.Consistent) (hp : r.Admits p) (m : Magic) (i : Nat) :
    (r.push p).indices.byMagic.get? m = some i ↔
      ∃ n, (r.push p).networks[i]? = some n ∧ n.magic = m := by
  have hnew := (h.isRegistered_eq_false_iff p.magic).mp hp.free
  change (r.indices.byMagic.insert p.magic r.networks.length).get? m = some i ↔
    ∃ n, (r.networks ++ [p])[i]? = some n ∧ n.magic = m
  rw [Table.get?_insert]
  by_cases hm : m = p.magic
  · -- The new entry is the only one for this magic, since no older network has it.
    subst hm
    rw [if_pos rfl]
    constructor
    · rintro ⟨⟩
      exact ⟨p, getElem?_concat_eq_some.mpr (.inr ⟨rfl, rfl⟩), rfl⟩
    · rintro ⟨n, hn, hmagic⟩
      rcases getElem?_concat_eq_some.mp hn with hold | ⟨rfl, -⟩
      · exact absurd hmagic (hnew n (List.mem_of_getElem? hold))
      · rfl
  · rw [if_neg hm, h.position]
    constructor
    · rintro ⟨n, hn, hmagic⟩
      exact ⟨n, getElem?_concat_eq_some.mpr (.inl hn), hmagic⟩
    · rintro ⟨n, hn, hmagic⟩
      rcases getElem?_concat_eq_some.mp hn with hold | ⟨-, rfl⟩
      · exact ⟨n, hold, hmagic⟩
      · exact absurd hmagic.symm hm

/-- The registration of a sound network with a new magic keeps the tables up to
date. -/
theorem push (h : r.Consistent) (hp : r.Admits p) : (r.push p).Consistent where
  indices_eq := by rw [Registry.push, Indices.ofNetworks_concat, h.indices_eq]
  distinct := h.distinct_push hp
  position := h.position_push hp
  valid := by
    intro n hn
    rcases List.mem_append.mp hn with hold | hlast
    · exact h.valid n hold
    · rw [List.mem_singleton.mp hlast]
      exact hp.valid

/-- The network found through the tables is the one found by searching the list. -/
theorem byMagic?_eq_find? (h : r.Consistent) (m : Magic) :
    r.byMagic? m = r.networks.find? (·.magic = m) := by
  cases hfind : r.networks.find? (·.magic = m) with
  | none =>
      have hnone : r.indices.byMagic.get? m = none := by
        refine Option.eq_none_iff_forall_ne_some.mpr fun i hi => ?_
        obtain ⟨n, hn, hmagic⟩ := (h.position m i).mp hi
        have hmiss := List.find?_eq_none.mp hfind n (List.mem_of_getElem? hn)
        exact hmiss (decide_eq_true hmagic)
      rw [byMagic?, hnone]
      rfl
  | some n =>
      have hmagic : n.magic = m := by simpa using List.find?_some hfind
      obtain ⟨i, hi⟩ := List.mem_iff_getElem?.mp (List.mem_of_find?_eq_some hfind)
      have hposition := (h.position m i).mpr ⟨n, hi, hmagic⟩
      rw [byMagic?, hposition]
      exact hi

end Consistent

theorem Reachable.consistent {r : Registry} (h : r.Reachable) : r.Consistent :=
  h.push_induction .empty fun _ _ => Consistent.push

/-- In every reachable registry no two networks have the same magic, a position
is kept for exactly the magics of the networks and leads to the network that a
search of the list finds, and the tables are those of the whole list. -/
theorem Reachable.indexed {r : Registry} (h : r.Reachable) :
    (r.networks.map (·.magic)).Nodup ∧
    (∀ m i, r.indices.byMagic.get? m = some i ↔
      ∃ hi : i < r.networks.length, r.networks[i].magic = m) ∧
    (∀ m, r.byMagic? m = r.networks.find? (·.magic = m)) ∧
    r.indices = .ofNetworks r.networks ∧ r.indicesMatch = true := by
  have hr := h.consistent
  refine ⟨hr.distinct, ?_, hr.byMagic?_eq_find?, hr.indices_eq, ?_⟩
  · intro m i
    rw [hr.position]
    constructor
    · rintro ⟨n, hn, hmagic⟩
      obtain ⟨hi, rfl⟩ := List.getElem?_eq_some_iff.mp hn
      exact ⟨hi, hmagic⟩
    · rintro ⟨hi, hmagic⟩
      exact ⟨r.networks[i], List.getElem?_eq_getElem hi, hmagic⟩
  · exact decide_eq_true hr.indices_eq.symm

theorem known_indexed :
    known.Reachable ∧ known.networks.length = 3 ∧ (known.networks.map (·.magic)).Nodup ∧
    (∀ m, known.byMagic? m = known.networks.find? (·.magic = m)) ∧ known.indicesMatch = true := by
  have hindexed := Reachable.indexed .known
  exact ⟨.known, congrArg List.length known_networks, hindexed.1, hindexed.2.2.1,
    hindexed.2.2.2.2⟩

end ChainParams.Registry

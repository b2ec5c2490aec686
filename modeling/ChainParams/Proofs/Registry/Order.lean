import ChainParams.Proofs.Registry.Answers
import ChainParams.Proofs.Registry.Attempts
import ChainParams.Proofs.Registry.Versions
import Mathlib.Data.List.Nodup

/-!
# The order of independent networks

Networks that are offered one after another, each with a magic of its own, are not in
each other's way: what becomes of an offer is decided by the registry before all of
them (`outcome_foldl_attempt`), whatever comes first.  So the same offers are taken in
every order, and the networks at the end differ in their order only
(`networks_foldl_attempt_of_distinct`).  Most questions do not depend on that order.  The
public version that belongs to a key version does, since the last network decides, but
only if the offers themselves disagree about it.
-/

namespace ChainParams

/-! ## Searching in another order -/

/-- Which element a search finds depends on the order, but not what is read off it, if
this is the same for all that could be found. -/
theorem map_find?_of_perm {α β : Type} {list list' : List α} (hperm : list.Perm list')
    {wanted : α → Bool} {read : α → β}
    (hagree : ∀ a ∈ list, ∀ b ∈ list, wanted a = true → wanted b = true → read a = read b) :
    (list.find? wanted).map read = (list'.find? wanted).map read := by
  cases hfind : list.find? wanted with
  | none =>
      have hnone : list'.find? wanted = none := by
        rw [List.find?_eq_none] at hfind ⊢
        intro a ha
        exact hfind a (hperm.mem_iff.mpr ha)
      rw [hnone]
  | some a =>
      have ha := List.mem_of_find?_eq_some hfind
      have hwanted := List.find?_some hfind
      cases hfind' : list'.find? wanted with
      | none => exact absurd hwanted (List.find?_eq_none.mp hfind' a (hperm.mem_iff.mp ha))
      | some b =>
          have hb := hperm.mem_iff.mpr (List.mem_of_find?_eq_some hfind')
          exact congrArg some (hagree a ha b hb hwanted (List.find?_some hfind'))

/-- A key version is looked up the same in another order of the newer networks, if those
that have it agree. -/
theorem Indices.get?_hdPublicIds_of_perm (networks : List ParameterSet)
    {more more' : List ParameterSet} (hperm : more.Perm more') {key : Vector UInt8 4}
    (hagree : ∀ a ∈ more, ∀ b ∈ more, a.hdPrivateKeyId = key → b.hdPrivateKeyId = key →
      a.hdPublicKeyId = b.hdPublicKeyId) :
    (ofNetworks (networks ++ more)).hdPublicIds.get? key =
      (ofNetworks (networks ++ more')).hdPublicIds.get? key := by
  have hreverse : more.reverse.Perm more'.reverse :=
    (List.reverse_perm more).trans (hperm.trans (List.reverse_perm more').symm)
  have hnewer : (more.reverse.find? (·.hdPrivateKeyId = key)).map (·.hdPublicKeyId) =
      (more'.reverse.find? (·.hdPrivateKeyId = key)).map (·.hdPublicKeyId) := by
    apply map_find?_of_perm hreverse
    intro a ha b hb hkey hkey'
    exact hagree a (List.mem_reverse.mp ha) b (List.mem_reverse.mp hb)
      (of_decide_eq_true hkey) (of_decide_eq_true hkey')
  rw [get?_hdPublicIds_ofNetworks, get?_hdPublicIds_ofNetworks, List.reverse_append,
    List.reverse_append, List.find?_append, List.find?_append, Option.map_or, Option.map_or, hnewer]

namespace Registry

variable {r r' : Registry} {p : ParameterSet} {offers offers' : List ParameterSet}

/-! ## Offers with magics of their own -/

/-- What whoever offers a network is told: it is registered, or why it is not. -/
def outcome (r : Registry) (p : ParameterSet) : Except RegisterError ParameterSet :=
  (r.register p).map fun _ => p

theorem outcome_congr (h : r.isRegistered p.magic = r'.isRegistered p.magic) :
    r.outcome p = r'.outcome p := by
  rw [outcome, outcome, register, register, h]
  cases r'.isRegistered p.magic with
  | true => rfl
  | false => cases p.validate <;> rfl

instance (r : Registry) (p : ParameterSet) : Decidable (r.Admits p) :=
  decidable_of_iff (r.isRegistered p.magic = false ∧ p.validate = .ok ())
    ⟨fun h => ⟨h.1, h.2⟩, fun h => ⟨h.free, h.valid⟩⟩

theorem isRegistered_foldl_attempt_of_ne {m : Magic} (h : ∀ q ∈ offers, q.magic ≠ m) :
    (offers.foldl attempt r).isRegistered m = r.isRegistered m := by
  rw [Bool.eq_iff_iff, isRegistered_foldl_attempt]
  refine or_iff_left ?_
  rintro ⟨q, hq, -, hmagic⟩
  exact h q hq hmagic

/-- Offers with other magics do not change what becomes of a network. -/
theorem outcome_foldl_attempt (h : ∀ q ∈ offers, q.magic ≠ p.magic) :
    (offers.foldl attempt r).outcome p = r.outcome p :=
  outcome_congr (isRegistered_foldl_attempt_of_ne h)

theorem admits_foldl_attempt_iff_of_ne (h : ∀ q ∈ offers, q.magic ≠ p.magic) :
    (offers.foldl attempt r).Admits p ↔ r.Admits p := by
  have hmagic := isRegistered_foldl_attempt_of_ne (r := r) h
  constructor
  · intro hp
    exact ⟨hmagic ▸ hp.free, hp.valid⟩
  · intro hp
    exact ⟨hmagic ▸ hp.free, hp.valid⟩

/-- Offers with distinct magics: those before a position have other magics than the one
that stands there. -/
theorem magic_ne_of_distinct (h : (offers.map (·.magic)).Nodup) {i : Nat}
    (hp : offers[i]? = some p) : ∀ q ∈ offers.take i, q.magic ≠ p.magic := by
  obtain ⟨hi, rfl⟩ := List.getElem?_eq_some_iff.mp hp
  intro q hq
  rw [← List.take_append_drop i offers, List.drop_eq_getElem_cons hi, List.map_append,
    List.nodup_append] at h
  exact h.2.2 q.magic (List.mem_map_of_mem hq) _ (List.mem_map_of_mem (List.mem_cons_self ..))

/-- Of offers with distinct magics those are taken that the registry admits before all
of them. -/
theorem networks_foldl_attempt_of_distinct (h : (offers.map (·.magic)).Nodup) :
    (offers.foldl attempt r).networks = r.networks ++ offers.filter fun p => r.Admits p := by
  induction offers using List.reverseRecOn with
  | nil => exact (List.append_nil _).symm
  | append_singleton offers p ih =>
      have hbefore := ih (h.sublist ((List.sublist_append_left offers [p]).map _))
      have hothers := magic_ne_of_distinct h (List.getElem?_concat_length ..)
      rw [List.take_left] at hothers
      have hadmits := admits_foldl_attempt_iff_of_ne (r := r) hothers
      rw [List.foldl_append, List.foldl_cons, List.foldl_nil, List.filter_append,
        ← List.append_assoc, ← hbefore]
      rcases attempt_cases (offers.foldl attempt r) p with ⟨hp, hstep⟩ | ⟨hp, hstep⟩
      · rw [hstep, push, List.filter_singleton, decide_eq_true (hadmits.mp hp)]
        rfl
      · rw [hstep, List.filter_singleton, decide_eq_false (mt hadmits.mpr hp)]
        exact (List.append_nil _).symm

/-! ## Registries with the same networks -/

/-- Most answers depend on which networks there are and not on their order. -/
theorem Consistent.answers_eq_of_perm (h : r.Consistent) (h' : r'.Consistent)
    (hperm : r.networks.Perm r'.networks) :
    (∀ id, r.isPubKeyHashId id = r'.isPubKeyHashId id) ∧
    (∀ id, r.isScriptHashId id = r'.isScriptHashId id) ∧
    (∀ text, r.isBech32Start text = r'.isBech32Start text) ∧
    ∀ m, r.byMagic? m = r'.byMagic? m := by
  have hscan (P : ParameterSet → Prop) : (∃ n ∈ r.networks, P n) ↔ ∃ n ∈ r'.networks, P n :=
    exists_congr fun n => and_congr_left fun _ => hperm.mem_iff
  refine ⟨?_, ?_, ?_, ?_⟩
  · intro id
    rw [Bool.eq_iff_iff, h.isPubKeyHashId_iff, h'.isPubKeyHashId_iff]
    exact hscan _
  · intro id
    rw [Bool.eq_iff_iff, h.isScriptHashId_iff, h'.isScriptHashId_iff]
    exact hscan _
  · intro text
    rw [Bool.eq_iff_iff, isBech32Start, isBech32Start, h.contains_bech32Starts_iff,
      h'.contains_bech32Starts_iff]
    exact hscan _
  · intro m
    have hunique : ∀ a ∈ r.networks, ∀ b ∈ r.networks,
        decide (a.magic = m) = true → decide (b.magic = m) = true → id a = id b := by
      intro a ha b hb hmagic hmagic'
      apply List.inj_on_of_nodup_map h.distinct ha hb
      rw [of_decide_eq_true hmagic, of_decide_eq_true hmagic']
    rw [h.byMagic?_eq_find?, h'.byMagic?_eq_find?]
    simpa only [Option.map_id_fun, id] using map_find?_of_perm hperm hunique

theorem Consistent.foldl_attempt (h : r.Consistent) (offers : List ParameterSet) :
    (offers.foldl Registry.attempt r).Consistent :=
  foldl_attempt_induction (fun _ _ => Consistent.push) offers r h

/-- Whatever the order in which networks with distinct magics are offered to a reachable
registry, each of them meets the same fate, with the same refusal if it is refused, and
at the end every address question and every magic has the same answer.  A key version
has the same public version whenever the offers that have it agree about that. -/
theorem answers_foldl_attempt_of_perm (h : r.Reachable)
    (hdistinct : (offers.map (·.magic)).Nodup) (hperm : offers.Perm offers') :
    (∀ i i' p, offers[i]? = some p → offers'[i']? = some p →
      ((offers.take i).foldl attempt r).outcome p =
        ((offers'.take i').foldl attempt r).outcome p) ∧
    (∀ id, (offers.foldl attempt r).isPubKeyHashId id =
      (offers'.foldl attempt r).isPubKeyHashId id) ∧
    (∀ id, (offers.foldl attempt r).isScriptHashId id =
      (offers'.foldl attempt r).isScriptHashId id) ∧
    (∀ text, (offers.foldl attempt r).isBech32Start text =
      (offers'.foldl attempt r).isBech32Start text) ∧
    (∀ id, (offers.foldl attempt r).classify id = (offers'.foldl attempt r).classify id) ∧
    (∀ m, (offers.foldl attempt r).byMagic? m = (offers'.foldl attempt r).byMagic? m) ∧
    ∀ id, (∀ p ∈ offers, ∀ q ∈ offers, p.hdPrivateKeyId.toList = id →
        q.hdPrivateKeyId.toList = id → p.hdPublicKeyId = q.hdPublicKeyId) →
      (offers.foldl attempt r).hdPublicId id = (offers'.foldl attempt r).hdPublicId id := by
  have hdistinct' : (offers'.map (·.magic)).Nodup := (hperm.map _).nodup_iff.mp hdistinct
  have hconsistent := h.consistent.foldl_attempt offers
  have hconsistent' := h.consistent.foldl_attempt offers'
  have htaken : (offers.filter fun p => r.Admits p).Perm (offers'.filter fun p => r.Admits p) :=
    hperm.filter _
  have hnetworks := networks_foldl_attempt_of_distinct (r := r) hdistinct
  have hnetworks' := networks_foldl_attempt_of_distinct (r := r) hdistinct'
  have hsame : (offers.foldl attempt r).networks.Perm (offers'.foldl attempt r).networks := by
    rw [hnetworks, hnetworks']
    exact htaken.append_left r.networks
  obtain ⟨hpubKey, hscript, hbech, hmagic⟩ := hconsistent.answers_eq_of_perm hconsistent' hsame
  refine ⟨?_, hpubKey, hscript, hbech, ?_, hmagic, ?_⟩
  · intro i i' p hp hp'
    rw [outcome_foldl_attempt (magic_ne_of_distinct hdistinct hp),
      outcome_foldl_attempt (magic_ne_of_distinct hdistinct' hp')]
  · intro id
    rw [classify, classify, hpubKey, hscript]
  · intro id hagree
    by_cases hlength : id.length = 4
    · obtain ⟨key, rfl⟩ := exists_toList_eq hlength
      have hagree : ∀ a ∈ offers.filter fun p => r.Admits p,
          ∀ b ∈ offers.filter fun p => r.Admits p,
            a.hdPrivateKeyId = key → b.hdPrivateKeyId = key →
              a.hdPublicKeyId = b.hdPublicKeyId := by
        intro a ha b hb hkey hkey'
        exact hagree a (List.mem_of_mem_filter ha) b (List.mem_of_mem_filter hb)
          (congrArg Vector.toList hkey) (congrArg Vector.toList hkey')
      have htable := Indices.get?_hdPublicIds_of_perm r.networks htaken hagree
      rw [← hnetworks, ← hnetworks', ← hconsistent.indices_eq, ← hconsistent'.indices_eq] at htable
      rw [hdPublicId_toList, hdPublicId_toList, htable]
    · rw [hdPublicId_of_length_ne _ hlength, hdPublicId_of_length_ne _ hlength]

/-- A network with a key version of the known test networks, one that is known, one
without a name, and one that shares a byte with the main network. -/
def mixedOffers : List ParameterSet := [devnet, .mainnet, unnamed, overlapping]

/-- Backwards the last of them is offered to the known networks alone, and nothing about
it changes.  Only the main network has its own key version, so this is answered the same
as well. -/
theorem mixedOffers_reversed :
    (mixedOffers.map (·.magic)).Nodup ∧ mixedOffers.Perm mixedOffers.reverse ∧
    ((mixedOffers.take 3).foldl attempt known).outcome overlapping = known.outcome overlapping ∧
    (∀ id, (mixedOffers.foldl attempt known).classify id =
      (mixedOffers.reverse.foldl attempt known).classify id) ∧
    (mixedOffers.foldl attempt known).hdPublicId [0x04, 0x88, 0xad, 0xe4] =
      (mixedOffers.reverse.foldl attempt known).hdPublicId [0x04, 0x88, 0xad, 0xe4] := by
  have hdistinct : (mixedOffers.map (·.magic)).Nodup := by decide
  have hperm : mixedOffers.Perm mixedOffers.reverse := (List.reverse_perm _).symm
  obtain ⟨houtcome, -, -, -, hkind, -, hversion⟩ :=
    answers_foldl_attempt_of_perm .known hdistinct hperm
  refine ⟨hdistinct, hperm, houtcome 3 0 overlapping rfl rfl, hkind, hversion _ ?_⟩
  decide

end Registry

end ChainParams

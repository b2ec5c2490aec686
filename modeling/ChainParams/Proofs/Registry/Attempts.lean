import ChainParams.Proofs.Registry.Consistent
import Mathlib.Data.List.Induction

/-!
# Which attempts succeed

Whether an attempt succeeds depends on all attempts before it, and some of these
have failed.  Still it can be told from the sets that were offered, without
running anything (`Succeeds`): what matters is which magics are taken, and these
are the magics of the networks at the start and those of the sound sets offered
since (`isRegistered_foldl_attempt`).  A sound set takes its magic or finds it
taken, while a set that breaks a law takes nothing.
-/

namespace ChainParams

instance ParameterSet.decidableValid (p : ParameterSet) : Decidable (p.validate = .ok ()) :=
  match p.validate with
  | .ok () => .isTrue rfl
  | .error _ => .isFalse nofun

namespace Registry

/-- Whether a set is registered after the sets `before` have been offered to a
registry of the networks `initial`. -/
structure Succeeds (initial before : List ParameterSet) (p : ParameterSet) : Prop where
  valid : p.validate = .ok ()
  new : ∀ n ∈ initial, n.magic ≠ p.magic
  first : ∀ q ∈ before, q.validate = .ok () → q.magic ≠ p.magic

instance (initial before : List ParameterSet) (p : ParameterSet) :
    Decidable (Succeeds initial before p) :=
  decidable_of_iff (p.validate = .ok () ∧ (∀ n ∈ initial, n.magic ≠ p.magic) ∧
      ∀ q ∈ before, q.validate = .ok () → q.magic ≠ p.magic)
    ⟨fun h => ⟨h.1, h.2.1, h.2.2⟩, fun h => ⟨h.valid, h.new, h.first⟩⟩

/-- The offers that are registered, in the order of the attempts. -/
def successes (initial offers : List ParameterSet) : List ParameterSet :=
  (offers.zipIdx.filter fun (p, i) => Succeeds initial (offers.take i) p).map (·.1)

/-! ## Taken magics -/

theorem isRegistered_attempt (r : Registry) (p : ParameterSet) (m : Magic) :
    (r.attempt p).isRegistered m = true ↔
      r.isRegistered m = true ∨ p.validate = .ok () ∧ p.magic = m := by
  rcases attempt_cases r p with ⟨hadmits, hstep⟩ | ⟨hrefused, hstep⟩
  · have hpush : (r.push p).isRegistered m = true ↔ m = p.magic ∨ r.isRegistered m = true :=
      Table.contains_insert ..
    rw [hstep, hpush, and_iff_right hadmits.valid, or_comm, eq_comm (a := m)]
  · rw [hstep]
    constructor
    · exact .inl
    · rintro (htaken | ⟨hvalid, rfl⟩)
      · exact htaken
      · -- A sound set is refused only because its magic is taken.
        by_contra hfree
        exact hrefused ⟨Bool.not_eq_true _ ▸ hfree, hvalid⟩

theorem isRegistered_foldl_attempt (r : Registry) (offers : List ParameterSet) (m : Magic) :
    (offers.foldl attempt r).isRegistered m = true ↔
      r.isRegistered m = true ∨ ∃ q ∈ offers, q.validate = .ok () ∧ q.magic = m := by
  induction offers generalizing r with
  | nil => simp
  | cons p offers ih =>
      rw [List.foldl_cons, ih, isRegistered_attempt, or_assoc]
      simp only [List.mem_cons, exists_eq_or_imp]

/-- A set is admitted after a run of attempts exactly if the offers say so. -/
theorem Consistent.admits_foldl_attempt_iff {start : Registry} (h : start.Consistent)
    (offers : List ParameterSet) (p : ParameterSet) :
    (offers.foldl attempt start).Admits p ↔ Succeeds start.networks offers p := by
  have htaken := isRegistered_foldl_attempt start offers p.magic
  rw [h.isRegistered_iff] at htaken
  constructor
  · intro hadmits
    have hfree := mt htaken.mpr (Bool.not_eq_true _ ▸ hadmits.free)
    refine ⟨hadmits.valid, ?_, ?_⟩
    · intro n hn hmagic
      exact hfree (.inl ⟨n, hn, hmagic⟩)
    · intro q hq hvalid hmagic
      exact hfree (.inr ⟨q, hq, hvalid, hmagic⟩)
  · intro hp
    refine ⟨Bool.eq_false_iff.mpr (mt htaken.mp ?_), hp.valid⟩
    rintro (⟨n, hn, hmagic⟩ | ⟨q, hq, hvalid, hmagic⟩)
    · exact hp.new n hn hmagic
    · exact hp.first q hq hvalid hmagic

/-! ## Networks after a run -/

/-- Whether an offer succeeds does not depend on what is offered after it. -/
theorem successes_concat (initial offers : List ParameterSet) (p : ParameterSet) :
    successes initial (offers ++ [p]) =
      successes initial offers ++ if Succeeds initial offers p then [p] else [] := by
  have hbefore : offers.zipIdx.filter
        (fun (q, i) => Succeeds initial ((offers ++ [p]).take i) q) =
      offers.zipIdx.filter fun (q, i) => Succeeds initial (offers.take i) q := by
    apply List.filter_congr
    rintro ⟨q, i⟩ hq
    have hi : i ≤ offers.length := Nat.le_of_lt (List.mem_zipIdx' hq).1
    simp only [List.take_append_of_le_length hi]
  have hlast : (offers ++ [p]).take offers.length = offers := List.take_left
  rw [successes, List.zipIdx_append, List.filter_append, hbefore, List.map_append, Nat.zero_add,
    List.zipIdx_singleton, List.filter_cons, List.filter_nil]
  simp only [hlast, decide_eq_true_eq]
  by_cases hp : Succeeds initial offers p
  · rw [if_pos hp, if_pos hp]
    rfl
  · rw [if_neg hp, if_neg hp]
    rfl

theorem Consistent.networks_foldl_attempt {start : Registry} (h : start.Consistent)
    (offers : List ParameterSet) :
    (offers.foldl attempt start).networks = start.networks ++ successes start.networks offers := by
  -- The newest attempt sees the registry that all the others have made.
  induction offers using List.reverseRecOn with
  | nil => exact (List.append_nil _).symm
  | append_singleton offers p ih =>
      have hadmits := h.admits_foldl_attempt_iff offers p
      rw [List.foldl_append, List.foldl_cons, List.foldl_nil, successes_concat,
        ← List.append_assoc, ← ih]
      rcases attempt_cases (offers.foldl attempt start) p with ⟨hp, hstep⟩ | ⟨hp, hstep⟩
      · rw [hstep, if_pos (hadmits.mp hp)]
        rfl
      · rw [hstep, if_neg (mt hadmits.mpr hp), List.append_nil]

/-- An attempt with a set that breaks a law could as well not have been made. -/
theorem foldl_attempt_of_invalid (start : Registry) (before after : List ParameterSet)
    {q : ParameterSet} (hq : q.validate ≠ .ok ()) :
    (before ++ q :: after).foldl attempt start = (before ++ after).foldl attempt start := by
  have hstep : (before.foldl attempt start).attempt q = before.foldl attempt start := by
    rcases attempt_cases (before.foldl attempt start) q with ⟨hadmits, -⟩ | ⟨-, hstep⟩
    · exact absurd hadmits.valid hq
    · exact hstep
  rw [List.foldl_append, List.foldl_cons, hstep, List.foldl_append]

/-- A run of attempts on the registry without networks or on the known one is told
from its offers.  An attempt succeeds exactly if its set breaks no law, has no
magic of the start and comes before every other sound offer with its magic; the
networks at the end are those of the start and then the successful ones, in the
order of the attempts; and offers that break a law make no difference, so they do
not keep their magic from a later one. -/
theorem foldl_attempt_decided {start : Registry} (hstart : start = empty ∨ start = known)
    (offers : List ParameterSet) :
    (∀ i p, offers[i]? = some p →
      ((∃ r, ((offers.take i).foldl attempt start).register p = .ok r) ↔
        Succeeds start.networks (offers.take i) p)) ∧
    (offers.foldl attempt start).networks = start.networks ++ successes start.networks offers ∧
    (offers.foldl attempt start).size =
      start.size + (successes start.networks offers).length ∧
    ∀ before q after, offers = before ++ q :: after → q.validate ≠ .ok () →
      offers.foldl attempt start = (before ++ after).foldl attempt start := by
  have hreachable : start.Reachable := by
    rcases hstart with rfl | rfl
    · exact .empty
    · exact .known
  have hr := hreachable.consistent
  have hnetworks := hr.networks_foldl_attempt offers
  refine ⟨?_, hnetworks, ?_, ?_⟩
  · intro i p _
    rw [← hr.admits_foldl_attempt_iff]
    constructor
    · rintro ⟨r, hregister⟩
      exact (register_eq_ok_iff.mp hregister).1
    · intro hadmits
      exact ⟨_, register_eq_ok_iff.mpr ⟨hadmits, rfl⟩⟩
  · rw [size, hnetworks, List.length_append, size]
  · rintro before q after rfl hq
    exact foldl_attempt_of_invalid start before after hq

/-- A network without a name, and one with the same magic that has one. -/
def unnamed : ParameterSet :=
  { ParameterSet.regtest with name := " \t", magic := ⟨0x0badcafe⟩ }

def named : ParameterSet := { unnamed with name := "named" }

/-- The unnamed network leaves its magic to the named one, which has it when it is
offered a second time. -/
theorem named_decided :
    (∃ r, ([unnamed].foldl attempt known).register named = .ok r) ∧
    (¬ ∃ r, ([unnamed, named].foldl attempt known).register named = .ok r) ∧
    ([unnamed, named, named].foldl attempt known).networks = known.networks ++ [named] ∧
    ([unnamed, named, named].foldl attempt known).size = 4 := by
  obtain ⟨hsucceeds, hnetworks, hsize, -⟩ :=
    foldl_attempt_decided (.inr rfl) [unnamed, named, named]
  have hsecond : Succeeds known.networks [unnamed] named := by decide +kernel
  have hthird : ¬ Succeeds known.networks [unnamed, named] named := by decide +kernel
  have hsuccesses : successes known.networks [unnamed, named, named] = [named] :=
    rfl
  have hstart : known.size = 3 := congrArg List.length known_networks
  rw [hsuccesses] at hnetworks hsize
  rw [hstart] at hsize
  exact ⟨(hsucceeds 1 named rfl).mpr hsecond, mt (hsucceeds 2 named rfl).mp hthird, hnetworks,
    hsize⟩

end Registry

end ChainParams

import ChainParams.ParameterSet
import ChainParams.Proofs.Checkpoint

/-!
# Looking up a checkpoint by its height

The search halves a stretch of the list in which the split between the heights that are
low enough and those that are not must lie.  That the split stays inside the stretch is the
invariant of the search (`partitionPoint_eq`); it needs no more of the list than that there
is a single split.  In a list whose heights never fall there is one, so the search finds
what a scan of the whole list finds: the last checkpoint at or below the height
(`atOrBefore_eq_some_iff`), and none only if all heights are above it
(`atOrBefore_eq_none_iff`).
-/

namespace ChainParams.Checkpoint

/-! ## Halving -/

/-- Whether a predicate holds of the first `n` checkpoints of a list and of no others. -/
structure SplitsAt (holds : Checkpoint → Bool) (list : List Checkpoint) (n : Nat) : Prop where
  le_length : n ≤ list.length
  holds_iff : ∀ (i : Nat) (hi : i < list.length), holds list[i] = true ↔ i < n

section

variable {holds : Checkpoint → Bool} {list : List Checkpoint} {n : Nat}

/-- A probe tells on which side of the split it lies.  Behind the list it counts as too high. -/
theorem SplitsAt.any_iff (h : SplitsAt holds list n) (i : Nat) :
    list[i]?.any holds = true ↔ i < n := by
  rcases Nat.lt_or_ge i list.length with hi | hi
  · rw [List.getElem?_eq_getElem hi]
    exact h.holds_iff i hi
  · rw [List.getElem?_eq_none hi]
    exact iff_of_false (by simp) (Nat.not_lt.mpr (Nat.le_trans h.le_length hi))

/-- A probe in the middle leaves the split in the half that is searched on. -/
theorem SplitsAt.half (h : SplitsAt holds list n) {start size : Nat} (hstart : start ≤ n)
    (hend : n ≤ start + size) :
    (if list[start + size / 2]?.any holds then start + size / 2 else start) ≤ n ∧
      n ≤ (if list[start + size / 2]?.any holds then start + size / 2 else start) +
        (size - size / 2) := by
  have hprobe := h.any_iff (start + size / 2)
  split
  · rename_i hlow
    have hmiddle := hprobe.mp hlow
    omega
  · rename_i hhigh
    have hmiddle := mt hprobe.mpr hhigh
    omega

/-- The search finds the split that lies in its stretch. -/
theorem partitionPoint_eq (h : SplitsAt holds list n) (start size : Nat) (hstart : start ≤ n)
    (hend : n ≤ start + size) : partitionPoint holds list start size = n := by
  fun_induction partitionPoint holds list start size with
  | case1 start size hsize middle ih =>
      -- The half that is searched on holds the split, whatever the probe says.
      obtain ⟨hstart, hend⟩ := h.half hstart hend
      exact ih hstart hend
  | case2 start size hsize hlow =>
      have hprobe := (h.any_iff start).mp hlow
      omega
  | case3 start size hsize hhigh =>
      have hprobe := mt (h.any_iff start).mpr hhigh
      omega

/-- A probe that holds was made inside the list. -/
theorem lt_length_of_any {i : Nat} (h : list[i]?.any holds = true) : i < list.length := by
  rcases Nat.lt_or_ge i list.length with hinside | hbehind
  · exact hinside
  · rw [List.getElem?_eq_none hbehind] at h
    cases h

/-- The search never leaves the list, whether there is a single split in it or not. -/
theorem partitionPoint_le_length (start size : Nat) (hstart : start ≤ list.length) :
    partitionPoint holds list start size ≤ list.length := by
  fun_induction partitionPoint holds list start size with
  | case1 start size hsize middle ih =>
      apply ih
      split
      · rename_i hlow
        exact Nat.le_of_lt (lt_length_of_any hlow)
      · exact hstart
  | case2 start size hsize hlow => exact lt_length_of_any hlow
  | case3 start size hsize hhigh => exact hstart

end

/-! ## Lists whose heights never fall -/

/-- Whether no checkpoint of a list lies below an earlier one. -/
def NeverFalls (list : List Checkpoint) : Prop :=
  list.Pairwise fun earlier later => earlier.height ≤ later.height

theorem Ascends.neverFalls {list : List Checkpoint} (h : Ascends list) : NeverFalls list :=
  h.imp Int32.le_of_lt

section

variable {front back : List Checkpoint} {height : Int32}

/-- Where the heights up to the wanted one are followed by higher ones only, the last of them
is found. -/
theorem atOrBefore_append (hfront : ∀ c ∈ front, c.height ≤ height)
    (hback : ∀ c ∈ back, height < c.height) :
    atOrBefore (front ++ back) height = front.getLast? := by
  have hsplits : SplitsAt (fun c => c.height ≤ height) (front ++ back) front.length := by
    refine ⟨by simp, ?_⟩
    intro i hi
    rw [decide_eq_true_iff]
    rcases Nat.lt_or_ge i front.length with hlow | hhigh
    · rw [List.getElem_append_left hlow]
      exact iff_of_true (hfront _ (List.getElem_mem hlow)) hlow
    · have hbehind : i - front.length < back.length := by
        rw [List.length_append] at hi
        omega
      rw [List.getElem_append_right hhigh]
      have habove := hback _ (List.getElem_mem hbehind)
      exact iff_of_false (Int32.not_le.mpr habove) (Nat.not_lt.mpr hhigh)
  have hpoint := partitionPoint_eq hsplits 0 (front ++ back).length (Nat.zero_le _)
    (by simp)
  unfold atOrBefore
  rw [hpoint]
  cases hlength : front.length with
  | zero =>
      rw [List.eq_nil_of_length_eq_zero hlength]
      rfl
  | succ n =>
      have hlast : n = front.length - 1 := by omega
      change (front ++ back)[n]? = front.getLast?
      rw [List.getElem?_append_left (by omega), List.getLast?_eq_getElem?, hlast]

variable {list : List Checkpoint}

theorem NeverFalls.exists_split (h : NeverFalls list) (height : Int32) :
    ∃ front back, list = front ++ back ∧ (∀ c ∈ front, c.height ≤ height) ∧
      ∀ c ∈ back, height < c.height := by
  induction list with
  | nil => exact ⟨[], [], rfl, List.forall_mem_nil _, List.forall_mem_nil _⟩
  | cons c rest ih =>
      obtain ⟨hc, hrest⟩ := List.pairwise_cons.mp h
      rcases Int32.lt_or_le height c.height with hhigh | hlow
      · refine ⟨[], c :: rest, rfl, List.forall_mem_nil _, ?_⟩
        exact List.forall_mem_cons.mpr ⟨hhigh, fun d hd => Int32.lt_of_lt_of_le hhigh (hc d hd)⟩
      · obtain ⟨front, back, rfl, hfront, hback⟩ := ih hrest
        exact ⟨c :: front, back, rfl, List.forall_mem_cons.mpr ⟨hlow, hfront⟩, hback⟩

/-! ## What is found -/

/-- Whether a checkpoint is the last one of a list at or below a height. -/
def LastUpTo (list : List Checkpoint) (height : Int32) (c : Checkpoint) : Prop :=
  ∃ before after, list = before ++ c :: after ∧ c.height ≤ height ∧
    ∀ d ∈ after, height < d.height

/-- Whether a checkpoint of a list lies at or below a height, and above all others that do. -/
def HighestUpTo (list : List Checkpoint) (height : Int32) (c : Checkpoint) : Prop :=
  c ∈ list ∧ c.height ≤ height ∧ ∀ d ∈ list, d.height ≤ height → d ≠ c → d.height < c.height

theorem atOrBefore_eq_none_iff (h : NeverFalls list) :
    atOrBefore list height = none ↔ ∀ c ∈ list, height < c.height := by
  obtain ⟨front, back, rfl, hfront, hback⟩ := h.exists_split height
  rw [atOrBefore_append hfront hback, List.getLast?_eq_none_iff]
  constructor
  · rintro rfl
    exact hback
  · intro habove
    rw [List.eq_nil_iff_forall_not_mem]
    intro c hc
    exact Int32.not_le.mpr (habove c (List.mem_append_left _ hc)) (hfront c hc)

theorem atOrBefore_eq_some_iff (h : NeverFalls list) {c : Checkpoint} :
    atOrBefore list height = some c ↔ LastUpTo list height c := by
  constructor
  · intro hfound
    obtain ⟨front, back, rfl, hfront, hback⟩ := h.exists_split height
    rw [atOrBefore_append hfront hback] at hfound
    obtain ⟨before, rfl⟩ := List.getLast?_eq_some_iff.mp hfound
    exact ⟨before, back, by simp, hfront c (by simp), hback⟩
  · rintro ⟨before, after, rfl, hc, hafter⟩
    have hbefore : ∀ d ∈ before ++ [c], d.height ≤ height := by
      intro d hd
      rcases List.mem_append.mp hd with hd | hd
      · have hle := (List.pairwise_append.mp h).2.2 d hd c (by simp)
        exact Int32.le_trans hle hc
      · rwa [List.mem_singleton.mp hd]
    have hfound := atOrBefore_append hbefore hafter
    rwa [List.append_assoc, List.singleton_append, List.getLast?_concat] at hfound

/-- In a list that ascends the last checkpoint that is low enough is the highest one. -/
theorem Ascends.lastUpTo_iff (h : Ascends list) {c : Checkpoint} :
    LastUpTo list height c ↔ HighestUpTo list height c := by
  constructor
  · intro hc
    have hlast := hc
    obtain ⟨before, after, rfl, hlow, hafter⟩ := hc
    refine ⟨by simp, hlow, ?_⟩
    intro d hd hheight hne
    rcases List.mem_append.mp hd with hbefore | hrest
    · exact (List.pairwise_append.mp h).2.2 d hbefore c (by simp)
    rcases List.mem_cons.mp hrest with rfl | hbehind
    · exact absurd rfl hne
    · exact absurd hheight (Int32.not_le.mpr (hafter d hbehind))
  · rintro ⟨hmem, hlow, hhighest⟩
    obtain ⟨before, after, rfl⟩ := List.append_of_mem hmem
    refine ⟨before, after, rfl, hlow, ?_⟩
    intro d hd
    have hcd : c.height < d.height := by
      have hrest := (List.pairwise_append.mp h).2.1
      exact (List.pairwise_cons.mp hrest).1 d hd
    rw [← Int32.not_le]
    intro hheight
    have hne : d ≠ c := by
      rintro rfl
      exact Int32.lt_irrefl hcd
    exact Int32.lt_asymm hcd (hhighest d (by simp [hd]) hheight hne)

/-! ## Other heights -/

theorem LastUpTo.le_of_mem {c d : Checkpoint} (h : NeverFalls list) (hc : LastUpTo list height c)
    (hd : d ∈ list) (hheight : d.height ≤ height) : d.height ≤ c.height := by
  obtain ⟨before, after, rfl, -, hafter⟩ := hc
  rcases List.mem_append.mp hd with hbefore | hrest
  · exact (List.pairwise_append.mp h).2.2 d hbefore c (by simp)
  rcases List.mem_cons.mp hrest with rfl | hbehind
  · exact Int32.le_refl _
  · exact absurd hheight (Int32.not_le.mpr (hafter d hbehind))

/-- What is found for a height does not lie above what is found for a higher one. -/
theorem atOrBefore_mono (h : NeverFalls list) {low high : Int32} (hheights : low ≤ high)
    {c : Checkpoint} (hc : atOrBefore list low = some c) :
    ∃ d, atOrBefore list high = some d ∧ c.height ≤ d.height := by
  obtain ⟨before, after, hlist, hlow, -⟩ := (atOrBefore_eq_some_iff h).mp hc
  have hmem : c ∈ list := by simp [hlist]
  have hhigh : c.height ≤ high := Int32.le_trans hlow hheights
  cases hfound : atOrBefore list high with
  | none =>
      have habove := (atOrBefore_eq_none_iff h).mp hfound c hmem
      exact absurd hhigh (Int32.not_le.mpr habove)
  | some d =>
      have hd := (atOrBefore_eq_some_iff h).mp hfound
      exact ⟨d, rfl, hd.le_of_mem h hmem hhigh⟩

/-- From the last height on, the last checkpoint is found. -/
theorem atOrBefore_eq_getLast? (h : NeverFalls list)
    (hlast : ∀ c, list.getLast? = some c → c.height ≤ height) :
    atOrBefore list height = list.getLast? := by
  cases hc : list.getLast? with
  | none =>
      rw [List.getLast?_eq_none_iff.mp hc]
      exact (atOrBefore_eq_none_iff .nil).mpr (List.forall_mem_nil _)
  | some c =>
      obtain ⟨before, hlist⟩ := List.getLast?_eq_some_iff.mp hc
      rw [atOrBefore_eq_some_iff h]
      exact ⟨before, [], hlist, hlast c hc, List.forall_mem_nil _⟩

end

/-- Halving finds what a scan of the whole list finds, in every list whose heights never fall and
so in every list that passes the check: the last checkpoint at or below the height, which is the
highest one where the list ascends, and none if all of them are above it.  The position that is
looked up always lies in the list.  A higher height never finds a lower checkpoint, and from the
last height on the newest checkpoint of the network is found. -/
theorem atOrBefore_scans :
    (∀ list, checkAscending list = .ok () → NeverFalls list ∧ Ascends list) ∧
    (∀ list height n, partitionPoint (fun c => c.height ≤ height) list 0 list.length = n + 1 →
      n < list.length) ∧
    ∀ list, NeverFalls list →
      (∀ height, atOrBefore list height = none ↔ ∀ c ∈ list, height < c.height) ∧
      (∀ height c, atOrBefore list height = some c ↔ LastUpTo list height c) ∧
      (Ascends list → ∀ height c,
        atOrBefore list height = some c ↔ HighestUpTo list height c) ∧
      (∀ low high c, low ≤ high → atOrBefore list low = some c →
        ∃ d, atOrBefore list high = some d ∧ c.height ≤ d.height) ∧
      ∀ (p : ParameterSet) (height : Int32), p.checkpoints = list →
        (∀ c, p.latestCheckpoint = some c → c.height ≤ height) →
          p.checkpointAtOrBefore height = p.latestCheckpoint := by
  refine ⟨?_, ?_, ?_⟩
  · intro list hcheck
    have hascends := (checkAscending_eq_ok_iff list).mp hcheck
    exact ⟨hascends.neverFalls, hascends⟩
  · intro list height n hpoint
    have hle : partitionPoint (fun c => c.height ≤ height) list 0 list.length ≤ list.length :=
      partitionPoint_le_length 0 list.length (Nat.zero_le _)
    omega
  intro list h
  refine ⟨fun height => atOrBefore_eq_none_iff h, fun height c => atOrBefore_eq_some_iff h, ?_,
    fun low high c hheights => atOrBefore_mono h hheights, ?_⟩
  · intro hascends height c
    rw [atOrBefore_eq_some_iff h, hascends.lastUpTo_iff]
  · rintro p height rfl hlast
    exact atOrBefore_eq_getLast? h hlast

/-- Three checkpoints, two of which have the same height. -/
def twins : List Checkpoint := [⟨-5, .zero⟩, ⟨7, .zero⟩, ⟨7, .ofNat 1⟩]

/-- Of two checkpoints at one height the later one is found, and nothing below the first height. -/
theorem twins_scans :
    NeverFalls twins ∧ atOrBefore twins 8 = some ⟨7, .ofNat 1⟩ ∧ atOrBefore twins (-6) = none ∧
    checkAscending (twins.take 2) = .ok () ∧
    atOrBefore (twins.take 2) 6 = some ⟨-5, .zero⟩ := by
  obtain ⟨hchecked, -, hscan⟩ := atOrBefore_scans
  have hfalls : NeverFalls twins := by
    unfold NeverFalls
    decide
  have hcheck : checkAscending (twins.take 2) = .ok () := by rfl
  obtain ⟨hnone, hsome, -⟩ := hscan twins hfalls
  obtain ⟨hfirst, hascends⟩ := hchecked _ hcheck
  obtain ⟨-, -, hhighest, -⟩ := hscan _ hfirst
  refine ⟨hfalls, ?_, (hnone (-6)).mpr (by decide), hcheck, ?_⟩
  · exact (hsome 8 _).mpr ⟨twins.take 2, [], rfl, by decide, List.forall_mem_nil _⟩
  · exact (hhighest hascends 6 _).mpr ⟨by decide, by decide, by decide⟩

end ChainParams.Checkpoint

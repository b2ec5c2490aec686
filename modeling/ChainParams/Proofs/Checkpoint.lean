import ChainParams.Checkpoint
import ChainParams.Proofs.Check

/-!
# Lists of checkpoints that ascend

Only neighbours are compared, and since the order of heights is transitive this
decides the order of any two checkpoints.  If a list does not ascend, the scan
stops at the first height that does not lie above the one before it, and what
stands before this height is the longest front of the list that ascends
(`FirstFall.ascends_take_iff`).
-/

namespace ChainParams.Checkpoint

/-- Whether every checkpoint of a list lies below all later ones. -/
def Ascends (list : List Checkpoint) : Prop :=
  list.Pairwise fun earlier later => earlier.height < later.height

theorem ascends_cons {c : Checkpoint} {rest : List Checkpoint} :
    Ascends (c :: rest) ↔ (∀ d ∈ rest, c.height < d.height) ∧ Ascends rest :=
  List.pairwise_cons

/-- The scan behind a height succeeds exactly if the rest ascends from there. -/
theorem checkAscendingFrom_eq_ok_iff (index : Nat) (previous : Int32) (rest : List Checkpoint) :
    checkAscendingFrom index previous rest = .ok () ↔
      (∀ c ∈ rest, previous < c.height) ∧ Ascends rest := by
  induction rest generalizing index previous with
  | nil => exact iff_of_true rfl ⟨fun c hc => absurd hc List.not_mem_nil, List.Pairwise.nil⟩
  | cons c rest ih =>
      rw [checkAscendingFrom, ite_error_eq_ok_iff, ih, Int32.not_le, ascends_cons,
        List.forall_mem_cons]
      constructor
      · rintro ⟨hlt, habove, hrest⟩
        exact ⟨⟨hlt, fun d hd => Int32.lt_trans hlt (habove d hd)⟩, habove, hrest⟩
      · rintro ⟨⟨hlt, -⟩, habove, hrest⟩
        exact ⟨hlt, habove, hrest⟩

theorem checkAscending_eq_ok_iff (list : List Checkpoint) :
    checkAscending list = .ok () ↔ Ascends list := by
  cases list with
  | nil => exact iff_of_true rfl List.Pairwise.nil
  | cons c rest => rw [checkAscending, checkAscendingFrom_eq_ok_iff, ascends_cons]

/-! ## Where a list stops ascending -/

/-- The heights of a list of checkpoints. -/
def heights (list : List Checkpoint) : List Int32 := list.map Checkpoint.height

/-- Whether the height at a position does not lie above the one before it. -/
def FallsAt (heights : List Int32) (index : Nat) (previous height : Int32) : Prop :=
  ∃ before, index = before + 1 ∧ heights[before]? = some previous ∧
    heights[index]? = some height ∧ height ≤ previous

/-- Whether this is the least position at which the heights do not ascend. -/
def FirstFall (heights : List Int32) (index : Nat) (previous height : Int32) : Prop :=
  FallsAt heights index previous height ∧ ∀ i < index, ∀ a b, ¬ FallsAt heights i a b

section

variable {a b : Int32} {rest : List Int32} {index : Nat} {previous height : Int32}

theorem not_fallsAt_zero {heights : List Int32} : ¬ FallsAt heights 0 previous height := by
  rintro ⟨before, hindex, -⟩
  cases hindex

theorem fallsAt_one : FallsAt (a :: b :: rest) 1 previous height ↔
    previous = a ∧ height = b ∧ b ≤ a := by
  constructor
  · rintro ⟨before, hindex, hprevious, hheight, hle⟩
    obtain rfl : before = 0 := by omega
    obtain rfl : a = previous := Option.some.inj hprevious
    obtain rfl : b = height := Option.some.inj hheight
    exact ⟨rfl, rfl, hle⟩
  · rintro ⟨rfl, rfl, hle⟩
    exact ⟨0, rfl, rfl, rfl, hle⟩

/-- Behind the first height the positions are one less. -/
theorem fallsAt_cons :
    FallsAt (a :: rest) (index + 2) previous height ↔ FallsAt rest (index + 1) previous height := by
  constructor
  · rintro ⟨before, hindex, hprevious, hheight, hle⟩
    obtain rfl : before = index + 1 := by omega
    exact ⟨index, rfl, hprevious, hheight, hle⟩
  · rintro ⟨before, hindex, hprevious, hheight, hle⟩
    obtain rfl : before = index := by omega
    exact ⟨before + 1, rfl, hprevious, hheight, hle⟩

theorem not_fallsAt_singleton : ¬ FallsAt [a] index previous height := by
  rintro ⟨before, rfl, -, hheight, -⟩
  cases hheight

/-- The front of a list falls where the list falls, as far as the front goes. -/
theorem fallsAt_take_iff {heights : List Int32} (n : Nat) :
    FallsAt (heights.take n) index previous height ↔
      index < n ∧ FallsAt heights index previous height := by
  unfold FallsAt
  simp only [List.getElem?_take, Option.ite_none_right_eq_some]
  constructor
  · rintro ⟨before, rfl, ⟨-, hprevious⟩, ⟨hindex, hheight⟩, hle⟩
    exact ⟨hindex, before, rfl, hprevious, hheight, hle⟩
  · rintro ⟨hindex, before, rfl, hprevious, hheight, hle⟩
    exact ⟨before, rfl, ⟨Nat.lt_of_succ_lt hindex, hprevious⟩, ⟨hindex, hheight⟩, hle⟩

/-- Two heights that do not ascend are the first ones of their list. -/
theorem firstFall_of_le (h : b ≤ a) :
    FirstFall (a :: b :: rest) index previous height ↔ index = 1 ∧ previous = a ∧ height = b := by
  constructor
  · rintro ⟨hfalls, hleast⟩
    have hindex : index = 1 := by
      rcases Nat.lt_trichotomy index 1 with hlt | heq | hgt
      · obtain rfl : index = 0 := by omega
        exact absurd hfalls not_fallsAt_zero
      · exact heq
      · exact absurd (fallsAt_one.mpr ⟨rfl, rfl, h⟩) (hleast 1 hgt a b)
    subst hindex
    obtain ⟨hprevious, hheight, -⟩ := fallsAt_one.mp hfalls
    exact ⟨rfl, hprevious, hheight⟩
  · rintro ⟨rfl, rfl, rfl⟩
    refine ⟨fallsAt_one.mpr ⟨rfl, rfl, h⟩, ?_⟩
    intro i hi x y
    obtain rfl : i = 0 := by omega
    exact not_fallsAt_zero

/-- Two heights that ascend are passed over. -/
theorem firstFall_of_lt (h : a < b) :
    FirstFall (a :: b :: rest) index previous height ↔
      ∃ i, index = i + 1 ∧ FirstFall (b :: rest) i previous height := by
  have hone : ∀ x y, ¬ FallsAt (a :: b :: rest) 1 x y := by
    intro x y hfalls
    exact Int32.not_le.mpr h (fallsAt_one.mp hfalls).2.2
  constructor
  · rintro ⟨hfalls, hleast⟩
    rcases index with _ | _ | i
    · exact absurd hfalls not_fallsAt_zero
    · exact absurd hfalls (hone _ _)
    · refine ⟨i + 1, rfl, fallsAt_cons.mp hfalls, ?_⟩
      intro j hj x y hearlier
      rcases j with _ | j
      · exact not_fallsAt_zero hearlier
      · exact hleast (j + 2) (by omega) x y (fallsAt_cons.mpr hearlier)
  · rintro ⟨i, rfl, hfalls, hleast⟩
    rcases i with _ | i
    · exact absurd hfalls not_fallsAt_zero
    · refine ⟨fallsAt_cons.mpr hfalls, ?_⟩
      intro j hj x y hearlier
      rcases j with _ | _ | j
      · exact not_fallsAt_zero hearlier
      · exact hone x y hearlier
      · exact hleast (j + 1) (by omega) x y (fallsAt_cons.mp hearlier)

end

/-- The scan behind a height reports the first fall of the list that this height heads. -/
theorem checkAscendingFrom_eq_error_iff (index : Nat) (previous : Int32) (rest : List Checkpoint)
    (flaw : Flaw) :
    checkAscendingFrom index previous rest = .error flaw ↔
      ∃ i a b, FirstFall (previous :: heights rest) (i + 1) a b ∧
        flaw = .checkpointsNotAscending (index + i) a b := by
  induction rest generalizing index previous with
  | nil =>
      constructor
      · intro h
        cases h
      · rintro ⟨i, a, b, ⟨hfalls, -⟩, -⟩
        exact absurd hfalls not_fallsAt_singleton
  | cons c rest ih =>
      rw [checkAscendingFrom, ite_error_eq_error_iff, ih, Int32.not_le]
      constructor
      · rintro (⟨hle, rfl⟩ | ⟨hlt, i, a, b, hfirst, rfl⟩)
        · exact ⟨0, previous, c.height, (firstFall_of_le hle).mpr ⟨rfl, rfl, rfl⟩, rfl⟩
        · refine ⟨i + 1, a, b, (firstFall_of_lt hlt).mpr ⟨i + 1, rfl, hfirst⟩, ?_⟩
          rw [Nat.add_right_comm, Nat.add_assoc]
      · rintro ⟨i, a, b, hfirst, rfl⟩
        rcases Int32.lt_or_le previous c.height with hlt | hle
        · right
          obtain ⟨j, hj, hfirst⟩ := (firstFall_of_lt hlt).mp hfirst
          obtain rfl : i = j := by omega
          rcases i with _ | i
          · exact absurd hfirst.1 not_fallsAt_zero
          · refine ⟨hlt, i, a, b, hfirst, ?_⟩
            rw [Nat.add_right_comm, Nat.add_assoc]
        · left
          obtain ⟨hi, rfl, rfl⟩ := (firstFall_of_le hle).mp hfirst
          obtain rfl : i = 0 := by omega
          exact ⟨hle, rfl⟩

/-- What the check of a list reports is its first fall, with the two heights. -/
theorem checkAscending_eq_error_iff (list : List Checkpoint) (flaw : Flaw) :
    checkAscending list = .error flaw ↔
      ∃ index previous height, FirstFall (heights list) index previous height ∧
        flaw = .checkpointsNotAscending index previous height := by
  cases list with
  | nil =>
      constructor
      · intro h
        cases h
      · rintro ⟨index, previous, height, ⟨⟨before, -, hprevious, -⟩, -⟩, -⟩
        cases hprevious
  | cons c rest =>
      rw [checkAscending, checkAscendingFrom_eq_error_iff]
      constructor
      · rintro ⟨i, a, b, hfirst, rfl⟩
        exact ⟨i + 1, a, b, hfirst, by rw [Nat.add_comm]⟩
      · rintro ⟨index, a, b, hfirst, rfl⟩
        obtain ⟨i, rfl, -⟩ := hfirst.1
        exact ⟨i, a, b, hfirst, by rw [Nat.add_comm]⟩

/-- Hashes play no part in the check. -/
theorem checkAscending_congr {list list' : List Checkpoint} (h : heights list = heights list') :
    checkAscending list = checkAscending list' := by
  cases hcheck : checkAscending list' with
  | error flaw =>
      rw [checkAscending_eq_error_iff] at hcheck ⊢
      rwa [h]
  | ok _ =>
      cases hother : checkAscending list with
      | ok _ => rfl
      | error flaw =>
          rw [checkAscending_eq_error_iff, h, ← checkAscending_eq_error_iff, hcheck] at hother
          cases hother

/-! ## The order of the whole list -/

section

variable {list : List Checkpoint} {index : Nat} {previous height : Int32}

theorem Ascends.pairwise_heights (h : Ascends list) : (heights list).Pairwise (· < ·) :=
  List.pairwise_map.mpr h

theorem Ascends.not_fallsAt (h : Ascends list) :
    ¬ FallsAt (heights list) index previous height := by
  rintro ⟨before, rfl, hprevious, hheight, hle⟩
  obtain ⟨hbefore, rfl⟩ := List.getElem?_eq_some_iff.mp hprevious
  obtain ⟨hindex, rfl⟩ := List.getElem?_eq_some_iff.mp hheight
  have hpair := List.pairwise_iff_getElem.mp h.pairwise_heights
  have hlt := hpair before (before + 1) hbefore hindex (Nat.lt_succ_self before)
  exact Int32.not_le.mpr hlt hle

/-- Neighbours decide the order of any two checkpoints. -/
theorem ascends_iff_forall_not_fallsAt :
    Ascends list ↔ ∀ index previous height, ¬ FallsAt (heights list) index previous height := by
  constructor
  · intro hascends index previous height
    exact hascends.not_fallsAt
  · intro hnever
    cases hcheck : checkAscending list with
    | ok _ => exact (checkAscending_eq_ok_iff list).mp hcheck
    | error flaw =>
        obtain ⟨index, previous, height, hfirst, -⟩ :=
          (checkAscending_eq_error_iff list flaw).mp hcheck
        exact absurd hfirst.1 (hnever index previous height)

/-- The checkpoints before the first fall are the longest front of a list that ascends. -/
theorem FirstFall.ascends_take_iff (h : FirstFall (heights list) index previous height) (n : Nat) :
    Ascends (list.take n) ↔ n ≤ index := by
  rw [ascends_iff_forall_not_fallsAt, heights, List.map_take]
  simp only [fallsAt_take_iff]
  constructor
  · intro hnever
    rw [← Nat.not_lt]
    intro hbehind
    exact hnever index previous height ⟨hbehind, h.1⟩
  · rintro hn i a b ⟨hi, hfalls⟩
    exact h.2 i (Nat.lt_of_lt_of_le hi hn) a b hfalls

end

/-- The check succeeds exactly if every checkpoint lies below all later ones, and then no height
occurs twice.  Otherwise it reports the first position whose height does not lie above the one
before it, with both heights; what stands before that position is the longest front of the list
that ascends. -/
theorem checkAscending_decides_order :
    ∀ list : List Checkpoint,
      (checkAscending list = .ok () ↔
        ∀ (i j : Nat) (hi : i < list.length) (hj : j < list.length), i < j →
          list[i].height < list[j].height) ∧
      (checkAscending list = .ok () → (heights list).Nodup) ∧
      (checkAscending list ≠ .ok () → ∃ index previous height,
        checkAscending list = .error (.checkpointsNotAscending index previous height) ∧
        1 ≤ index ∧ FirstFall (heights list) index previous height ∧
        ∀ n, Ascends (list.take n) ↔ n ≤ index) := by
  intro list
  refine ⟨?_, ?_, ?_⟩
  · rw [checkAscending_eq_ok_iff]
    exact List.pairwise_iff_getElem
  · intro hcheck
    have hascends := (checkAscending_eq_ok_iff list).mp hcheck
    exact hascends.pairwise_heights.imp Int32.ne_of_lt
  · intro hfails
    cases hcheck : checkAscending list with
    | ok _ => exact absurd hcheck hfails
    | error flaw =>
        obtain ⟨index, previous, height, hfirst, rfl⟩ :=
          (checkAscending_eq_error_iff list flaw).mp hcheck
        obtain ⟨before, hindex, -⟩ := hfirst.1
        exact ⟨index, previous, height, rfl, by omega, hfirst, hfirst.ascends_take_iff⟩

/-- Checkpoints from the lowest height to the highest one, which is reached twice before the
heights go down. -/
def plateau : List Checkpoint :=
  [⟨-2147483648, .zero⟩, ⟨-1, .zero⟩, ⟨2147483647, .zero⟩, ⟨2147483647, .ofNat 1⟩, ⟨0, .zero⟩]

/-- The repeated height is reported, and the three checkpoints before it are in order. -/
theorem plateau_decides_order :
    checkAscending plateau = .error (.checkpointsNotAscending 3 2147483647 2147483647) ∧
    Ascends (plateau.take 3) ∧ ¬ Ascends (plateau.take 4) ∧
    checkAscending (plateau.take 3) = .ok () ∧ (heights (plateau.take 3)).Nodup := by
  have hcheck : checkAscending plateau =
      .error (.checkpointsNotAscending 3 2147483647 2147483647) := by rfl
  have hfails : checkAscending plateau ≠ .ok () := by
    rw [hcheck]
    intro h
    cases h
  have hfront : checkAscending (plateau.take 3) = .ok () := by rfl
  obtain ⟨-, -, hfirst⟩ := checkAscending_decides_order plateau
  obtain ⟨-, hdistinct, -⟩ := checkAscending_decides_order (plateau.take 3)
  obtain ⟨index, previous, height, hreported, -, -, hlongest⟩ := hfirst hfails
  cases hcheck.symm.trans hreported
  exact ⟨hcheck, (hlongest 3).mpr (by decide), mt (hlongest 4).mp (by decide), hfront,
    hdistinct hfront⟩

end ChainParams.Checkpoint

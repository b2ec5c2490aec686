/-!
# Checks

A check gives nothing or the flaw that it found.  Checks are put together in three
ways: one behind another, one for each element of a list, and a condition that
has to fail before anything else is looked at.  What it takes for the whole to
succeed is said here for each of them, and which flaw is found if it does not.
-/

namespace ChainParams

variable {ε : Type}

/-- One check after another succeeds exactly if both do. -/
theorem bind_eq_ok_iff {first second : Except ε Unit} :
    (first >>= fun _ => second) = .ok () ↔ first = .ok () ∧ second = .ok () := by
  cases first with
  | error e => exact ⟨fun h => (nomatch h), fun h => (nomatch h.1)⟩
  | ok _ => exact ⟨fun h => ⟨rfl, h⟩, fun h => h.2⟩

/-- A computation that goes on from another one succeeds only behind it. -/
theorem exists_of_bind_eq_ok {α β : Type} {first : Except ε α} {next : α → Except ε β} {b : β}
    (h : (first >>= next) = .ok b) : ∃ a, first = .ok a ∧ next a = .ok b := by
  cases first with
  | error e => cases h
  | ok a => exact ⟨a, rfl, h⟩

theorem map_eq_ok_iff {α β : Type} {first : Except ε α} {f : α → β} {b : β} :
    first.map f = .ok b ↔ ∃ a, first = .ok a ∧ f a = b := by
  cases first <;> simp [Except.map]

theorem map_eq_error_iff {α β : Type} {first : Except ε α} {f : α → β} {e : ε} :
    first.map f = .error e ↔ first = .error e := by
  cases first <;> simp [Except.map]

theorem mapError_eq_ok_iff {ε' α : Type} {first : Except ε α} {f : ε → ε'} {a : α} :
    first.mapError f = .ok a ↔ first = .ok a := by
  cases first with
  | error d =>
      change Except.error (f d) = .ok a ↔ _
      simp
  | ok b =>
      change Except.ok b = .ok a ↔ _
      rw [Except.ok.injEq, Except.ok.injEq]

theorem mapError_eq_error_iff {ε' α : Type} {first : Except ε α} {f : ε → ε'} {e : ε'} :
    first.mapError f = .error e ↔ ∃ d, first = .error d ∧ e = f d := by
  cases first with
  | error d =>
      change Except.error (f d) = .error e ↔ _
      simp [eq_comm]
  | ok b =>
      change Except.ok b = .error e ↔ _
      simp

/-- Checks of the elements of a list succeed exactly if all of them do. -/
theorem forM_eq_ok_iff {α : Type} {check : α → Except ε Unit} (list : List α) :
    list.forM check = .ok () ↔ ∀ a ∈ list, check a = .ok () := by
  induction list with
  | nil => exact iff_of_true rfl fun a ha => absurd ha List.not_mem_nil
  | cons a list ih =>
      rw [List.forall_mem_cons, ← ih]
      exact bind_eq_ok_iff

/-- Checks of the elements of a list find the flaw of the first element that has one. -/
theorem forM_eq_error_iff {α : Type} {check : α → Except ε Unit} {flaw : ε} (list : List α) :
    list.forM check = .error flaw ↔ ∃ earlier a later, list = earlier ++ a :: later ∧
      (∀ b ∈ earlier, check b = .ok ()) ∧ check a = .error flaw := by
  induction list with
  | nil =>
      constructor
      · intro h
        cases h
      · rintro ⟨earlier, a, later, hlist, -⟩
        exact absurd hlist.symm (by simp)
  | cons first list ih =>
      change (check first >>= fun _ => list.forM check) = .error flaw ↔ _
      cases hfirst : check first with
      | error found =>
          constructor
          · intro h
            exact ⟨[], first, list, rfl, List.forall_mem_nil _, hfirst.trans h⟩
          · rintro ⟨earlier, a, later, hlist, hearlier, ha⟩
            cases earlier with
            | nil =>
                obtain ⟨rfl, -⟩ := List.cons.inj hlist
                exact hfirst.symm.trans ha
            | cons b earlier =>
                obtain ⟨rfl, -⟩ := List.cons.inj hlist
                cases hfirst.symm.trans (hearlier first (List.mem_cons_self ..))
      | ok _ =>
          refine ih.trans ?_
          constructor
          · rintro ⟨earlier, a, later, rfl, hearlier, ha⟩
            exact ⟨first :: earlier, a, later, rfl, List.forall_mem_cons.mpr ⟨hfirst, hearlier⟩, ha⟩
          · rintro ⟨earlier, a, later, hlist, hearlier, ha⟩
            cases earlier with
            | nil =>
                obtain ⟨rfl, -⟩ := List.cons.inj hlist
                cases hfirst.symm.trans ha
            | cons b earlier =>
                obtain ⟨rfl, rfl⟩ := List.cons.inj hlist
                exact ⟨earlier, a, later, rfl, (List.forall_mem_cons.mp hearlier).2, ha⟩

/-- A flaw that is looked for first must be absent, and then the rest decides. -/
theorem ite_error_eq_ok_iff {broken : Prop} [Decidable broken] {flaw : ε}
    {rest : Except ε Unit} :
    (if broken then .error flaw else rest) = .ok () ↔ ¬ broken ∧ rest = .ok () := by
  by_cases h : broken
  · rw [if_pos h]
    exact ⟨fun hrest => (nomatch hrest), fun hrest => absurd h hrest.1⟩
  · rw [if_neg h, and_iff_right h]

/-- A flaw that is looked for first is found if it is there, and then only it. -/
theorem ite_error_eq_error_iff {broken : Prop} [Decidable broken] {flaw found : ε}
    {rest : Except ε Unit} :
    (if broken then .error flaw else rest) = .error found ↔
      (broken ∧ found = flaw) ∨ (¬ broken ∧ rest = .error found) := by
  by_cases h : broken
  · rw [if_pos h]
    simp [h, eq_comm]
  · rw [if_neg h]
    simp [h]

/-- A condition without which there is a flaw is what success means. -/
theorem ite_ok_eq_ok_iff {holds : Prop} [Decidable holds] {flaw : ε} :
    (if holds then .ok () else .error flaw) = Except.ok () ↔ holds := by
  by_cases h : holds
  · rw [if_pos h]
    exact iff_of_true rfl h
  · rw [if_neg h]
    exact ⟨fun hrest => (nomatch hrest), fun hrest => absurd hrest h⟩

theorem ite_ok_eq_error_iff {holds : Prop} [Decidable holds] {flaw found : ε} :
    (if holds then .ok () else .error flaw) = Except.error found ↔ ¬ holds ∧ found = flaw := by
  by_cases h : holds
  · rw [if_pos h]
    simp [h]
  · rw [if_neg h]
    simp [h, eq_comm]

end ChainParams

import ChainParams.Schema.Read

/-!
# Items

The items of an array are read one after another.  If all of them are read, each gives the
value at its own position, and an item that is put in the place of another one decides this
position alone.
-/

namespace ChainParams

open Json (Fault)

variable {α : Type} {read : Json → Except Fault α}

theorem mapM_cons_eq_ok_iff {j : Json} {items : List Json} {as : List α} :
    (j :: items).mapM read = .ok as ↔
      ∃ a rest, read j = .ok a ∧ items.mapM read = .ok rest ∧ as = a :: rest := by
  rw [List.mapM_cons]
  cases read j with
  | error fault => simp [bind, Except.bind]
  | ok a => cases items.mapM read <;> simp [bind, Except.bind, pure, Except.pure, eq_comm]

/-- What holds of every value that is read holds of all values of an array. -/
theorem forall_mem_of_mapM {P : α → Prop} (hP : ∀ j a, read j = .ok a → P a)
    {items : List Json} {as : List α} (h : items.mapM read = .ok as) : ∀ a ∈ as, P a := by
  induction items generalizing as with
  | nil =>
      cases h
      exact List.forall_mem_nil _
  | cons j items ih =>
      obtain ⟨a, rest, hj, hitems, rfl⟩ := mapM_cons_eq_ok_iff.mp h
      exact List.forall_mem_cons.mpr ⟨hP j a hj, ih hitems⟩

section

variable {front back : List Json} {old : Json} {as : List α}
  (h : (front ++ old :: back).mapM read = .ok as)
include h

/-- An item is read as the value at its position. -/
theorem exists_read_of_mapM : ∃ a, read old = .ok a ∧ as[front.length]? = some a := by
  induction front generalizing as with
  | nil =>
      obtain ⟨a, rest, hold, -, rfl⟩ := mapM_cons_eq_ok_iff.mp h
      exact ⟨a, hold, rfl⟩
  | cons j front ih =>
      obtain ⟨a, rest, -, hitems, rfl⟩ := mapM_cons_eq_ok_iff.mp h
      exact ih hitems

/-- An item in the place of another one is read for its position only. -/
theorem mapM_replaced (new : Json) :
    (front ++ new :: back).mapM read = (read new).map fun a => as.set front.length a := by
  induction front generalizing as with
  | nil =>
      obtain ⟨a, rest, -, hback, rfl⟩ := mapM_cons_eq_ok_iff.mp h
      rw [List.nil_append, List.mapM_cons, hback]
      cases read new <;> rfl
  | cons j front ih =>
      obtain ⟨a, rest, hj, hitems, rfl⟩ := mapM_cons_eq_ok_iff.mp h
      rw [List.cons_append, List.mapM_cons, hj, ih hitems]
      cases read new <;> rfl

end

end ChainParams

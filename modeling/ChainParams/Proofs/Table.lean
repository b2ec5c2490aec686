import ChainParams.Table

/-!
# Looking up what was inserted

An insertion into a table answers for its own key and leaves every other key as
it was.
-/

namespace ChainParams.Table

variable {κ ν : Type} [DecidableEq κ]

/-- The first entry of a list answers for its own key. -/
theorem lookup_cons_eq_ite (key k : κ) (value : ν) (rest : List (κ × ν)) :
    ((k, value) :: rest).lookup key = if key = k then some value else rest.lookup key := by
  rw [List.lookup_cons]
  by_cases h : key = k
  · rw [if_pos h, beq_iff_eq.mpr h]
  · rw [if_neg h, beq_eq_false_iff_ne.mpr h]

variable [LT κ] [DecidableLT κ]

theorem lookup_insertEntry (key key' : κ) (value : ν) (entries : List (κ × ν)) :
    (insertEntry key value entries).lookup key' =
      if key' = key then some value else entries.lookup key' := by
  induction entries with
  | nil => exact lookup_cons_eq_ite key' key value []
  | cons entry rest ih =>
      obtain ⟨k, v⟩ := entry
      rw [insertEntry, lookup_cons_eq_ite]
      by_cases hkey : key = k
      · subst hkey
        rw [if_pos rfl, lookup_cons_eq_ite]
        by_cases h : key' = key <;> simp only [h, if_true, if_false]
      · rw [if_neg hkey]
        by_cases hlt : key < k
        · rw [if_pos hlt, lookup_cons_eq_ite, lookup_cons_eq_ite]
        · rw [if_neg hlt, lookup_cons_eq_ite, ih]
          by_cases h : key' = k
          · have hne : key' ≠ key := fun heq => hkey (heq.symm.trans h)
            rw [if_pos h, if_neg hne, if_pos h]
          · rw [if_neg h, if_neg h]

theorem get?_insert (table : Table κ ν) (key key' : κ) (value : ν) :
    (table.insert key value).get? key' = if key' = key then some value else table.get? key' :=
  lookup_insertEntry key key' value table.entries

theorem get?_insert_self (table : Table κ ν) (key : κ) (value : ν) :
    (table.insert key value).get? key = some value := by
  rw [get?_insert, if_pos rfl]

theorem get?_insert_of_ne (table : Table κ ν) {key key' : κ} (h : key' ≠ key) (value : ν) :
    (table.insert key value).get? key' = table.get? key' := by
  rw [get?_insert, if_neg h]

theorem contains_insert (table : Table κ ν) (key key' : κ) (value : ν) :
    (table.insert key value).contains key' = true ↔ key' = key ∨ table.contains key' = true := by
  rw [contains, get?_insert]
  by_cases h : key' = key
  · simp [h]
  · simp [h, contains]

end ChainParams.Table

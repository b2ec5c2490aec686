import ChainParams.Registry.Indices
import ChainParams.Proofs.Table

/-!
# The tables of a list of networks

The tables of a list that grows at its end are those of the shorter list with
one more entry each.  What a table then holds is read off the list.
-/

namespace ChainParams.Indices

theorem insertFrom_append (indices : Indices) (position : Nat) (networks more : List ParameterSet) :
    indices.insertFrom position (networks ++ more) =
      (indices.insertFrom position networks).insertFrom (position + networks.length) more := by
  induction networks generalizing indices position with
  | nil => rfl
  | cons p rest ih =>
      rw [List.cons_append, insertFrom, insertFrom, ih, List.length_cons]
      congr 1
      omega

/-- The tables of a list with one more network behind the others. -/
theorem ofNetworks_concat (networks : List ParameterSet) (p : ParameterSet) :
    ofNetworks (networks ++ [p]) = (ofNetworks networks).insert networks.length p := by
  rw [ofNetworks, insertFrom_append, Nat.zero_add]
  rfl

/-- A table to which every network adds one key holds the keys of the networks. -/
theorem contains_ofNetworks {κ ν : Type} [DecidableEq κ] [LT κ] [DecidableLT κ]
    (table : Indices → Table κ ν) (key : ParameterSet → κ) (value : Nat → ParameterSet → ν)
    (hempty : table empty = .empty)
    (hinsert : ∀ indices position p,
      table (indices.insert position p) = (table indices).insert (key p) (value position p))
    (networks : List ParameterSet) (k : κ) :
    (table (ofNetworks networks)).contains k ↔ ∃ n ∈ networks, key n = k := by
  have hfrom : ∀ indices position, (table (indices.insertFrom position networks)).contains k ↔
      (table indices).contains k ∨ ∃ n ∈ networks, key n = k := by
    induction networks with
    | nil => simp [insertFrom]
    | cons p rest ih =>
        intro indices position
        simp only [insertFrom, ih, hinsert, Table.contains_insert, List.mem_cons, exists_eq_or_imp]
        rw [eq_comm, or_comm (a := key p = k), or_assoc]
  have hnone : (table empty).contains k = false := by rw [hempty]; rfl
  simp [ofNetworks, hfrom, hnone]

end ChainParams.Indices

import ChainParams.Flaw

/-!
# Checkpoints

A checkpoint pins the hash of the block at a height.  A list of checkpoints is
kept as it was written: it must ascend strictly by height, which is checked and
never enforced by sorting, and a height is looked up by halving the list.
-/

namespace ChainParams

/-- A known block hash at a height. -/
structure Checkpoint where
  height : Int32
  hash : Hash
  deriving DecidableEq

namespace Checkpoint

/-- Checks that every checkpoint lies above the one before it; `index` is the
position of the first one. -/
def checkAscendingFrom (index : Nat) (previous : Int32) : List Checkpoint → Except Flaw Unit
  | [] => .ok ()
  | c :: rest =>
    if c.height ≤ previous then .error (.checkpointsNotAscending index previous c.height)
    else checkAscendingFrom (index + 1) c.height rest

/-- Checks that the heights of a list ascend strictly. -/
def checkAscending : List Checkpoint → Except Flaw Unit
  | [] => .ok ()
  | c :: rest => checkAscendingFrom 1 c.height rest

/-- Halves the stretch of `size` elements from `start` on until one is left, and
gives the number of elements up to and including it if it satisfies the
predicate, and before it if not. -/
def partitionPoint (holds : Checkpoint → Bool) (list : List Checkpoint) (start size : Nat) : Nat :=
  if 1 < size then
    let middle := start + size / 2
    partitionPoint holds list (if list[middle]?.any holds then middle else start)
      (size - size / 2)
  else if list[start]?.any holds then start + 1
  else start
termination_by size

/-- The last checkpoint at or below a height, in a list that ascends. -/
def atOrBefore (list : List Checkpoint) (height : Int32) : Option Checkpoint :=
  match partitionPoint (fun c => c.height ≤ height) list 0 list.length with
  | 0 => none
  | n + 1 => list[n]?

end Checkpoint

end ChainParams

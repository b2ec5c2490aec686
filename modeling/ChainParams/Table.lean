/-!
# Tables

A table keeps one value for each of its keys, in ascending order of the keys.
Two tables built from the same keys and values are therefore the same list.
-/

namespace ChainParams

/-- Keys and their values, in ascending order of the keys. -/
structure Table (κ ν : Type) where
  entries : List (κ × ν)
  deriving DecidableEq

namespace Table

variable {κ ν : Type} [DecidableEq κ] [LT κ] [DecidableLT κ]

/-- The table without keys. -/
def empty : Table κ ν := ⟨[]⟩

/-- Puts a value under a key into ascending entries. -/
def insertEntry (key : κ) (value : ν) : List (κ × ν) → List (κ × ν)
  | [] => [(key, value)]
  | (k, v) :: rest =>
    if key = k then (key, value) :: rest
    else if key < k then (key, value) :: (k, v) :: rest
    else (k, v) :: insertEntry key value rest

/-- Puts a value under a key, in place of the one that was there. -/
def insert (table : Table κ ν) (key : κ) (value : ν) : Table κ ν :=
  ⟨insertEntry key value table.entries⟩

/-- The value under a key. -/
def get? (table : Table κ ν) (key : κ) : Option ν :=
  table.entries.lookup key

/-- Whether there is a value under a key. -/
def contains (table : Table κ ν) (key : κ) : Bool :=
  (table.get? key).isSome

/-- The keys in ascending order. -/
def keys (table : Table κ ν) : List κ :=
  table.entries.map (·.1)

end Table

end ChainParams

import ChainParams.ParameterSet
import ChainParams.Table

/-!
# Indices of a registry

What address codecs ask for most is kept in tables beside the list of networks.
An entry is added for each network in turn; entries of different networks may
coincide, and of two networks with one extended private-key version the later
one decides its public counterpart.
-/

namespace ChainParams

/-- Magics are ordered as numbers. -/
instance : LT Magic := ⟨fun a b => a.value < b.value⟩

instance : DecidableLT Magic := fun a b => inferInstanceAs (Decidable (a.value < b.value))

/-- The tables beside a list of networks. -/
structure Indices where
  /-- The position of the network with a magic. -/
  byMagic : Table Magic Nat
  pubKeyHashIds : Table UInt8 Unit
  scriptHashIds : Table UInt8 Unit
  /-- The texts that start bech32 addresses, in lowercase and with separator. -/
  bech32Starts : Table String Unit
  /-- The public version that belongs to an extended private-key version. -/
  hdPublicIds : Table (Vector UInt8 4) (Vector UInt8 4)
  deriving DecidableEq

namespace Indices

/-- The tables of no networks. -/
def empty : Indices := ⟨.empty, .empty, .empty, .empty, .empty⟩

/-- Adds the entries of the network at a position. -/
def insert (indices : Indices) (position : Nat) (p : ParameterSet) : Indices where
  byMagic := indices.byMagic.insert p.magic position
  pubKeyHashIds := indices.pubKeyHashIds.insert p.pubKeyHashId ()
  scriptHashIds := indices.scriptHashIds.insert p.scriptHashId ()
  bech32Starts := indices.bech32Starts.insert p.bech32Start ()
  hdPublicIds := indices.hdPublicIds.insert p.hdPrivateKeyId p.hdPublicKeyId

/-- Adds the entries of networks that stand side by side from a position on. -/
def insertFrom (indices : Indices) (position : Nat) : List ParameterSet → Indices
  | [] => indices
  | p :: rest => (indices.insert position p).insertFrom (position + 1) rest

/-- The tables of a list of networks. -/
def ofNetworks (networks : List ParameterSet) : Indices := empty.insertFrom 0 networks

end Indices

end ChainParams

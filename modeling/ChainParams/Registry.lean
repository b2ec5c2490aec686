import ChainParams.Known
import ChainParams.Registry.Indices

/-!
# Registries

A registry is a list of networks, in the order in which they were registered,
and the tables beside it.  Networks are only ever added.  A magic that is taken
is reported before any other flaw of the set, and a set that is refused leaves
the registry as it is.
-/

namespace ChainParams

/-- Why a network was not registered. -/
inductive RegisterError where
  | duplicate (name : String) (magic : Magic)
  | invalid (name : String) (flaw : Flaw)
  deriving DecidableEq

/-- The wording of a refusal. -/
def RegisterError.message : RegisterError → String
  | duplicate name magic =>
    "network " ++ name ++ " uses magic " ++ magic.display ++ ", which is already registered"
  | invalid name flaw => "invalid parameters for network " ++ name ++ ": " ++ flaw.message

/-- Networks in the order of their registration, and the tables beside them. -/
structure Registry where
  networks : List ParameterSet
  indices : Indices

namespace Registry

/-- The registry without networks. -/
def empty : Registry := ⟨[], .empty⟩

/-- The number of networks. -/
def size (r : Registry) : Nat := r.networks.length

/-- Whether a magic is taken. -/
def isRegistered (r : Registry) (magic : Magic) : Bool :=
  r.indices.byMagic.contains magic

/-- The registry with a network behind the others. -/
def push (r : Registry) (p : ParameterSet) : Registry :=
  ⟨r.networks ++ [p], r.indices.insert r.networks.length p⟩

/-- Registers a network.  The network that is added is the given one, so that only the
registry is given back.  Callers that share a registry look the magic up once more
before they add the network; here nothing comes in between, and one look is enough.
The header of the first block is not hashed. -/
def register (r : Registry) (p : ParameterSet) : Except RegisterError Registry :=
  if r.isRegistered p.magic then .error (.duplicate p.name p.magic)
  else
    match p.validate with
    | .ok () => .ok (r.push p)
    | .error flaw => .error (.invalid p.name flaw)

/-- The registry after an attempt to register a network. -/
def attempt (r : Registry) (p : ParameterSet) : Registry :=
  match r.register p with
  | .ok r => r
  | .error _ => r

/-- Why a network that comes with the library cannot be registered. -/
inductive AnchorError where
  | mismatch (flaw : Flaw)
  | refused (e : RegisterError)

/-- Registers a network that comes with the library, after hashing the header of its
first block. -/
def registerAnchored (r : Registry) (p : ParameterSet) : Except AnchorError Registry :=
  match p.verifyGenesis with
  | .error flaw => .error (.mismatch flaw)
  | .ok () =>
    match r.register p with
    | .ok r => .ok r
    | .error e => .error (.refused e)

/-- The registry of the known networks, of which none is refused. -/
def known : Registry :=
  (KnownNetwork.all.map KnownNetwork.params).foldl attempt empty

/-- The network with a magic. -/
def byMagic? (r : Registry) (magic : Magic) : Option ParameterSet := do
  let position ← r.indices.byMagic.get? magic
  r.networks[position]?

/-- The first network with a name. -/
def byName? (r : Registry) (name : String) : Option ParameterSet :=
  r.networks.find? (·.name = name)

/-- Whether the tables are those of the networks. -/
def indicesMatch (r : Registry) : Bool :=
  Indices.ofNetworks r.networks = r.indices

end Registry

end ChainParams

import ChainParams.Registry

/-!
# Identifying addresses and keys

What the first byte of an address, the start of a bech32 address or the version
of an extended key tells about its network.  A byte may belong to the key hashes
of one network and to the script hashes of another; the two questions are
answered separately, and both answers together classify the byte.
-/

namespace ChainParams

/-- What the first byte of an address can mean. -/
inductive AddressIdKind where
  | pubKeyHash
  | scriptHash
  | ambiguous
  | unknown
  deriving DecidableEq

namespace AddressIdKind

/-- The name of a kind. -/
def name : AddressIdKind → String
  | pubKeyHash => "pub_key_hash"
  | scriptHash => "script_hash"
  | ambiguous => "ambiguous"
  | unknown => "unknown"

/-- The kind of a byte, from the answers to the two questions. -/
def ofAnswers : (isPubKeyHash isScriptHash : Bool) → AddressIdKind
  | true, true => ambiguous
  | true, false => pubKeyHash
  | false, true => scriptHash
  | false, false => unknown

end AddressIdKind

/-- The version of an extended private key that belongs to no network. -/
structure UnknownHdKey where
  id : List UInt8
  deriving DecidableEq

/-- The wording for an unknown version. -/
def UnknownHdKey.message (e : UnknownHdKey) : String :=
  "unknown hd private extended key bytes " ++ Hex.encode e.id

namespace Registry

/-- Whether a byte starts the key-hash addresses of a network. -/
def isPubKeyHashId (r : Registry) (id : UInt8) : Bool :=
  r.indices.pubKeyHashIds.contains id

/-- Whether a byte starts the script-hash addresses of a network. -/
def isScriptHashId (r : Registry) (id : UInt8) : Bool :=
  r.indices.scriptHashIds.contains id

/-- What a byte at the start of an address can mean. -/
def classify (r : Registry) (id : UInt8) : AddressIdKind :=
  .ofAnswers (r.isPubKeyHashId id) (r.isScriptHashId id)

/-- Whether a text, in any case, starts the bech32 addresses of a network. -/
def isBech32Start (r : Registry) (text : String) : Bool :=
  r.indices.bech32Starts.contains (Text.lowercase text)

/-- The public version that belongs to an extended private-key version.  Only
versions of four bytes are looked up. -/
def hdPublicId (r : Registry) (id : List UInt8) : Except UnknownHdKey (Vector UInt8 4) :=
  if h : id.length = 4 then
    match r.indices.hdPublicIds.get? ⟨id.toArray, by simp [h]⟩ with
    | some publicId => .ok publicId
    | none => .error ⟨id⟩
  else .error ⟨id⟩

end Registry

end ChainParams

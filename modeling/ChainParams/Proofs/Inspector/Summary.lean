import ChainParams.Inspector
import ChainParams.Proofs.Bytes.Padded

/-!
# What is shown of a network

The inspector shows a network by one of two texts: the lines of a summary, or the description
of the network as a configuration file (`Shows`).  The lines are written out here with all
their blanks and digits.  The inspector lays them out by filling labels and numbers up to a
width instead, and what it prints is the same text (`shows_iff`).
-/

namespace ChainParams.Inspector

/-! ## Texts that show a network -/

/-- The four bytes of a number, most significant first, behind `0x`. -/
def wordText (n : UInt32) : String := "0x" ++ Hex.encode (bigEndian 4 n.toNat).toList

/-- The four bytes of a number, least significant first. -/
def wireText (n : UInt32) : String := Hex.encode (littleEndian 4 n.toNat).toList

/-- A byte behind `0x`. -/
def byteText (b : UInt8) : String := "0x" ++ Hex.encode [b]

/-- A version bit, on which two places are spent, and the times of its vote. -/
def voteText (d : Deployment) : String :=
  let blank := if d.bitNumber.toNat < 10 then " " else ""
  s!"bit {blank}{d.bitNumber.toNat}, {d.startTime.toNat} - {d.expireTime.toNat}"

/-- How the peers of a network are found, with a line for each seed. -/
def shownNetwork (p : ParameterSet) : List String :=
  [s!"Network:       {p.name}",
    s!"  Magic:       {wordText p.magic.value} ({wireText p.magic.value})",
    s!"  Port:        {p.defaultPort.toNat}"] ++
    p.seeds.map fun seed => s!"  Seed:        {seed.host}:{p.defaultPort.toNat}"

/-- The first block of a network. -/
def shownGenesis (p : ParameterSet) : List String :=
  ["Genesis:",
    s!"  Hash:        {p.genesis.hash.toHex}",
    s!"  Digest:      {p.genesis.headerDigest.toHex}",
    s!"  Merkle Root: {p.genesis.header.merkleRoot.toHex}",
    s!"  Timestamp:   {p.genesis.header.timestamp.toNat}",
    s!"  Bits:        {wordText p.genesis.header.bits.code}"]

/-- The consensus rules of a network, with a line for the newest checkpoint if there is
any. -/
def shownConsensus (p : ParameterSet) : List String :=
  ["Consensus:",
    s!"  PoW Limit:   {wordText p.powLimitBits.code}",
    s!"  Block Time:  {p.targetTimePerBlock.toNat}s",
    s!"  Maturity:    {p.coinbaseMaturity.toNat}",
    s!"  Checkpoints: {p.checkpoints.length}"] ++
    (p.checkpoints.getLast?.map fun newest =>
      s!"  Latest:      {newest.hash.toHex} @ {newest.height.toInt}").toList ++
    [s!"  Voting:      {p.ruleChangeThreshold.toNat}/{p.confirmationWindow.toNat}",
      s!"  testdummy:   {voteText p.deployments.testDummy}",
      s!"  csv:         {voteText p.deployments.csv}",
      s!"  segwit:      {voteText p.deployments.segwit}"]

/-- The address identifiers of a network. -/
def shownAddresses (p : ParameterSet) : List String :=
  ["Addresses:",
    s!"  Bech32:      {p.bech32Start}",
    s!"  PubKeyHash:  {byteText p.pubKeyHashId}",
    s!"  ScriptHash:  {byteText p.scriptHashId}",
    s!"  PrivateKey:  {byteText p.privateKeyId}",
    s!"  HD Private:  {Hex.encode p.hdPrivateKeyId.toList}",
    s!"  HD Public:   {Hex.encode p.hdPublicKeyId.toList}",
    s!"  Coin Type:   {p.hdCoinType.toNat}"]

/-- The lines of the summary of a network. -/
def shownLines (p : ParameterSet) : List String :=
  shownNetwork p ++ "" :: shownGenesis p ++ "" :: shownConsensus p ++ "" :: shownAddresses p

/-- Whether a text shows a network, by lines that all end in a line break, or as a
configuration file with a line break behind it. -/
inductive Shows : Bool → ParameterSet → String → Prop
  | lines (p : ParameterSet) : Shows false p (String.join ((shownLines p).map (· ++ "\n")))
  | file (p : ParameterSet) : Shows true p (Config.render p ++ "\n")

/-! ## Numbers of a fixed width -/

theorem padded_word (n : UInt32) : "0x" ++ Hex.padded 8 n.toNat = wordText n :=
  congrArg ("0x" ++ ·) (Hex.padded_eq_encode 3 n.toNat_lt)

theorem displayByte_eq (b : UInt8) : displayByte b = byteText b := by
  have hbyte : (bigEndian 1 b.toNat).toList = [b] := by
    rw [toList_bigEndian_succ, UInt8.ofNat_toNat]
    rfl
  rw [displayByte, byteText, ← hbyte]
  exact congrArg ("0x" ++ ·) (Hex.padded_eq_encode 0 b.toNat_lt)

/-- Only numbers of one digit leave a blank in two places. -/
theorem padLeft_two (n : Nat) :
    padLeft 2 (toString n) = (if n < 10 then " " else "") ++ toString n := by
  have hlength : (toString n).length = (Nat.toDigits 10 n).length := String.length_ofList
  rw [padLeft, hlength]
  split
  · next hn =>
    rw [Nat.toDigits_of_lt_base hn]
    rfl
  · next hn =>
    have hwide : ¬ (Nat.toDigits 10 n).length ≤ 1 := by
      rw [Nat.length_toDigits_le_iff (by decide) (by decide)]
      exact hn
    rw [show 2 - (Nat.toDigits 10 n).length = 0 by omega]
    rfl

/-! ## Lines

Labels are closed texts, so a line begins by evaluation as it is written out.  What follows
the label differs in where the parts are joined, and in the numbers above. -/

theorem networkLines_eq (p : ParameterSet) : networkLines p = shownNetwork p := by
  simp only [networkLines, shownNetwork, Magic.display, padded_word, ParameterSet.endpoints,
    Seed.endpoint, List.map_map, Function.comp_def, String.append_assoc]
  rfl

theorem genesisLines_eq (p : ParameterSet) : genesisLines p = shownGenesis p := by
  simp only [genesisLines, shownGenesis, Compact.display, padded_word]
  rfl

theorem deploymentLine_eq (slot : DeploymentId × Deployment) :
    deploymentLine slot = line slot.1.name (voteText slot.2) := by
  simp only [deploymentLine, voteText, padLeft_two, String.append_assoc]
  rfl

theorem consensusLines_eq (p : ParameterSet) : consensusLines p = shownConsensus p := by
  simp only [consensusLines, shownConsensus, Compact.display, padded_word,
    ParameterSet.latestCheckpoint, DeploymentTable.slots, List.map_cons, List.map_nil,
    deploymentLine_eq, List.append_assoc, List.singleton_append, String.append_assoc]
  rfl

theorem addressLines_eq (p : ParameterSet) : addressLines p = shownAddresses p := by
  simp only [addressLines, shownAddresses, displayByte_eq]
  rfl

theorem summary_eq (p : ParameterSet) :
    summary p = String.join ((shownLines p).map (· ++ "\n")) := by
  rw [summary, networkLines_eq, genesisLines_eq, consensusLines_eq, addressLines_eq, shownLines]

/-- A network is shown by exactly one text in each form, which is the one that the inspector
prints. -/
theorem shows_iff {json : Bool} {p : ParameterSet} {text : String} :
    Shows json p text ↔ text = display json p := by
  constructor
  · intro h
    cases h with
    | lines => exact (summary_eq p).symm
    | file => rfl
  · rintro rfl
    cases json with
    | false =>
        rw [display, if_neg Bool.false_ne_true, summary_eq]
        exact .lines p
    | true => exact .file p

theorem shows_display (json : Bool) (p : ParameterSet) : Shows json p (display json p) :=
  shows_iff.mpr rfl

example : shownLines .regtest =
    ["Network:       regtest",
      "  Magic:       0xdcb7c1fc (fcc1b7dc)",
      "  Port:        19994",
      "",
      "Genesis:",
      "  Hash:        000008ca1832a4baf228eb1553c03d3a2c8e02399550dd6ea8d65cec3ef23d2e",
      "  Digest:      352e09fd884cef12f39f91fe08475f15841d29ec006d6f081c74ac78a6ccf367",
      "  Merkle Root: e0028eb9648db56b1ac77cf090b99048a8007e2bb64b68f092c03c7f56a662c7",
      "  Timestamp:   1417713337",
      "  Bits:        0x207fffff",
      "",
      "Consensus:",
      "  PoW Limit:   0x207fffff",
      "  Block Time:  150s",
      "  Maturity:    100",
      "  Checkpoints: 0",
      "  Voting:      108/144",
      "  testdummy:   bit 28, 0 - 9223372036854775807",
      "  csv:         bit  0, 0 - 9223372036854775807",
      "  segwit:      bit  1, 0 - 9223372036854775807",
      "",
      "Addresses:",
      "  Bech32:      tb1",
      "  PubKeyHash:  0x8c",
      "  ScriptHash:  0x13",
      "  PrivateKey:  0xef",
      "  HD Private:  04358394",
      "  HD Public:   043587cf",
      "  Coin Type:   1"] := by
  decide +kernel

end ChainParams.Inspector

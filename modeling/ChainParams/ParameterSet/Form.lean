import ChainParams.Form
import ChainParams.ParameterSet

/-!
# JSON forms of parameter sets

The records of a parameter set, from the inside out.  The names of the fields
are those of configuration files.  Only the seeds, the checkpoints and the
filtering of a seed may be left out, and only the deployment table refuses
fields it does not know.
-/

namespace ChainParams

/-- A magic is written as its number. -/
def Magic.form : Form Magic where
  schema := .leaf .u32
  ofValue := fun (n : UInt32) => ⟨n⟩
  toValue := fun m => m.value

/-- A checkpoint. -/
def Checkpoint.form : Form Checkpoint where
  schema := .record "Checkpoint" false <|
    .cons "height" false (.leaf .i32) <|
    .cons "hash" false (.leaf .hash) .nil
  ofValue := fun (height, hash, ()) => ⟨height, hash⟩
  toValue := fun c => (c.height, c.hash, ())

/-- A seed. -/
def Seed.form : Form Seed where
  schema := .record "DnsSeed" false <|
    .cons "host" false (.leaf .text) <|
    .cons "has_filtering" true (.leaf .boolean) .nil
  ofValue := fun (host, hasFiltering, ()) => ⟨host, hasFiltering⟩
  toValue := fun s => (s.host, s.hasFiltering, ())

/-- A slot of the deployment table. -/
def Deployment.form : Form Deployment where
  schema := .record "ConsensusDeployment" false <|
    .cons "bit_number" false (.leaf .u8) <|
    .cons "start_time" false (.leaf .u64) <|
    .cons "expire_time" false (.leaf .u64) .nil
  ofValue := fun (bitNumber, startTime, expireTime, ()) => ⟨bitNumber, startTime, expireTime⟩
  toValue := fun d => (d.bitNumber, d.startTime, d.expireTime, ())

/-- The deployment table. -/
def DeploymentTable.form : Form DeploymentTable where
  schema := .record "DeploymentTable" true <|
    .cons "test_dummy" false Deployment.form.schema <|
    .cons "csv" false Deployment.form.schema <|
    .cons "segwit" false Deployment.form.schema .nil
  ofValue := fun (testDummy, csv, segwit, ()) =>
    ⟨Deployment.form.ofValue testDummy, Deployment.form.ofValue csv,
      Deployment.form.ofValue segwit⟩
  toValue := fun t =>
    (Deployment.form.toValue t.testDummy, Deployment.form.toValue t.csv,
      Deployment.form.toValue t.segwit, ())

/-- A block header. -/
def Header.form : Form Header where
  schema := .record "BlockHeader" false <|
    .cons "version" false (.leaf .i32) <|
    .cons "prev_block" false (.leaf .hash) <|
    .cons "merkle_root" false (.leaf .hash) <|
    .cons "timestamp" false (.leaf .u32) <|
    .cons "bits" false (.leaf .u32) <|
    .cons "nonce" false (.leaf .u32) .nil
  ofValue := fun (version, previous, merkleRoot, timestamp, bits, nonce, ()) =>
    ⟨version, previous, merkleRoot, timestamp, ⟨bits⟩, nonce⟩
  toValue := fun h =>
    (h.version, h.previous, h.merkleRoot, h.timestamp, h.bits.code, h.nonce, ())

/-- The transaction of a first block. -/
def Coinbase.form : Form Coinbase where
  schema := .record "CoinbaseTx" false <|
    .cons "version" false (.leaf .i32) <|
    .cons "prev_out_index" false (.leaf .u32) <|
    .cons "signature_script" false (.leaf .bytes) <|
    .cons "sequence" false (.leaf .u32) <|
    .cons "value" false (.leaf .i64) <|
    .cons "pk_script" false (.leaf .bytes) <|
    .cons "lock_time" false (.leaf .u32) .nil
  ofValue := fun (version, index, signature, sequence, value, publicKey, lockTime, ()) =>
    ⟨version, index, signature, sequence, value, publicKey, lockTime⟩
  toValue := fun c =>
    (c.version, c.previousOutputIndex, c.signatureScript, c.sequence, c.value,
      c.publicKeyScript, c.lockTime, ())

/-- The anchor of a network. -/
def Genesis.form : Form Genesis where
  schema := .record "GenesisAnchor" false <|
    .cons "header" false Header.form.schema <|
    .cons "coinbase" false Coinbase.form.schema <|
    .cons "hash" false (.leaf .hash) <|
    .cons "header_digest" false (.leaf .hash) .nil
  ofValue := fun (header, coinbase, hash, headerDigest, ()) =>
    ⟨Header.form.ofValue header, Coinbase.form.ofValue coinbase, hash, headerDigest⟩
  toValue := fun g =>
    (Header.form.toValue g.header, Coinbase.form.toValue g.coinbase, g.hash, g.headerDigest, ())

namespace ParameterSet

/-- The schema of a parameter set. -/
def schema : Schema :=
  .record "ParameterSet" false <|
    .cons "name" false (.leaf .text) <|
    .cons "net" false Magic.form.schema <|
    .cons "default_port" false (.leaf .u16) <|
    .cons "dns_seeds" true Seed.form.list.schema <|
    .cons "genesis" false Genesis.form.schema <|
    .cons "pow_limit" false (.leaf .target) <|
    .cons "pow_limit_bits" false (.leaf .u32) <|
    .cons "bip0034_height" false (.leaf .i32) <|
    .cons "bip0065_height" false (.leaf .i32) <|
    .cons "bip0066_height" false (.leaf .i32) <|
    .cons "coinbase_maturity" false (.leaf .u16) <|
    .cons "subsidy_reduction_interval" false (.leaf .i32) <|
    .cons "target_timespan" false (.leaf .u64) <|
    .cons "target_time_per_block" false (.leaf .u64) <|
    .cons "retarget_adjustment_factor" false (.leaf .i64) <|
    .cons "reduce_min_difficulty" false (.leaf .boolean) <|
    .cons "min_diff_reduction_time" false (.leaf .u64) <|
    .cons "generate_supported" false (.leaf .boolean) <|
    .cons "checkpoints" true Checkpoint.form.list.schema <|
    .cons "rule_change_activation_threshold" false (.leaf .u32) <|
    .cons "miner_confirmation_window" false (.leaf .u32) <|
    .cons "deployments" false DeploymentTable.form.schema <|
    .cons "relay_non_std_txs" false (.leaf .boolean) <|
    .cons "bech32_hrp_segwit" false (.leaf .text) <|
    .cons "pub_key_hash_addr_id" false (.leaf .u8) <|
    .cons "script_hash_addr_id" false (.leaf .u8) <|
    .cons "private_key_id" false (.leaf .u8) <|
    .cons "witness_pub_key_hash_addr_id" false (.leaf .u8) <|
    .cons "witness_script_hash_addr_id" false (.leaf .u8) <|
    .cons "hd_private_key_id" false (.leaf .bytes4) <|
    .cons "hd_public_key_id" false (.leaf .bytes4) <|
    .cons "hd_coin_type" false (.leaf .u32) .nil

/-- A parameter set. -/
def form : Form ParameterSet where
  schema := schema
  ofValue := fun
    (name, magic, defaultPort, seeds, genesis, powLimit, powLimitBits, bip34Height, bip65Height,
      bip66Height, coinbaseMaturity, subsidyReductionInterval, targetTimespan, targetTimePerBlock,
      retargetAdjustmentFactor, reduceMinDifficulty, minDifficultyReductionTime,
      generateSupported, checkpoints, ruleChangeThreshold, confirmationWindow, deployments,
      relayNonStandard, humanReadablePart, pubKeyHashId, scriptHashId, privateKeyId,
      witnessPubKeyHashId, witnessScriptHashId, hdPrivateKeyId, hdPublicKeyId, hdCoinType, ()) =>
    { name, magic := ⟨magic⟩, defaultPort, seeds := Seed.form.list.ofValue seeds
      genesis := Genesis.form.ofValue genesis, powLimit, powLimitBits := ⟨powLimitBits⟩
      bip34Height, bip65Height, bip66Height, coinbaseMaturity, subsidyReductionInterval
      targetTimespan, targetTimePerBlock, retargetAdjustmentFactor, reduceMinDifficulty
      minDifficultyReductionTime, generateSupported
      checkpoints := Checkpoint.form.list.ofValue checkpoints
      ruleChangeThreshold, confirmationWindow
      deployments := DeploymentTable.form.ofValue deployments
      relayNonStandard, humanReadablePart, pubKeyHashId, scriptHashId, privateKeyId
      witnessPubKeyHashId, witnessScriptHashId, hdPrivateKeyId, hdPublicKeyId, hdCoinType }
  toValue := fun p =>
    (p.name, p.magic.value, p.defaultPort, Seed.form.list.toValue p.seeds,
      Genesis.form.toValue p.genesis, p.powLimit, p.powLimitBits.code, p.bip34Height,
      p.bip65Height, p.bip66Height, p.coinbaseMaturity, p.subsidyReductionInterval,
      p.targetTimespan, p.targetTimePerBlock, p.retargetAdjustmentFactor, p.reduceMinDifficulty,
      p.minDifficultyReductionTime, p.generateSupported,
      Checkpoint.form.list.toValue p.checkpoints, p.ruleChangeThreshold, p.confirmationWindow,
      DeploymentTable.form.toValue p.deployments, p.relayNonStandard, p.humanReadablePart,
      p.pubKeyHashId, p.scriptHashId, p.privateKeyId, p.witnessPubKeyHashId,
      p.witnessScriptHashId, p.hdPrivateKeyId, p.hdPublicKeyId, p.hdCoinType, ())

end ParameterSet

end ChainParams

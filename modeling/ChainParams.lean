import ChainParams.Bytes
import ChainParams.Checkpoint
import ChainParams.Compact
import ChainParams.Config
import ChainParams.Deployment
import ChainParams.Flaw
import ChainParams.Form
import ChainParams.Genesis
import ChainParams.Hash
import ChainParams.Header
import ChainParams.Inspector
import ChainParams.Known
import ChainParams.Magic
import ChainParams.Main
import ChainParams.Names
import ChainParams.ParameterSet
import ChainParams.Registry
import ChainParams.Schema
import ChainParams.Seed
import ChainParams.Table
import ChainParams.Target
import ChainParams.Bytes.Hex
import ChainParams.Decimal.Shortest
import ChainParams.Hash.Sha256
import ChainParams.Inspector.Arguments
import ChainParams.Json.Document
import ChainParams.Json.Fault
import ChainParams.Json.Layout
import ChainParams.Json.Literal
import ChainParams.Json.Text
import ChainParams.Json.Token
import ChainParams.Json.Tree
import ChainParams.Known.Anchor
import ChainParams.Known.Checkpoints
import ChainParams.ParameterSet.Form
import ChainParams.Registry.Identify
import ChainParams.Registry.Indices
import ChainParams.Schema.Choice
import ChainParams.Schema.Leaf
import ChainParams.Schema.Read
import ChainParams.Schema.Write
import ChainParams.Text.Blank
import ChainParams.Text.CaseTable
import ChainParams.Text.HexDigit
import ChainParams.Text.Lowercase
import ChainParams.Text.Quoted
import ChainParams.Text.Ranges
import ChainParams.Text.Shown
import ChainParams.Proofs.Check
import ChainParams.Proofs.Checkpoint
import ChainParams.Proofs.Checkpoint.Lookup
import ChainParams.Proofs.Known
import ChainParams.Proofs.Table
import ChainParams.Proofs.Target
import ChainParams.Proofs.Bytes.Hex
import ChainParams.Proofs.Bytes.Utf8
import ChainParams.Proofs.Bytes.Decode
import ChainParams.Proofs.Bytes.Codec
import ChainParams.Proofs.Bytes.Padded
import ChainParams.Proofs.Compact.Encode
import ChainParams.Proofs.Compact.RoundDown
import ChainParams.Proofs.Compact.Order
import ChainParams.Proofs.Compact.Word
import ChainParams.Proofs.Config.Respelling
import ChainParams.Proofs.Config.RoundTrip
import ChainParams.Proofs.Inspector.Arguments
import ChainParams.Proofs.Inspector.Custom
import ChainParams.Proofs.Inspector.Reuse
import ChainParams.Proofs.Inspector.Select
import ChainParams.Proofs.Inspector.Summary
import ChainParams.Proofs.Json.Document
import ChainParams.Proofs.Json.Grammar
import ChainParams.Proofs.Json.Layout
import ChainParams.Proofs.Json.Scan
import ChainParams.Proofs.Json.Literal
import ChainParams.Proofs.Json.Text
import ChainParams.Proofs.ParameterSet.AddressStart
import ChainParams.Proofs.ParameterSet.Sound
import ChainParams.Proofs.ParameterSet.Validate
import ChainParams.Proofs.Registry.Answers
import ChainParams.Proofs.Registry.Attempts
import ChainParams.Proofs.Registry.Bech32
import ChainParams.Proofs.Registry.Consistent
import ChainParams.Proofs.Registry.Growth
import ChainParams.Proofs.Registry.Indices
import ChainParams.Proofs.Registry.Order
import ChainParams.Proofs.Registry.Reachable
import ChainParams.Proofs.Registry.Register
import ChainParams.Proofs.Registry.Replay
import ChainParams.Proofs.Registry.Run
import ChainParams.Proofs.Registry.Sound
import ChainParams.Proofs.Registry.Versions
import ChainParams.Proofs.Schema.Respelling
import ChainParams.Proofs.Schema.RoundTrip
import ChainParams.Proofs.Schema.Slots
import ChainParams.Proofs.Target.Width
import ChainParams.Proofs.Target.Grammar
import ChainParams.Proofs.Text.HexDigit
import ChainParams.Proofs.Text.Lowercase
import ChainParams.Proofs.Compact.Canonical
import ChainParams.Proofs.ParameterSet.FirstFlaw
import ChainParams.Proofs.Schema.Items
import ChainParams.Proofs.Schema.Width
import ChainParams.Proofs.Config.PowLimit
import ChainParams.Proofs.Schema.Members
import ChainParams.Proofs.Schema.Path
import ChainParams.Proofs.Config.Members
import ChainParams.Proofs.Bytes.LittleEndian
import ChainParams.Proofs.Header.Layout
import ChainParams.Proofs.Header.Tamper
import ChainParams.Proofs.Json.Numeral
import ChainParams.Proofs.Json.Place
import ChainParams.Proofs.Schema.Exchange
import ChainParams.Proofs.Schema.Integer
import ChainParams.Proofs.Schema.Positional
import ChainParams.Proofs.Config.Exchange
import ChainParams.Proofs.Config.Integer
import ChainParams.Proofs.Config.Positional

import CapsuleFlow.Adapter
import CapsuleFlow.Canonical
import CapsuleFlow.Capsule
import CapsuleFlow.Cli.Grammar
import CapsuleFlow.Cli.Help
import CapsuleFlow.Cli.Integer
import CapsuleFlow.Cli.Invocation
import CapsuleFlow.Cli.Parse
import CapsuleFlow.Cli.Program
import CapsuleFlow.Cli.Refusal
import CapsuleFlow.Cli.Scope
import CapsuleFlow.Cli.Similar
import CapsuleFlow.Config
import CapsuleFlow.Decode.FromText
import CapsuleFlow.Decode.FromValue
import CapsuleFlow.Decode.FromYaml
import CapsuleFlow.Decode.Shape
import CapsuleFlow.Digest
import CapsuleFlow.Disk
import CapsuleFlow.Document
import CapsuleFlow.Encode
import CapsuleFlow.Enforce
import CapsuleFlow.Flow
import CapsuleFlow.Hash.Blake3
import CapsuleFlow.Hash.Bytes
import CapsuleFlow.Hash.Sha256
import CapsuleFlow.Href
import CapsuleFlow.Json.Print
import CapsuleFlow.Json.Reader
import CapsuleFlow.Json.Value
import CapsuleFlow.Log
import CapsuleFlow.Main
import CapsuleFlow.Numeric.Binary
import CapsuleFlow.Numeric.Decimal
import CapsuleFlow.Numeric.Read
import CapsuleFlow.Numeric.Text
import CapsuleFlow.Observe.Consent
import CapsuleFlow.Observe.Memory
import CapsuleFlow.Observe.Policy
import CapsuleFlow.Observe.Set
import CapsuleFlow.Observe.Tally
import CapsuleFlow.Path
import CapsuleFlow.Runner
import CapsuleFlow.Schema.Bundled
import CapsuleFlow.Schema.Check
import CapsuleFlow.Schema.Load
import CapsuleFlow.Schema.Meta
import CapsuleFlow.Schema.Registry
import CapsuleFlow.Schema.Uri
import CapsuleFlow.Schema.Violation
import CapsuleFlow.Store
import CapsuleFlow.System
import CapsuleFlow.Text.CombiningClassData
import CapsuleFlow.Text.DecompositionData
import CapsuleFlow.Text.EscapeData
import CapsuleFlow.Text.Normal
import CapsuleFlow.Text.Quote
import CapsuleFlow.Text.Space
import CapsuleFlow.Timestamp
import CapsuleFlow.Trace
import CapsuleFlow.Yaml.Load
import CapsuleFlow.Yaml.Parser
import CapsuleFlow.Yaml.Scalar
import CapsuleFlow.Yaml.Scanner
import CapsuleFlow.Yaml.Token
import CapsuleFlow.Yaml.Value
import CapsuleFlow.Text.Property
import CapsuleFlow.Regex.Parse
import CapsuleFlow.Regex.Automaton
import CapsuleFlow.Regex.Backtrack
import CapsuleFlow.Regex.Utf8
import CapsuleFlow.Regex.Ranges
import CapsuleFlow.Regex.Reduced
import CapsuleFlow.Regex.Footprint
import CapsuleFlow.Regex.Pattern
import CapsuleFlow.Proofs.Keyed
import CapsuleFlow.Proofs.StringLiteral
import CapsuleFlow.Proofs.NormalForm
import CapsuleFlow.Proofs.NumberText
import CapsuleFlow.Proofs.Readability
import CapsuleFlow.Proofs.CanonicalEquivalence
import CapsuleFlow.Proofs.TraceReplay
import CapsuleFlow.Proofs.RunStructure
import CapsuleFlow.Proofs.ConsentGovernance
import CapsuleFlow.Proofs.PolicyGovernance
import CapsuleFlow.Proofs.NumberReading
import CapsuleFlow.Proofs.PolicyInvariant
import CapsuleFlow.Proofs.SkippedSteps
import CapsuleFlow.Proofs.CanonicalGovernance
import CapsuleFlow.Proofs.CanonicalReading
import CapsuleFlow.Proofs.CanonicalIdempotence
import CapsuleFlow.Proofs.FailureExpectation
import CapsuleFlow.Proofs.TextSplitting
import CapsuleFlow.Proofs.HrefRoundTrip
import CapsuleFlow.Proofs.FloatMagnitude
import CapsuleFlow.Proofs.JsonGrammar
import CapsuleFlow.Proofs.CanonicalWellFormed
import CapsuleFlow.Proofs.EntryHashing
import CapsuleFlow.Proofs.FloatError
import CapsuleFlow.Proofs.CanonicalFloat
import CapsuleFlow.Proofs.DigestCodec
import CapsuleFlow.Proofs.HrefTolerance
import CapsuleFlow.Proofs.ConsentHistory
import CapsuleFlow.Proofs.SchemaKeywords
import CapsuleFlow.Proofs.RecordReading
import CapsuleFlow.Proofs.FlowSchema
import CapsuleFlow.Proofs.TallyCounts
import CapsuleFlow.Proofs.LiteralDecoding
import CapsuleFlow.Proofs.LargestFloat
import CapsuleFlow.Proofs.NormalizedKeys
import CapsuleFlow.Proofs.CanonicalMirror
import CapsuleFlow.Proofs.SchemaRegistry
import CapsuleFlow.Proofs.CapsuleSchemas
import CapsuleFlow.Proofs.AcceptedCapsules

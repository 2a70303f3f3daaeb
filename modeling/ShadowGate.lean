import ShadowGate.Backing
import ShadowGate.Batch
import ShadowGate.Category
import ShadowGate.Change
import ShadowGate.Check.Basic
import ShadowGate.Check.Keyword
import ShadowGate.CommandLine
import ShadowGate.Criteria
import ShadowGate.Decision
import ShadowGate.Digest
import ShadowGate.Disk
import ShadowGate.Gate
import ShadowGate.Host
import ShadowGate.Json.Basic
import ShadowGate.Json.Form
import ShadowGate.Json.Printer
import ShadowGate.Json.Reader
import ShadowGate.Json.Record
import ShadowGate.Ledger
import ShadowGate.Main
import ShadowGate.Merge
import ShadowGate.Number.Double
import ShadowGate.Number.Fixed
import ShadowGate.Number.Literal
import ShadowGate.Number.Power
import ShadowGate.Number.Shortest
import ShadowGate.Path
import ShadowGate.Policy
import ShadowGate.Proofs.Host.Call
import ShadowGate.Proofs.Run
import ShadowGate.Proofs.Shadow.Step
import ShadowGate.Proposal
import ShadowGate.Registry
import ShadowGate.Report
import ShadowGate.Risk
import ShadowGate.Score
import ShadowGate.Scorecard
import ShadowGate.Settings
import ShadowGate.Settings.Environment
import ShadowGate.Settings.EnvironmentFile
import ShadowGate.Settings.File
import ShadowGate.Settings.Load
import ShadowGate.Settings.Name
import ShadowGate.Settings.Value
import ShadowGate.Shadow.Basic
import ShadowGate.Shadow.Config
import ShadowGate.Shadow.Error
import ShadowGate.Shadow.Id
import ShadowGate.Snapshot
import ShadowGate.SortedMap
import ShadowGate.Store
import ShadowGate.Text.Bytes
import ShadowGate.Text.Class
import ShadowGate.Text.Invisible
import ShadowGate.Text.Lowercase
import ShadowGate.Text.Quoted
import ShadowGate.Text.Ranges
import ShadowGate.Text.Search
import ShadowGate.Time
import ShadowGate.Tree
import ShadowGate.Verdict
import ShadowGate.Proofs.Host.Slot
import ShadowGate.Proofs.Host.Sweep
import ShadowGate.Proofs.Host.Transition
import ShadowGate.Proofs.Host.Verdict
import ShadowGate.Proofs.Gate.Call
import ShadowGate.Proofs.Gate.Ledger
import ShadowGate.Proofs.Gate.Live
import ShadowGate.Proofs.Host.Alike
import ShadowGate.Proofs.Gate.Isolation
import ShadowGate.Proofs.Host.PrivateCopy
import ShadowGate.Proofs.Gate.Preview
import ShadowGate.Proofs.OwnKey
import ShadowGate.Proofs.Gate.Lifecycle
import ShadowGate.Proofs.Gate.Admission
import ShadowGate.Proofs.Gate.Refusal
import ShadowGate.Proofs.Gate.Rollback
import ShadowGate.Proofs.Decision
import ShadowGate.Proofs.Number.Order
import ShadowGate.Proofs.Score
import ShadowGate.Proofs.Number.Rounding
import ShadowGate.Proofs.Number.Arithmetic
import ShadowGate.Proofs.Strictness
import ShadowGate.Proofs.Batch
import ShadowGate.Proofs.Gate.Coherence
import ShadowGate.Proofs.Gate.Agreement
import ShadowGate.Proofs.Gate.Probe
import ShadowGate.Proofs.Gate.Independence
import ShadowGate.Proofs.Host.Draft
import ShadowGate.Proofs.CommandLine
import ShadowGate.Proofs.Host.Merge
import ShadowGate.Proofs.Gate.View
import ShadowGate.Proofs.Gate.Keyless
import ShadowGate.Proofs.Number.Whole
import ShadowGate.Proofs.SortedMap
import ShadowGate.Proofs.Codec.Value
import ShadowGate.Proofs.Codec.ShadowId
import ShadowGate.Proofs.Codec.Record
import ShadowGate.Proofs.Gate.Expiry
import ShadowGate.Proofs.Gate.Traceless
import ShadowGate.Proofs.Conflict
import ShadowGate.Proofs.Monotonicity
import ShadowGate.Proofs.Limits
import ShadowGate.Proofs.Keyword
import ShadowGate.Proofs.Reading
import ShadowGate.Proofs.Codec.Text
import ShadowGate.Proofs.Host.Readback
import ShadowGate.Proofs.Mitigation
import ShadowGate.Proofs.Digest

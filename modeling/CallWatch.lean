import CallWatch.CallLog
import CallWatch.Chain
import CallWatch.Checked
import CallWatch.Digest.Keccak
import CallWatch.Digest.Ripemd160
import CallWatch.Digest.Sha256
import CallWatch.Double.Basic
import CallWatch.Double.Shortest
import CallWatch.Failure
import CallWatch.Frame
import CallWatch.Json.Basic
import CallWatch.Json.Numeral
import CallWatch.Json.Parser
import CallWatch.Json.Printer
import CallWatch.Ledger.Account
import CallWatch.Ledger.Basic
import CallWatch.Ledger.Client
import CallWatch.Ledger.Copying
import CallWatch.Ledger.Faults
import CallWatch.Ledger.Operation
import CallWatch.Ledger.Procedure
import CallWatch.Machine.Basic
import CallWatch.Machine.CallTree
import CallWatch.Machine.Config
import CallWatch.Machine.Dispatch
import CallWatch.Machine.Environment
import CallWatch.Machine.Execution
import CallWatch.Machine.History
import CallWatch.Outcome
import CallWatch.Precompile
import CallWatch.Program
import CallWatch.Proofs.Ledger.Journal
import CallWatch.Proofs.Ledger.Refinement
import CallWatch.Proofs.Ledger.Storage
import CallWatch.Proofs.Ledger.Store
import CallWatch.Proofs.Ledger.Value
import CallWatch.Proofs.Machine.Along
import CallWatch.Proofs.Machine.Conservation
import CallWatch.Proofs.Machine.Gas
import CallWatch.Proofs.Machine.Hearing
import CallWatch.Proofs.Machine.Keeps
import CallWatch.Proofs.Machine.Nesting
import CallWatch.Proofs.Machine.NetChange
import CallWatch.Proofs.Machine.Release
import CallWatch.Proofs.Machine.Reporting
import CallWatch.Proofs.Machine.Respects
import CallWatch.Proofs.Machine.Rollback
import CallWatch.Proofs.Machine.Telling
import CallWatch.Proofs.Machine.Unobserved
import CallWatch.Proofs.Machine.Watching
import CallWatch.Proofs.Watch.Session
import CallWatch.Proofs.Watch.StorageDiff
import CallWatch.Rlp
import CallWatch.Script
import CallWatch.Text.CodeRanges
import CallWatch.Text.Composition
import CallWatch.Text.Decimal
import CallWatch.Text.Hex
import CallWatch.Text.Mark
import CallWatch.Text.Quoted
import CallWatch.Text.Unprintable
import CallWatch.Text.Utf8
import CallWatch.Toml.Basic
import CallWatch.Toml.Parser
import CallWatch.Toml.Scalar
import CallWatch.Transaction
import CallWatch.Url.Basic
import CallWatch.Url.CodePoints
import CallWatch.Url.Direction
import CallWatch.Url.Domain
import CallWatch.Url.Host
import CallWatch.Url.Joiner
import CallWatch.Url.Punycode
import CallWatch.Watch.Config
import CallWatch.Watch.ConfigFile
import CallWatch.Watch.Exchange
import CallWatch.Watch.Kennel
import CallWatch.Watch.Operation
import CallWatch.Watch.Pair
import CallWatch.Watch.Registry
import CallWatch.Watch.Report
import CallWatch.Watch.Sink
import CallWatch.Watch.StorageDiff
import CallWatch.Watch.Watchdog
import CallWatch.Wire.CallEvent
import CallWatch.Wire.Failure
import CallWatch.Wire.Form
import CallWatch.Wire.Report
import CallWatch.Wire.Settings
import CallWatch.Wire.Transaction
import CallWatch.Word
import CallWatch.Proofs.Machine.Balance
import CallWatch.Proofs.Machine.Logging
import CallWatch.Proofs.Machine.Steadiness
import CallWatch.Proofs.Machine.Refusal
import CallWatch.Proofs.Machine.Bracketing
import CallWatch.Proofs.Ledger.Code
import CallWatch.Proofs.Machine.LateFailure
import CallWatch.Proofs.Machine.Codeless
import CallWatch.Proofs.Machine.Deployment
import CallWatch.Proofs.Watch.Answering
import CallWatch.Proofs.Watch.Coverage
import CallWatch.Proofs.Watch.Claiming
import CallWatch.Proofs.Machine.Metering
import CallWatch.Proofs.Ledger.Nonce
import CallWatch.Proofs.Machine.Nonces
import CallWatch.Proofs.Machine.Spending
import CallWatch.Machine.Moments
import CallWatch.Proofs.Machine.Depth
import CallWatch.Proofs.Machine.Standing
import CallWatch.Proofs.Machine.Borrowing
import CallWatch.Proofs.Machine.Clearing
import CallWatch.Proofs.Machine.Throwing
import CallWatch.Proofs.Ledger.Staleness
import CallWatch.Proofs.Machine.Recovery
import CallWatch.Proofs.Machine.Creating
import CallWatch.Proofs.Json.Canonical
import CallWatch.Proofs.Json.Literals
import CallWatch.Proofs.Json.Reading
import CallWatch.Proofs.Text.Decimal
import CallWatch.Proofs.Wire.Forms
import CallWatch.Proofs.Wire.Records
import CallWatch.Proofs.Wire.RoundTrip
import CallWatch.Proofs.Json.Printing
import CallWatch.Proofs.Watch.Delivering
import CallWatch.Proofs.Watch.Lines
import CallWatch.Proofs.Machine.Similar
import CallWatch.Machine.Life
import CallWatch.Proofs.Machine.Cancelling
import CallWatch.Proofs.Machine.Pricing
import CallWatch.Proofs.Text.Spelling
import CallWatch.Proofs.Rlp

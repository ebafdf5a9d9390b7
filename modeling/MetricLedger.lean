import MetricLedger.Acknowledgment
import MetricLedger.Attributes
import MetricLedger.CommandLine.Command
import MetricLedger.CommandLine.Program
import MetricLedger.CommandLine.Scan
import MetricLedger.DatabaseUrl
import MetricLedger.DatabaseUrl.DriverOptions
import MetricLedger.DatabaseUrl.FileUri
import MetricLedger.DatabaseUrl.Locate
import MetricLedger.DatabaseUrl.Location
import MetricLedger.DatabaseUrl.Scheme
import MetricLedger.Denom
import MetricLedger.Digest.Sha256
import MetricLedger.Failure
import MetricLedger.Json.Display
import MetricLedger.Json.Entries
import MetricLedger.Json.Field
import MetricLedger.Json.Reader
import MetricLedger.Json.Value
import MetricLedger.Json.Writer
import MetricLedger.LedgerConfig
import MetricLedger.Logging
import MetricLedger.Main
import MetricLedger.Malformed
import MetricLedger.Metric
import MetricLedger.MetricType
import MetricLedger.Number.Binary64
import MetricLedger.Number.Decimal
import MetricLedger.Number.Decimal.Canonical
import MetricLedger.Number.Decimal.Printer
import MetricLedger.Number.Decimal.Reader
import MetricLedger.Number.Decimal.Value
import MetricLedger.Number.Extended
import MetricLedger.Number.Integer
import MetricLedger.Number.Real
import MetricLedger.Number.Rounding
import MetricLedger.Number.Shortest
import MetricLedger.Proofs.CommandLine.Marks
import MetricLedger.Proofs.CommandLine.Progress
import MetricLedger.Proofs.CommandLine.Uses
import MetricLedger.Proofs.Decimal.Canonical
import MetricLedger.Proofs.Decimal.CanonicalTexts
import MetricLedger.Proofs.Decimal.FixedPoint
import MetricLedger.Proofs.Decimal.Rounded
import MetricLedger.Proofs.Decimal.Settled
import MetricLedger.Proofs.Decimal.Spelled
import MetricLedger.Proofs.Denom.Names
import MetricLedger.Proofs.Denom.Traces
import MetricLedger.Proofs.Json.Grammar
import MetricLedger.Proofs.Json.Ink
import MetricLedger.Proofs.Json.Items
import MetricLedger.Proofs.Json.Numbers
import MetricLedger.Proofs.Json.Strings
import MetricLedger.Proofs.Json.Texts
import MetricLedger.Proofs.Logging.Entries
import MetricLedger.Proofs.Logging.Lines
import MetricLedger.Proofs.Results
import MetricLedger.Proofs.Series.Outcomes
import MetricLedger.Proofs.Series.Places
import MetricLedger.Proofs.Series.Related
import MetricLedger.Proofs.Series.Retained
import MetricLedger.Proofs.Service.AcceptedRates
import MetricLedger.Proofs.Service.Backing
import MetricLedger.Proofs.Service.Configured
import MetricLedger.Proofs.Service.Coverage
import MetricLedger.Proofs.Service.Entries
import MetricLedger.Proofs.Service.Fidelity
import MetricLedger.Proofs.Service.FiledRates
import MetricLedger.Proofs.Service.Frames
import MetricLedger.Proofs.Service.Interchange
import MetricLedger.Proofs.Service.NamedDenoms
import MetricLedger.Proofs.Service.Posts
import MetricLedger.Proofs.Service.Replies
import MetricLedger.Proofs.Service.Runs
import MetricLedger.Proofs.Service.Sessions
import MetricLedger.Proofs.Service.ShownAttributes
import MetricLedger.Proofs.Service.Standing
import MetricLedger.Proofs.Service.Turns
import MetricLedger.Proofs.Service.UnreadableRows
import MetricLedger.Proofs.Service.Versions
import MetricLedger.Proofs.Settings.Addresses
import MetricLedger.Proofs.Settings.Layers
import MetricLedger.Proofs.Storage.Actions
import MetricLedger.Proofs.Storage.Rows
import MetricLedger.Proofs.Storage.Scopes
import MetricLedger.Proofs.Stored.Faults
import MetricLedger.Proofs.Stored.Histories
import MetricLedger.Proofs.Stored.Items
import MetricLedger.Proofs.Stored.Numbers
import MetricLedger.Proofs.Stored.Payload
import MetricLedger.Proofs.Stored.Queries
import MetricLedger.Proofs.Stored.ReadPaths
import MetricLedger.Proofs.Stored.Recorded
import MetricLedger.Proofs.Stored.Refined
import MetricLedger.Proofs.Stored.Reordered
import MetricLedger.Proofs.Stored.RoundTrip
import MetricLedger.Proofs.Stored.Same
import MetricLedger.Proofs.Stored.Steady
import MetricLedger.Query
import MetricLedger.Rate
import MetricLedger.RateAttributes
import MetricLedger.RateKind
import MetricLedger.RateRecord
import MetricLedger.Refusal
import MetricLedger.Report
import MetricLedger.Series
import MetricLedger.Series.Stored
import MetricLedger.Service
import MetricLedger.Settings
import MetricLedger.Storage.Column
import MetricLedger.Storage.Config
import MetricLedger.Storage.Database
import MetricLedger.Storage.Error
import MetricLedger.Storage.History
import MetricLedger.Storage.Numeral
import MetricLedger.Storage.Session
import MetricLedger.Storage.Snapshot
import MetricLedger.Storage.Table
import MetricLedger.Store
import MetricLedger.Submission
import MetricLedger.Text.Base64
import MetricLedger.Text.Blank
import MetricLedger.Text.Case
import MetricLedger.Text.CaseContext
import MetricLedger.Text.Digit
import MetricLedger.Text.Hex
import MetricLedger.Text.Loose
import MetricLedger.Text.Percent
import MetricLedger.Text.Printable
import MetricLedger.Text.Quoted
import MetricLedger.Text.Split
import MetricLedger.Text.Utf8
import MetricLedger.Text.Utf8.Lenient
import MetricLedger.Text.Word
import MetricLedger.Version

import MessageRelay.Abi
import MessageRelay.Account
import MessageRelay.Account.Curve
import MessageRelay.Binary
import MessageRelay.Bytes
import MessageRelay.Calls
import MessageRelay.Client
import MessageRelay.CommandLine
import MessageRelay.Config
import MessageRelay.Config.Reading
import MessageRelay.Config.Value
import MessageRelay.Contracts
import MessageRelay.Decimal.Shortest
import MessageRelay.Duration
import MessageRelay.Environment
import MessageRelay.Environment.File
import MessageRelay.Extraction
import MessageRelay.Gate
import MessageRelay.Interchange
import MessageRelay.Json
import MessageRelay.Json.Fields
import MessageRelay.Json.Reader
import MessageRelay.Json.Writer
import MessageRelay.Keccak
import MessageRelay.Ledger
import MessageRelay.LedgerCall
import MessageRelay.Main
import MessageRelay.Message
import MessageRelay.Metrics
import MessageRelay.NetworkConfig
import MessageRelay.Outcome
import MessageRelay.Pipeline
import MessageRelay.Policy
import MessageRelay.Poll
import MessageRelay.Program
import MessageRelay.Proofs.Gate
import MessageRelay.Proofs.Gate.Histories
import MessageRelay.Proofs.Poll.Round
import MessageRelay.Proofs.Relay
import MessageRelay.Provider
import MessageRelay.Published
import MessageRelay.Receipt
import MessageRelay.Redacted
import MessageRelay.Relay
import MessageRelay.Retry
import MessageRelay.Rpc
import MessageRelay.Rpc.Quantity
import MessageRelay.Rpc.Receipt
import MessageRelay.Run
import MessageRelay.Scripted.Destination
import MessageRelay.Scripted.Sample
import MessageRelay.Scripted.Session
import MessageRelay.Scripted.Source
import MessageRelay.Source
import MessageRelay.Stage
import MessageRelay.Text.Alphanumeric
import MessageRelay.Text.Blank
import MessageRelay.Text.Composition
import MessageRelay.Text.Direction
import MessageRelay.Text.Joining
import MessageRelay.Text.LetterCase
import MessageRelay.Text.Lowercase
import MessageRelay.Text.Ranges
import MessageRelay.Transaction
import MessageRelay.Url
import MessageRelay.Url.Domain
import MessageRelay.Url.Domain.Mapping
import MessageRelay.Url.Host
import MessageRelay.Url.IpAddress
import MessageRelay.Url.Punycode
import MessageRelay.Proofs.Run.Reach
import MessageRelay.Proofs.Run.Arrivals
import MessageRelay.Proofs.Run.Reports
import MessageRelay.Proofs.Relay.Answers
import MessageRelay.Proofs.Relay.Untimed
import MessageRelay.Proofs.Run.Submissions
import MessageRelay.Proofs.Run.Independence
import MessageRelay.Proofs.Run.Agreement
import MessageRelay.Proofs.Poll.Queries
import MessageRelay.Proofs.Poll.Schedule
import MessageRelay.Proofs.Poll.Bounds
import MessageRelay.Proofs.Abi
import MessageRelay.Proofs.Abi.Layout
import MessageRelay.Proofs.Published
import MessageRelay.Proofs.Bytes
import MessageRelay.Proofs.Extraction
import MessageRelay.Proofs.Stage
import MessageRelay.Proofs.Pipeline
import MessageRelay.Proofs.Poll.Deadline
import MessageRelay.Proofs.Provider
import MessageRelay.Proofs.Relay.Broadcasts
import MessageRelay.Proofs.Run.Deadline
import MessageRelay.Proofs.Config
import MessageRelay.Proofs.Calls
import MessageRelay.Proofs.Run.Deliveries
import MessageRelay.Proofs.Program
import MessageRelay.Proofs.Poll.Spacing
import MessageRelay.Proofs.Poll.Lookup
import MessageRelay.Proofs.Relay.Timetable
import MessageRelay.Proofs.Relay.Retried
import MessageRelay.Proofs.Relay.Arguments
import MessageRelay.Proofs.Batch
import MessageRelay.Proofs.Run.Clock
import MessageRelay.Proofs.Run.Punctual
import MessageRelay.Proofs.Poll.Starts
import MessageRelay.Proofs.Run.Cancellation
import MessageRelay.Proofs.Metrics
import MessageRelay.Proofs.Poll.Counts
import MessageRelay.Proofs.Run.Balance
import MessageRelay.Proofs.Text
import MessageRelay.Proofs.Config.Values
import MessageRelay.Proofs.Poll.Results
import MessageRelay.Proofs.Config.RoundTrip
import MessageRelay.Proofs.Config.Optional
import MessageRelay.Proofs.Config.Keys
import MessageRelay.Proofs.Config.Secrets
import MessageRelay.Proofs.Relay.Classes
import MessageRelay.Proofs.Json.Reading
import MessageRelay.Proofs.Json.Writing
import MessageRelay.Proofs.Json.Records
import MessageRelay.Proofs.Interchange
import MessageRelay.Proofs.Run.Reasons
import MessageRelay.Proofs.Program.Lines
import MessageRelay.Proofs.Gate.Refusals
import MessageRelay.Proofs.Json.Fields
import MessageRelay.Proofs.Names
import MessageRelay.Proofs.NetworkConfig
import MessageRelay.Proofs.Program.Bus

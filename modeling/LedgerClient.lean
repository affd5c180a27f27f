import LedgerClient.Bytes
import LedgerClient.Client.Basic
import LedgerClient.CommandLine.Arguments
import LedgerClient.CommandLine.Report
import LedgerClient.Entity.Checksum
import LedgerClient.Entity.Id
import LedgerClient.Error
import LedgerClient.Execution.Config
import LedgerClient.Execution.Loop
import LedgerClient.Execution.World
import LedgerClient.Hash.Sha2
import LedgerClient.Hex
import LedgerClient.Http.Exchange
import LedgerClient.Http.Relay
import LedgerClient.Http.Status
import LedgerClient.Ledger
import LedgerClient.Main
import LedgerClient.Message.Data
import LedgerClient.Message.Query
import LedgerClient.Message.Receipt
import LedgerClient.Message.Signed
import LedgerClient.Message.TransactionId
import LedgerClient.Network.Basic
import LedgerClient.Network.Health
import LedgerClient.Network.Method
import LedgerClient.Proofs.Acceptance
import LedgerClient.Proofs.CommandLine.Moving
import LedgerClient.Proofs.Deadline
import LedgerClient.Proofs.Entity.Checksum
import LedgerClient.Proofs.Entity.Ledgers
import LedgerClient.Proofs.Entity.Parsing
import LedgerClient.Proofs.Entity.Rendering
import LedgerClient.Proofs.Entity.Typos
import LedgerClient.Proofs.Execution.Attempt
import LedgerClient.Proofs.Execution.Backoff
import LedgerClient.Proofs.Execution.Budget
import LedgerClient.Proofs.Execution.Course
import LedgerClient.Proofs.Execution.Exchange
import LedgerClient.Proofs.Execution.Failures
import LedgerClient.Proofs.Execution.Replay
import LedgerClient.Proofs.Execution.Replies
import LedgerClient.Proofs.Execution.Rounds
import LedgerClient.Proofs.Execution.Timeline
import LedgerClient.Proofs.Execution.Tries
import LedgerClient.Proofs.Execution.Turns
import LedgerClient.Proofs.Execution.Untouched
import LedgerClient.Proofs.Http.Targets
import LedgerClient.Proofs.Network.Candidates
import LedgerClient.Proofs.Network.Cycling
import LedgerClient.Proofs.Network.Recovery
import LedgerClient.Proofs.Network.Rotating
import LedgerClient.Proofs.Network.Selection
import LedgerClient.Proofs.Nodes
import LedgerClient.Proofs.Outcomes
import LedgerClient.Proofs.Pacing
import LedgerClient.Proofs.Query.Payers
import LedgerClient.Proofs.Query.Payments
import LedgerClient.Proofs.Query.Polling
import LedgerClient.Proofs.Query.Receipts
import LedgerClient.Proofs.Query.Resolution
import LedgerClient.Proofs.Query.Resubmissions
import LedgerClient.Proofs.Query.Spending
import LedgerClient.Proofs.Query.Success
import LedgerClient.Proofs.Requests
import LedgerClient.Proofs.Session
import LedgerClient.Proofs.Settings.Building
import LedgerClient.Proofs.Settings.Checks
import LedgerClient.Proofs.Signature.Neutral
import LedgerClient.Proofs.Transaction.Accepting
import LedgerClient.Proofs.Transaction.Bodies
import LedgerClient.Proofs.Transaction.Checksums
import LedgerClient.Proofs.Transaction.ChunkIds
import LedgerClient.Proofs.Transaction.Chunking
import LedgerClient.Proofs.Transaction.Contents
import LedgerClient.Proofs.Transaction.Endorsing
import LedgerClient.Proofs.Transaction.Freezing
import LedgerClient.Proofs.Transaction.Guarding
import LedgerClient.Proofs.Transaction.Import
import LedgerClient.Proofs.Transaction.InPlace
import LedgerClient.Proofs.Transaction.Inspection
import LedgerClient.Proofs.Transaction.Interchange
import LedgerClient.Proofs.Transaction.Keeping
import LedgerClient.Proofs.Transaction.Naming
import LedgerClient.Proofs.Transaction.Obtainable
import LedgerClient.Proofs.Transaction.Operations
import LedgerClient.Proofs.Transaction.Ordering
import LedgerClient.Proofs.Transaction.Planned
import LedgerClient.Proofs.Transaction.Readable
import LedgerClient.Proofs.Transaction.Rearranged
import LedgerClient.Proofs.Transaction.Reexport
import LedgerClient.Proofs.Transaction.Renewal
import LedgerClient.Proofs.Transaction.Roots
import LedgerClient.Proofs.Transaction.Screening
import LedgerClient.Proofs.Transaction.Sending
import LedgerClient.Proofs.Transaction.Signatures
import LedgerClient.Proofs.Transaction.Sound
import LedgerClient.Proofs.Transaction.Submissions
import LedgerClient.Proofs.Transaction.Transfers
import LedgerClient.Proofs.Transaction.Weighing
import LedgerClient.Proofs.Transaction.Writing
import LedgerClient.Proofs.Url.Paths
import LedgerClient.Proofs.Wire.Accepted
import LedgerClient.Proofs.Wire.Apart
import LedgerClient.Proofs.Wire.Canonical
import LedgerClient.Proofs.Wire.Lengths
import LedgerClient.Proofs.Wire.Limits
import LedgerClient.Proofs.Wire.Messages
import LedgerClient.Proofs.Wire.Reading
import LedgerClient.Proofs.Wire.Refused
import LedgerClient.Proofs.Wire.Written
import LedgerClient.Query.Basic
import LedgerClient.Settings.Basic
import LedgerClient.Settings.Document
import LedgerClient.Settings.Validated
import LedgerClient.Signature.Curve
import LedgerClient.Signature.Ed25519
import LedgerClient.Status
import LedgerClient.Text.Decimal
import LedgerClient.Text.Hidden
import LedgerClient.Text.Inspect
import LedgerClient.Time.Duration
import LedgerClient.Time.Instant
import LedgerClient.Time.Timestamp
import LedgerClient.Transaction.Basic
import LedgerClient.Transaction.Freeze
import LedgerClient.Transaction.Inspect
import LedgerClient.Transaction.Interchange
import LedgerClient.Transaction.Payload
import LedgerClient.Transaction.Sign
import LedgerClient.Transaction.Submit
import LedgerClient.Transaction.Transfers
import LedgerClient.Url.Basic
import LedgerClient.Url.Domain
import LedgerClient.Url.Host
import LedgerClient.Url.Percent
import LedgerClient.Url.Reference
import LedgerClient.Wire.Encoding
import LedgerClient.Wire.Reader
import LedgerClient.Yaml.Cursor
import LedgerClient.Yaml.Node
import LedgerClient.Yaml.Property
import LedgerClient.Yaml.Scalar
import LedgerClient.Yaml.Token
import LedgerClient.Yaml.Value

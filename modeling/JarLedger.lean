import JarLedger.Binary64.Basic
import JarLedger.Binary64.Extended
import JarLedger.Binary64.Shortest
import JarLedger.Bytes.Hex
import JarLedger.Bytes.Utf8
import JarLedger.Command.Arguments
import JarLedger.Command.Execution
import JarLedger.Digest.Crc32
import JarLedger.Digest.Sha2
import JarLedger.Envelope
import JarLedger.Extraction
import JarLedger.Failure
import JarLedger.Gzip.Bits
import JarLedger.Gzip.CanonicalCode
import JarLedger.Gzip.Inflate
import JarLedger.Gzip.Member
import JarLedger.Instance
import JarLedger.Jar
import JarLedger.Json.Basic
import JarLedger.Json.Numeral
import JarLedger.Json.Printer
import JarLedger.Json.Reader
import JarLedger.Json.Record
import JarLedger.KeyedLocks
import JarLedger.Log.Basic
import JarLedger.Log.Event
import JarLedger.Log.Filter
import JarLedger.Main
import JarLedger.Message
import JarLedger.Message.Record
import JarLedger.ObjectStore.Basic
import JarLedger.ObjectStore.Shelf
import JarLedger.ObjectStore.Web
import JarLedger.Pipeline
import JarLedger.RecentPayloads
import JarLedger.Reconciliation
import JarLedger.Settings.Basic
import JarLedger.Settings.Given
import JarLedger.Settings.Reader
import JarLedger.Snapshot.Classification
import JarLedger.Snapshot.Identity
import JarLedger.Snapshot.JarList
import JarLedger.Snapshot.Machine
import JarLedger.Snapshot.Section
import JarLedger.Snapshot.Server
import JarLedger.SortedMap
import JarLedger.Sql.Connection
import JarLedger.Sql.Migration
import JarLedger.Sql.Read
import JarLedger.Sql.Schema
import JarLedger.Sql.Script
import JarLedger.Sql.Statement
import JarLedger.Sql.Store
import JarLedger.Sql.Write
import JarLedger.Store.Basic
import JarLedger.Store.Ledger
import JarLedger.Store.Memory
import JarLedger.Store.Scripted
import JarLedger.Tar.Entries
import JarLedger.Tar.Extension
import JarLedger.Tar.Header
import JarLedger.Tar.Sparse
import JarLedger.Text.Blank
import JarLedger.Text.Case
import JarLedger.Text.Lines
import JarLedger.Text.Places
import JarLedger.Text.Quoted
import JarLedger.Text.Reader
import JarLedger.Text.Search
import JarLedger.Text.Whole
import JarLedger.Time.Instant
import JarLedger.Time.Rfc3339
import JarLedger.Toml.Bare
import JarLedger.Toml.Moment
import JarLedger.Toml.Quoted
import JarLedger.Toml.Reader
import JarLedger.Toml.Table
import JarLedger.Toml.Value
import JarLedger.Url.Basic
import JarLedger.Url.Domain
import JarLedger.Url.Host
import JarLedger.Url.Percent
import JarLedger.Url.Punycode
import JarLedger.Url.Reader
import JarLedger.WorkerPool.Basic
import JarLedger.WorkerPool.Tally
import JarLedger.Proofs.Reconciliation.Run
import JarLedger.Proofs.SortedMap
import JarLedger.Proofs.Store.Soundness
import JarLedger.Proofs.Store.Errand
import JarLedger.Proofs.Store.Catalogue
import JarLedger.Proofs.Store.Refinement
import JarLedger.Proofs.Store.Contention
import JarLedger.Proofs.Store.Serial
import JarLedger.Proofs.Reconciliation.Transcript
import JarLedger.Proofs.Reconciliation.Discipline
import JarLedger.Proofs.Sql.Asking
import JarLedger.Proofs.Sql.BindLimit
import JarLedger.Proofs.Duplicates.Marks
import JarLedger.Proofs.Store.Slot
import JarLedger.Proofs.Store.Reordering
import JarLedger.Proofs.Snapshot.Announced
import JarLedger.Proofs.Store.Reflection
import JarLedger.Proofs.Duplicates.Jobs
import JarLedger.Proofs.Duplicates.Suppression
import JarLedger.Proofs.Sql.ReadBack
import JarLedger.Proofs.Store.Views
import JarLedger.Proofs.Locks.Soundness
import JarLedger.Proofs.Locks.Traffic
import JarLedger.Proofs.Store.Union
import JarLedger.Proofs.Reconciliation.Isolation
import JarLedger.Proofs.Archive.Payloads
import JarLedger.Proofs.Archive.Isolation
import JarLedger.Proofs.Archive.Walk
import JarLedger.Proofs.Archive.Headers
import JarLedger.Proofs.Archive.Calls
import JarLedger.Proofs.Packing.Gzip
import JarLedger.Proofs.Packing.Tar
import JarLedger.Proofs.Packing.Archive
import JarLedger.Proofs.Archive.Contents
import JarLedger.Proofs.Archive.Damage
import JarLedger.Proofs.Jars
import JarLedger.Proofs.Locks.Fairness
import JarLedger.Proofs.Locks.Upkeep
import JarLedger.Proofs.Locks.Clients
import JarLedger.Proofs.Store.Usage
import JarLedger.Proofs.Reconciliation.Crowd
import JarLedger.Proofs.Store.Liveness
import JarLedger.Proofs.WorkerPool.Counts
import JarLedger.Proofs.WorkerPool.Balance
import JarLedger.Proofs.WorkerPool.Bustle
import JarLedger.Proofs.WorkerPool.Accounting
import JarLedger.Proofs.WorkerPool.Shift
import JarLedger.Proofs.WorkerPool.Settlement
import JarLedger.Proofs.WorkerPool.Mirror
import JarLedger.Proofs.WorkerPool.Strays
import JarLedger.Proofs.Attempts
import JarLedger.Proofs.Snapshot.Grammar
import JarLedger.Proofs.Snapshot.Fields
import JarLedger.Proofs.Snapshot.Acceptance
import JarLedger.Proofs.Snapshot.Entries
import JarLedger.Proofs.Store.Arrival
import JarLedger.Proofs.Store.Failures
import JarLedger.Proofs.Snapshot.Positions
import JarLedger.Proofs.Delivery.Acts
import JarLedger.Proofs.Delivery.Traces
import JarLedger.Proofs.Delivery.Redelivery
import JarLedger.Proofs.Snapshot.Names
import JarLedger.Proofs.Snapshot.Identity
import JarLedger.Proofs.Snapshot.Namesakes
import JarLedger.Proofs.Json.Equality
import JarLedger.Proofs.Snapshot.Influence
import JarLedger.Proofs.Snapshot.Unions
import JarLedger.Proofs.Snapshot.Defects
import JarLedger.Proofs.Snapshot.Spellings
import JarLedger.Proofs.Snapshot.Respelling
import JarLedger.Proofs.Sql.Dialogue
import JarLedger.Proofs.Sql.FailStop
import JarLedger.Proofs.Sql.Graph
import JarLedger.Proofs.Sql.Writing
import JarLedger.Proofs.Sql.GraphCopy
import JarLedger.Proofs.Delivery.Updates
import JarLedger.Proofs.Message.RoundTrip
import JarLedger.Proofs.Sql.Covering
import JarLedger.Proofs.Envelope
import JarLedger.Proofs.Archive.Tape
import JarLedger.Proofs.Archive.TapeWalk
import JarLedger.Proofs.Archive.Revisits

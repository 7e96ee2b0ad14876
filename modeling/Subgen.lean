import Subgen.Lib.Procedure
import Subgen.Lib.Partition
import Subgen.Segmentation.Window
import Subgen.Segmentation.Stage
import Subgen.Segmentation.Commit
import Subgen.Segmentation.Ownership
import Subgen.Parallel.Coordinator
import Subgen.Parallel.Step
import Subgen.Parallel.Timeline
import Subgen.Parallel.Progress
import Subgen.Parallel.Bookkeeping
import Subgen.Segmentation.Adaptive
import Subgen.Parallel.Driver
import Subgen.Parallel.ForwardProgress
import Subgen.Parallel.Turns
import Subgen.Parallel.WorkerFailures
import Subgen.Parallel.AllocationRounds
import Subgen.Parallel.Refinement
import Subgen.Parallel.PendingStore
import Subgen.Segmentation.Lifecycle
import Subgen.Segmentation.Budget
import Subgen.Segmentation.Retries
import Subgen.Journal.Record
import Subgen.Lib.Storage
import Subgen.Journal.Store
import Subgen.Journal.Log
import Subgen.Journal.Atomicity
import Subgen.Journal.Readers
import Subgen.Journal.Merging
import Subgen.Journal.ShortCues
import Subgen.Lib.Spans
import Subgen.Pressure.Admission
import Subgen.Pressure.CohortAdmission
import Subgen.Pressure.Priority
import Subgen.Pressure.Controller
import Subgen.Pressure.Gate
import Subgen.Pressure.Operations
import Subgen.Lib.Recent
import Subgen.Pressure.History
import Subgen.Pressure.Bookkeeping
import Subgen.Pressure.Closure
import Subgen.Pressure.Invariant
import Subgen.Pressure.Preservation
import Subgen.Pressure.Safety
import Subgen.Pressure.ErrorPaths
import Subgen.Pressure.Hysteresis
import Subgen.Lib.Json
import Subgen.Lib.JsonRoundTrip
import Subgen.Lib.JsonTexts
import Subgen.Signal.Publication
import Subgen.Signal.Codec
import Subgen.Signal.Reader
import Subgen.Signal.Evaluator
import Subgen.Signal.Monitor
import Subgen.Signal.Replay
import Subgen.Signal.Repetition
import Subgen.Signal.Agreement
import Subgen.Lib.Interleaving
import Subgen.Runtime.Coordinator
import Subgen.Runtime.Threads
import Subgen.Runtime.Protocol
import Subgen.Runtime.Refinement
import Subgen.Runtime.Permits
import Subgen.Runtime.Ownership
import Subgen.Runtime.Release
import Subgen.Runtime.Tickets
import Subgen.Deletion.Files
import Subgen.Deletion.Unlink
import Subgen.Deletion.Phases
import Subgen.Deletion.Generations
import Subgen.Deletion.Quarantine
import Subgen.Deletion.Removal
import Subgen.Lib.Heap
import Subgen.Lib.HeapOrder
import Subgen.Queue.DeduplicatedQueue
import Subgen.Queue.Ordering
import Subgen.Queue.Identity
import Subgen.Queue.Tracking
import Subgen.Queue.Uploads
import Subgen.Queue.Answers
import Subgen.Worker.Events
import Subgen.Worker.Loop
import Subgen.Worker.Survival
import Subgen.Cohort.Runtime
import Subgen.Cohort.Lease
import Subgen.Lib.Occurrences
import Subgen.Publication.Documents
import Subgen.Lib.HashChain
import Subgen.Lib.PosixPath
import Subgen.Failures.Events
import Subgen.Failures.Delivery
import Subgen.Failures.Arrival
import Subgen.Failures.Markers
import Subgen.Failures.Coherence
import Subgen.Failures.Reader
import Subgen.Failures.Registry
import Subgen.Publication.Checkpoint
import Subgen.Publication.Chain
import Subgen.Lib.OrderedDict
import Subgen.Lib.Switches
import Subgen.Lib.Tally
import Subgen.Inventory.Labels
import Subgen.Inventory.Coordinator
import Subgen.Inventory.Items
import Subgen.Inventory.Reconciliation
import Subgen.Inventory.Threads
import Subgen.Inventory.OtherLibrary
import Subgen.Inventory.Rollback
import Subgen.Inventory.Totals
import Subgen.Inventory.Backlog
import Subgen.Inventory.Scans
import Subgen.Inventory.Reservations
import Subgen.Receipts.RuntimeState
import Subgen.Receipts.Coordinator
import Subgen.Receipts.Operations
import Subgen.Receipts.Ledger
import Subgen.Receipts.Refinement
import Subgen.Receipts.Trace
import Subgen.Selection.Models
import Subgen.Selection.Select
import Subgen.Selection.Monotone
import Subgen.Selection.Best
import Subgen.Publication.Intent
import Subgen.Publication.Probes
import Subgen.Publication.Publisher
import Subgen.Publication.Publish
import Subgen.Publication.Completion
import Subgen.Publication.Journals
import Subgen.Publication.WriteOrder
import Subgen.Series.Plex
import Subgen.Series.Show
import Subgen.Series.Following
import Subgen.Subtitles.LanguageCode
import Subgen.Subtitles.External
import Subgen.Subtitles.AtomicPublish
import Subgen.Subtitles.AllOrNothing
import Subgen.Lib.Binary64
import Subgen.Native.Milliseconds
import Subgen.Native.WhisperWorker
import Subgen.Native.WhisperResult
import Subgen.Envelopes.Catalog
import Subgen.Envelopes.Codec
import Subgen.Envelopes.Lookup
import Subgen.Envelopes.Profiler
import Subgen.Envelopes.Calibration
import Subgen.Lib.Framing
import Subgen.Worker.ResidentPipe
import Subgen.Failures.LogRecords
import Subgen.Publication.ActionsRuns
import Subgen.Publication.JournalRules
import Subgen.Publication.Transactions
import Subgen.Pressure.PendingPriority
import Subgen.Journal.Renumbering
import Subgen.Publication.Appends
import Subgen.Publication.JournalHistory

import Subgen.Lib.OrderedDict
import Subgen.Receipts.RuntimeState

/-!
# The coordinator of the receipts

`RuntimeReceiptCoordinator`: the workload that is public, and a journal of receipts if the gate is
enabled. A receipt is appended to the journal before what it says becomes visible. What comes from
outside of the process, the reading of the clock and how the journal is written, is an argument of
each operation (`ReceiptWorld`).

The receipts that were appended are part of the state, each with the operation that it is of. A receipt has
a sequence number and a time, which both go up; its line has a bound, and so has the journal.

The journal is a file that was opened once, which is looked at again before each write: it has to be the one
that was created, with the size that it was left with (`verifyIdentity`). A write that is too short, or is
not synced, is an error, and the coordinator takes no more receipts behind one (`failed`).

* `nextReceipt`: the receipt of an operation, from the state that it leads to;
* `SecureJournal.append`: the file, with all that may go wrong;
* `appendReceipt`, `publishReceipt`: the journal first, and then the state.
-/

namespace Subgen

open Procedure

/-- The gate: its token, and the workloads of its two phases. -/
structure GateConfig where
  gateTokenSha256 : Text
  phaseAWorkloadSha256 : Text
  phaseBWorkloadSha256 : Text
  token_hex : isHex 64 gateTokenSha256 = true
  phaseA_hex : isHex 64 phaseAWorkloadSha256 = true
  phaseB_hex : isHex 64 phaseBWorkloadSha256 = true
  distinct : phaseAWorkloadSha256 ≠ phaseBWorkloadSha256

/-- The epoch of the process, and the gate if it is enabled. -/
structure ReceiptConfig where
  epoch : Text
  gate : Option GateConfig

/-- The operation that a receipt is of. -/
inductive ReceiptKind
  | initialized
  | changed
  | bound
  | chunk
  | aborted
  | completed
  deriving DecidableEq

/-- A receipt, but for what is the same in all of them. -/
structure RuntimeReceipt where
  kind : ReceiptKind
  sequence : ℤ
  observedMonotonicNs : ℤ
  workloadSha256 : Option Text
  state : RuntimeState
  active : Bool
  chunkUncommitted : Bool
  activeCursorMs : Option ℤ
  completedCursorMs : Option ℤ
  completionGeneration : ℤ
  deriving DecidableEq

/-- `_SecureJournal`: whether it is closed, and its size. -/
structure SecureJournal where
  closed : Bool
  size : ℕ

/-- The state of the coordinator. A token is known by its number. -/
structure RuntimeReceipts where
  initialized : Bool
  failed : Bool
  closed : Bool
  sequence : ℤ
  lastObservedMonotonicNs : ℤ
  runtimeState : Option RuntimeState
  workloadSha256 : Option Text
  active : Bool
  chunkUncommitted : Bool
  activeCursorMs : Option ℤ
  completedCursorMs : Option ℤ
  completionGeneration : ℤ
  gatePhase : ℕ
  gateAborted : Bool
  nextTokenSerial : ℤ
  gateWorkloadToken : Option ℤ
  ordinaryWorkloads : OrderedDict ℤ (ℤ × Bool)
  journal : SecureJournal
  receipts : List RuntimeReceipt

/-- What the public sees of the workload. -/
structure WorkloadSnapshot where
  active : Bool
  chunkUncommitted : Bool
  completionGeneration : ℤ
  deriving DecidableEq

/-- What an operation finds outside: the clock, and in the journal whether the file is the one that was
    created and as it was left, if that can be asked, how many bytes a write takes if it does not fail,
    whether they are synced, and whether the file can be closed. -/
structure ReceiptWorld where
  clock : Except ReceiptError Json
  verified : Option Bool
  written : Option ℕ
  synced : Bool
  closes : Bool

/-- An operation on the receipts, which may raise. -/
abbrev ReceiptM := EStateM ReceiptError RuntimeReceipts

/-- A `RuntimeReceiptError` is raised. -/
def receiptFault {α : Type} (message : String) : ReceiptM α := throw (.runtimeReceiptError message)

/-- A number, or `null`. -/
def intOrNull : Option ℤ → Json
  | some n => .int n
  | none => .null

/-- A text, or `null`. -/
def textOrNull : Option Text → Json
  | some t => .str t
  | none => .null

/-- The items of a runtime state. -/
def RuntimeState.items (s : RuntimeState) : List (Text × Json) :=
  [(text "source_generation", intOrNull (s.lastAccepted.map (·.sourceGeneration))),
    (text "observation_digest", textOrNull (s.lastAccepted.map (·.observationDigest))),
    (text "policy_sha256", textOrNull (s.lastAccepted.map (·.policySha256))),
    (text "heartbeat_age_ms", intOrNull (s.lastAccepted.map (·.heartbeatAgeMs))),
    (text "source_age_ms", intOrNull (s.lastAccepted.map (·.sourceAgeMs))),
    (text "transition_observation_digest", textOrNull s.transitionObservationDigest),
    (text "transition_sequence", .int s.transitionSequence),
    (text "priority_state", .str s.priorityState),
    (text "controller_phase", .str s.controllerPhase),
    (text "recovery_reason", textOrNull s.recoveryReason),
    (text "admission_open", .bool s.admissionOpen),
    (text "distinct_clear_count", .int s.distinctClearCount),
    (text "model_resident", .bool s.modelResident),
    (text "model_identity_sha256", textOrNull s.modelIdentitySha256),
    (text "model_load_generation", .int s.modelLoadGeneration),
    (text "model_unload_generation", .int s.modelUnloadGeneration),
    (text "cuda_oom_generation", .int s.cudaOomGeneration),
    (text "media_failure_generation", .int s.mediaFailureGeneration)]

/-- The line of a receipt in the journal, in ASCII. -/
def RuntimeReceipt.line (config : ReceiptConfig) (gate : GateConfig) (r : RuntimeReceipt) : Option Text :=
  (Json.object
    ([(text "schema", .str (text "subgen.task11b.runtime-receipt/v1")),
      (text "runtime_epoch", .str config.epoch),
      (text "gate_token_sha256", .str gate.gateTokenSha256),
      (text "sequence", .int r.sequence),
      (text "observed_monotonic_ns", .int r.observedMonotonicNs),
      (text "workload_sha256", textOrNull r.workloadSha256)] ++ r.state.items ++
     [(text "active", .bool r.active),
      (text "chunk_uncommitted", .bool r.chunkUncommitted),
      (text "active_cursor_ms", intOrNull r.activeCursorMs),
      (text "completed_cursor_ms", intOrNull r.completedCursorMs),
      (text "completion_generation", .int r.completionGeneration)])).dumps.map (· ++ [10])

namespace SecureJournal

/-- `MAX_RECEIPT_BYTES`. -/
def maxReceiptBytes : ℕ := 4 * 1024

/-- `MAX_JOURNAL_BYTES`. -/
def maxJournalBytes : ℕ := 8 * 1024 * 1024

/-- `_verify_identity`. A file that is not the one that was created, or that has another size than the
    journal has left it with, is not verified. -/
def verifyIdentity (world : ReceiptWorld) (journal : SecureJournal) : Except ReceiptError Unit :=
  if journal.closed then receiptError "Task 11B receipt journal was closed"
  else
    match world.verified with
    | none => receiptError "Task 11B receipt journal identity was unavailable"
    | some false => receiptError "Task 11B receipt journal was replaced, mutated, or unsafe"
    | some true => .ok ()

/-- `append`, of so many bytes. -/
def append (world : ReceiptWorld) (length : ℕ) (journal : SecureJournal) :
    Except ReceiptError SecureJournal := do
  if maxReceiptBytes < length then receiptError "Task 11B receipt exceeded 4 KiB"
  journal.verifyIdentity world
  if maxJournalBytes < journal.size + length then
    receiptError "Task 11B receipt journal exceeded 8 MiB"
  else
    match world.written with
    | none => receiptError "Task 11B receipt journal could not be durably appended"
    | some written =>
      if written ≠ length then receiptError "Task 11B receipt journal accepted a partial write"
      else if !world.synced then
        receiptError "Task 11B receipt journal could not be durably appended"
      else .ok { journal with size := journal.size + length }

/-- `close`. A file that cannot be closed counts as open. -/
def close (world : ReceiptWorld) (journal : SecureJournal) : Except ReceiptError SecureJournal :=
  if journal.closed then .ok journal
  else if world.closes then .ok { journal with closed := true }
  else .error .osError

end SecureJournal

namespace RuntimeReceipts

/-- A coordinator is made, with a journal that is empty. -/
def new : RuntimeReceipts where
  initialized := false
  failed := false
  closed := false
  sequence := 0
  lastObservedMonotonicNs := 0
  runtimeState := none
  workloadSha256 := none
  active := false
  chunkUncommitted := false
  activeCursorMs := none
  completedCursorMs := none
  completionGeneration := 0
  gatePhase := 0
  gateAborted := false
  nextTokenSerial := 0
  gateWorkloadToken := none
  ordinaryWorkloads := .empty
  journal := ⟨false, 0⟩
  receipts := []

/-- `workload_snapshot`. -/
def workloadSnapshot (config : ReceiptConfig) (s : RuntimeReceipts) : WorkloadSnapshot :=
  if config.gate.isSome then ⟨s.active, s.active && s.chunkUncommitted, s.completionGeneration⟩
  else
    let active := !s.ordinaryWorkloads.values.isEmpty
    ⟨active, active && s.ordinaryWorkloads.values.any Prod.snd, s.completionGeneration⟩

end RuntimeReceipts

/-- `_require_open_locked`. -/
def requireOpen : ReceiptM Unit := do
  let s ← get
  if s.closed then receiptFault "runtime receipt coordinator was closed"
  else if s.failed then receiptFault "runtime receipt coordinator failed closed"
  else pure ()

/-- `_next_time_locked`: the clock goes on by a nanosecond at least. -/
def nextTime (world : ReceiptWorld) (last : ℤ) : Except ReceiptError ℤ := do
  let reading ← world.clock
  let observed ← requireReceiptInt reading "receipt monotonic time" 1 maxReceiptGeneration
  let observed := if observed ≤ last then last + 1 else observed
  if maxReceiptGeneration < observed then receiptError "receipt monotonic time was exhausted"
  else .ok observed

/-- What an operation publishes of the workload. -/
structure PublishedWorkload where
  workloadSha256 : Option Text
  active : Bool
  chunkUncommitted : Bool
  activeCursorMs : Option ℤ
  completedCursorMs : Option ℤ
  completionGeneration : ℤ

/-- The receipt that comes next. -/
def nextReceipt (world : ReceiptWorld) (kind : ReceiptKind) (runtimeState : Option Json)
    (w : PublishedWorkload) (s : RuntimeReceipts) : Except ReceiptError RuntimeReceipt :=
  match runtimeState with
  | none => receiptError "enabled Task 11B gate requires runtime state"
  | some state => do
    let current ← validateRuntimeState state
    validateRuntimeTransition s.runtimeState current
    if s.sequence = maxReceiptGeneration then receiptError "Task 11B receipt sequence was exhausted"
    else do
      let observed ← nextTime world s.lastObservedMonotonicNs
      .ok ⟨kind, s.sequence + 1, observed, w.workloadSha256, current, w.active, w.chunkUncommitted,
        w.activeCursorMs, w.completedCursorMs, w.completionGeneration⟩

/-- The append of a receipt. If it raises, no other one is appended. -/
def appendReceipt (world : ReceiptWorld) (config : ReceiptConfig) (gate : GateConfig) (r : RuntimeReceipt) :
    ReceiptM Unit := do
  match r.line config gate with
  | none => receiptFault "receipt state was not canonical JSON"
  | some line =>
    let s ← get
    if SecureJournal.maxReceiptBytes < line.length then receiptFault "Task 11B receipt exceeded 4 KiB"
    else
      match s.journal.append world line.length with
      | .error e =>
        set { s with failed := true }
        throw e
      | .ok journal =>
        set { s with
          journal := journal
          receipts := s.receipts ++ [r]
          sequence := r.sequence
          lastObservedMonotonicNs := r.observedMonotonicNs
          runtimeState := some r.state }

/-- `_publish_locked`. -/
def publishReceipt (world : ReceiptWorld) (config : ReceiptConfig) (kind : ReceiptKind)
    (runtimeState : Option Json) (w : PublishedWorkload) : ReceiptM Unit := do
  requireOpen
  match config.gate with
  | none => pure ()
  | some gate =>
    let s ← get
    let r ← ofExcept (nextReceipt world kind runtimeState w s)
    appendReceipt world config gate r

end Subgen

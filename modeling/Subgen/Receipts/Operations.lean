import Subgen.Receipts.Coordinator

/-!
# The operations on receipts

The operations of the coordinator, each under its condition. A token is given by its number; `none` is
an object that is no token, or one of another coordinator.

An operation checks that the coordinator is open and initialized, that the token is the one of the active
workload, and that the cursor moves on; then it publishes one receipt, and only behind that does it change its
own fields. An append that fails is remembered, and every operation behind it raises. The checks stand in the
order of the source, so that of several things that are wrong the same one is reported.

* `initializeReceipts`, `recordRuntimeChange`: receipts about the runtime;
* `bindGateWorkload`, `bindWorkload`: a workload begins, with or without a gate;
* `recordChunk`, `abortWorkload`, `completeWorkload`: it goes on, and ends;
* `ReceiptCall.run`: any of them.
-/

namespace Subgen

open Procedure

variable (world : ReceiptWorld) (config : ReceiptConfig)

/-- `initialize_locked`. -/
def initializeReceipts (runtimeState : Option Json) : ReceiptM Unit := do
  requireOpen
  let s ← get
  if s.initialized then receiptFault "runtime receipt coordinator was already initialized"
  else
    publishReceipt world config .initialized runtimeState
      ⟨none, false, false, none, none, s.completionGeneration⟩
    modify fun s => { s with initialized := true }

/-- `_require_initialized_locked`. -/
def requireInitialized : ReceiptM Unit := do
  requireOpen
  let s ← get
  if config.gate.isSome ∧ !s.initialized then
    receiptFault "Task 11B receipt journal was not initialized"
  else pure ()

/-- `record_runtime_change_locked`. -/
def recordRuntimeChange (runtimeState : Option Json) : ReceiptM Unit := do
  requireInitialized config
  let s ← get
  publishReceipt world config .changed runtimeState
    ⟨s.workloadSha256, s.active, s.chunkUncommitted, s.activeCursorMs, s.completedCursorMs,
      s.completionGeneration⟩

/-- `_expected_gate_workload_locked`. -/
def GateConfig.expected (gate : GateConfig) (phase : ℕ) : Option Text :=
  if phase = 0 then some gate.phaseAWorkloadSha256
  else if phase = 1 then some gate.phaseBWorkloadSha256
  else none

/-- `_new_token_locked`. -/
def newToken : ReceiptM ℤ := do
  let s ← get
  if s.nextTokenSerial = maxReceiptGeneration then receiptFault "workload token sequence was exhausted"
  else
    set { s with nextTokenSerial := s.nextTokenSerial + 1 }
    pure (s.nextTokenSerial + 1)

/-- `_require_token_locked`. -/
def requireToken (token : Option ℤ) : ReceiptM ℤ :=
  match token with
  | some token => pure token
  | none => receiptFault "workload token was foreign or invalid"

/-- A cursor is a generation. -/
def requireCursor (cursor : Json) (name : String) : Except ReceiptError ℤ :=
  requireReceiptInt cursor name 0 maxReceiptGeneration

/-- A workload of the gate is bound: it has to be the one that is expected. -/
def bindGateWorkload (gate : GateConfig) (workload : Json) (cursor : ℤ) (runtimeState : Option Json) :
    ReceiptM ℤ := do
  let s ← get
  if s.active then receiptFault "concurrent runtime workloads are forbidden"
  else if s.gateAborted then receiptFault "Task 11B gate workload previously aborted"
  else
    match gate.expected s.gatePhase, workload with
    | some expected, .str sha =>
      if sha ≠ expected then receiptFault "Task 11B workload was foreign, repeated, or out of order"
      else
        let token ← newToken
        publishReceipt world config .bound runtimeState
          ⟨some sha, true, false, some cursor, none, s.completionGeneration⟩
        modify fun s => { s with
          workloadSha256 := some sha
          active := true
          chunkUncommitted := false
          activeCursorMs := some cursor
          completedCursorMs := none
          gateWorkloadToken := some token }
        pure token
    | _, _ => receiptFault "Task 11B workload was foreign, repeated, or out of order"

/-- `bind_workload_locked`. -/
def bindWorkload (workload cursor : Json) (runtimeState : Option Json) : ReceiptM ℤ := do
  requireInitialized config
  let cursor ← ofExcept (requireCursor cursor "active_cursor_ms")
  match config.gate with
  | some gate => bindGateWorkload world config gate workload cursor runtimeState
  | none =>
    match workload with
    | .null => pure ()
    | workload => let _ ← ofExcept (requireLowerHex workload "workload_sha256")
    let token ← newToken
    modify fun s => { s with ordinaryWorkloads := s.ordinaryWorkloads.insert token (cursor, false) }
    pure token

/-- A workload without a gate that is still active. -/
def ordinaryWorkload (token : ℤ) : ReceiptM (ℤ × Bool) := do
  let s ← get
  match s.ordinaryWorkloads.get token with
  | some workload => pure workload
  | none => receiptFault "workload token was no longer active"

/-- The cursor of the workload of the gate that a token stands for. -/
def gateCursor (token : ℤ) (message : String) : ReceiptM ℤ := do
  let s ← get
  if s.gateWorkloadToken ≠ some token then receiptFault "workload token was no longer active"
  else
    match s.active, s.activeCursorMs with
    | true, some cursor => pure cursor
    | _, _ => receiptFault message

/-- The progress of a chunk: the cursor does not go back. It is nothing new if neither changes. -/
def chunkProgress (old : ℤ × Bool) (cursor chunk : Json) : Except ReceiptError (Option (ℤ × Bool)) := do
  let cursor ← requireCursor cursor "active_cursor_ms"
  if cursor < old.1 then receiptError "active cursor cannot regress"
  else do
    let chunk ← requireReceiptBool chunk "chunk_uncommitted must be a boolean"
    .ok (if cursor = old.1 ∧ chunk = old.2 then none else some (cursor, chunk))

/-- `record_chunk_locked`. -/
def recordChunk (token : Option ℤ) (cursor chunk : Json) (runtimeState : Option Json) : ReceiptM Bool := do
  requireInitialized config
  let token ← requireToken token
  if config.gate.isNone then
    let old ← ordinaryWorkload token
    match ← ofExcept (chunkProgress old cursor chunk) with
    | none => pure false
    | some progress =>
      modify fun s => { s with ordinaryWorkloads := s.ordinaryWorkloads.insert token progress }
      pure true
  else
    let old ← gateCursor token "no active workload accepted chunk state"
    let s ← get
    match ← ofExcept (chunkProgress (old, s.chunkUncommitted) cursor chunk) with
    | none => pure false
    | some (cursor, chunk) =>
      publishReceipt world config .chunk runtimeState
        ⟨s.workloadSha256, true, chunk, some cursor, none, s.completionGeneration⟩
      modify fun s => { s with activeCursorMs := some cursor, chunkUncommitted := chunk }
      pure true

/-- `abort_workload_locked`. -/
def abortWorkload (token : Option ℤ) (runtimeState : Option Json) : ReceiptM Unit := do
  requireInitialized config
  let token ← requireToken token
  if config.gate.isNone then
    let _ ← ordinaryWorkload token
    modify fun s => { s with ordinaryWorkloads := s.ordinaryWorkloads.erase token }
  else
    let s ← get
    if s.gateWorkloadToken ≠ some token then receiptFault "workload token was no longer active"
    else if !s.active then receiptFault "no active workload could be aborted"
    else
      publishReceipt world config .aborted runtimeState
        ⟨s.workloadSha256, false, false, none, none, s.completionGeneration⟩
      modify fun s => { s with
        active := false
        chunkUncommitted := false
        activeCursorMs := none
        completedCursorMs := none
        gateWorkloadToken := none
        gateAborted := true }

/-- The cursor at which a workload is completed. -/
def terminalCursor (active : ℤ) (completionGeneration : ℤ) (terminal : Json) : Except ReceiptError ℤ := do
  let terminal ← requireCursor terminal "completed_cursor_ms"
  if terminal < active then receiptError "completed cursor cannot precede active cursor"
  else if completionGeneration = maxReceiptGeneration then
    receiptError "completion generation was exhausted"
  else .ok terminal

/-- `complete_workload_locked`. -/
def completeWorkload (token : Option ℤ) (terminal : Json) (runtimeState : Option Json) : ReceiptM ℤ := do
  requireInitialized config
  let token ← requireToken token
  if config.gate.isNone then
    let workload ← ordinaryWorkload token
    let s ← get
    let _ ← ofExcept (terminalCursor workload.1 s.completionGeneration terminal)
    set { s with
      ordinaryWorkloads := s.ordinaryWorkloads.erase token
      completionGeneration := s.completionGeneration + 1 }
    pure (s.completionGeneration + 1)
  else
    let active ← gateCursor token "no active workload could complete"
    let s ← get
    let terminal ← ofExcept (terminalCursor active s.completionGeneration terminal)
    publishReceipt world config .completed runtimeState
      ⟨s.workloadSha256, false, false, none, some terminal, s.completionGeneration + 1⟩
    modify fun s => { s with
      active := false
      chunkUncommitted := false
      activeCursorMs := none
      completedCursorMs := some terminal
      completionGeneration := s.completionGeneration + 1
      gateWorkloadToken := none
      gatePhase := s.gatePhase + 1 }
    pure (s.completionGeneration + 1)

/-- `close_locked`. -/
def closeReceipts : ReceiptM Unit := do
  let s ← get
  if s.closed then pure ()
  else if config.gate.isSome then
    let journal ← ofExcept (s.journal.close world)
    set { s with journal := journal, closed := true }
  else set { s with closed := true }

/-- The operations, with their arguments. -/
inductive ReceiptCall
  | initializeWith (runtimeState : Option Json)
  | recordRuntimeChange (runtimeState : Option Json)
  | bindWorkload (workload cursor : Json) (runtimeState : Option Json)
  | recordChunk (token : Option ℤ) (cursor chunk : Json) (runtimeState : Option Json)
  | abortWorkload (token : Option ℤ) (runtimeState : Option Json)
  | completeWorkload (token : Option ℤ) (terminal : Json) (runtimeState : Option Json)
  | close

/-- One operation, whatever it returns. -/
def ReceiptCall.run : ReceiptCall → ReceiptM Unit
  | initializeWith runtimeState => initializeReceipts world config runtimeState
  | recordRuntimeChange runtimeState => Subgen.recordRuntimeChange world config runtimeState
  | bindWorkload workload cursor runtimeState =>
    discard (Subgen.bindWorkload world config workload cursor runtimeState)
  | recordChunk token cursor chunk runtimeState =>
    discard (Subgen.recordChunk world config token cursor chunk runtimeState)
  | abortWorkload token runtimeState => Subgen.abortWorkload world config token runtimeState
  | completeWorkload token terminal runtimeState =>
    discard (Subgen.completeWorkload world config token terminal runtimeState)
  | close => closeReceipts world config

end Subgen

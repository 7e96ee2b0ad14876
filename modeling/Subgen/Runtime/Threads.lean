import Subgen.Lib.Interleaving
import Subgen.Runtime.Coordinator

/-!
# The threads of the runtime

Where a thread stands in `transcribe_with_model`, `start_model`, `_release_model_once` and the
smaller calls (`Point`), and what its next step does (`step`). A step is one section under the
condition, one operation on the semaphore, the taking or giving back of the load lock, or what
happens outside: the loader, the inference. A thread that has to wait has no step.

A call that raises ends, so that the thread is `idle` again. A release that returns stands at
`released` for one step more.
-/

namespace Subgen

open ModelRuntime

/-- How a slot is left: the call is over, with a result or an error, or with an error that carries a
    ticket, or it goes on. -/
inductive SlotOutcome
  | returned
  | raised
  | ticket
  | stale
  | capacity
  | allocation (attempts : ℕ)
  deriving DecidableEq

/-- Where a recovery came from: the wait for an admission, the loop of a call, or a selection
    without a model. -/
inductive RecoveryOrigin
  | admission (kind : SlotKind)
  | loop (kind : SlotKind)
  | selection
  deriving DecidableEq

/-- Where a thread stands. -/
inductive Point
  | idle
  -- `start_model`
  | starting
  | selecting (generation count : ℕ) (active : Bool)
  | reselecting
  | preparing
  -- `wait_for_model_admission`, `wait_for_model_recovery`
  | admitting (kind : SlotKind)
  | waiting (kind : SlotKind)
  | recovering (origin : RecoveryOrigin)
  | reopening (origin : RecoveryOrigin)
  -- `_acquire_inference_slot`
  | reading (kind : SlotKind)
  | acquiring (kind : SlotKind) (generation : ℕ)
  | validating (kind : SlotKind) (generation : ℕ)
  | refusing (kind : SlotKind)
  -- `_load_model_once`
  | locking (kind : SlotKind) (generation : ℕ)
  | checking (kind : SlotKind) (generation : ℕ)
  | loading (kind : SlotKind) (generation : ℕ)
  | counting (kind : SlotKind) (generation : ℕ)
  | deferring (kind : SlotKind) (generation : ℕ)
  | publishing (kind : SlotKind) (generation : ℕ)
  | unlocking (kind : SlotKind) (generation : ℕ) (outcome : Option SlotOutcome)
  -- `transcribe_with_model`
  | running (generation : ℕ)
  | unwinding (generation : ℕ) (outcome : SlotOutcome)
  | exhausted (generation : ℕ)
  | closing (generation : ℕ)
  | leaving (kind : SlotKind) (generation : ℕ) (outcome : SlotOutcome)
  | left (kind : SlotKind) (generation : ℕ) (outcome : SlotOutcome)
  | marking
  -- `_release_model_once`
  | deciding (call : ReleaseCall)
  | joining (call : ReleaseCall) (transition : ℕ)
  | draining (call : ReleaseCall) (transition taken : ℕ)
  | examining (call : ReleaseCall) (transition : ℕ)
  | unloading (call : ReleaseCall) (transition : ℕ)
  | unlockingRelease (call : ReleaseCall) (transition : ℕ) (result : ReleaseResult)
  | failing (call : ReleaseCall) (transition : ℕ) (result : ReleaseResult)
  | returning (call : ReleaseCall) (transition taken : ℕ) (result : ReleaseResult)
  | completing (call : ReleaseCall) (transition : ℕ) (result : ReleaseResult)
  | reopeningIdle (call : ReleaseCall)
  | released (call : ReleaseCall) (result : Bool)
  -- `check_segment_commit_allowed`
  | committing (generation : ℤ)
  | rejecting (generation : ℤ)
  deriving DecidableEq

/-- The loop of a call, from its top. -/
def SlotKind.top : SlotKind → Point
  | transcribe => .admitting .transcribe
  | start => .starting

/-- Where a thread goes on after its recovery. -/
def RecoveryOrigin.point : RecoveryOrigin → Point
  | admission kind => .admitting kind
  | loop kind => kind.top
  | selection => .preparing

section Steps

variable (config : RuntimeConfig) (ch : Choice) (s : ModelRuntime)

/-- A call begins. -/
def stepIdle : Option (ModelRuntime × Point) :=
  match ch.call with
  | .transcribeWithModel => some (s, .admitting .transcribe)
  | .startModel => some (s, .starting)
  | .releaseModel idleCleanup => some (s, .deciding ⟨idleCleanup, none, s.model, .outside⟩)
  | .releaseAfterInferenceFailure generation =>
    if .ticket generation ∈ s.history then
      some (s, .deciding ⟨false, some generation, s.model, .outside⟩)
    else
      none
  | .closeModelAdmission => some (s.closeModelAdmission config ch, .idle)
  | .reopenModelAdmission => some ((s.reopenModelAdmission config ch).1, .idle)
  | .checkSegmentCommitAllowed =>
    if ch.controller.isNone then some (s, .idle) else some (s, .committing s.commitGeneration)
  | .recordReceipt => some (s.recordReceipt config ch, .idle)

/-- The loop of `start_model`, with `initialize_model_runtime`. -/
def stepStarting : Option (ModelRuntime × Point) :=
  if s.profileUnhealthy || ch.cancelled then some (s, .idle)
  else if s.selectionLock then none
  else if !s.initialized then
    some ({ s with selectionLock := true },
      .selecting s.releaseGeneration s.transitions.length s.transitionActive)
  else if s.requirement then some (s, .admitting .start)
  else some (s, .reselecting)

/-- A model is selected, or the selection waits for a transition. -/
def stepSelecting (generation count : ℕ) (active : Bool) : Option (ModelRuntime × Point) :=
  if s.transitionActive then
    if ch.cancelled then some ({ s with selectionLock := false }, .idle) else none
  else if s.releaseFailed then some ({ s with selectionLock := false }, .idle)
  else
    some (s.publishSelection config ch generation count active,
      if ch.receiptWritten then .starting else .idle)

/-- No model was selected: the controller has to recover, or the selection is made again. -/
def stepReselecting : Option (ModelRuntime × Point) :=
  if ch.recoverable then some (s, .recovering .selection)
  else if ch.cancelled then some (s, .idle)
  else if s.selectionLock then none
  else some ({ s with initialized := s.initialized && s.requirement }, .starting)

/-- `_prepare_no_safe_reselection`. -/
def stepPreparing : Option (ModelRuntime × Point) :=
  if s.selectionLock then none
  else
    some ({ s with initialized := s.initialized && (s.requirement || !controllerOpen ch) }, .starting)

/-- `wait_for_model_admission`, outside its section. -/
def stepAdmitting (kind : SlotKind) : Option (ModelRuntime × Point) :=
  if s.profileUnhealthy || ch.cancelled then some (s, .idle) else some (s, .waiting kind)

/-- `wait_for_model_admission`. -/
def stepWaiting (kind : SlotKind) : Option (ModelRuntime × Point) :=
  match s.waitForModelAdmission config ch with
  | (s, .admitted) => some (s, .reading kind)
  | (s, .raised) => some (s, .idle)
  | (s, .recover) => some (s, .recovering (.admission kind))
  | (s, .wait) => some (s, .admitting kind)

/-- The loop of the recovery. -/
def stepRecovering (origin : RecoveryOrigin) : Option (ModelRuntime × Point) :=
  if s.profileUnhealthy || ch.cancelled then some (s, .idle)
  else
    match s.waitForModelRecovery ch with
    | .recover => some (s, .reopening origin)
    | .raised => some (s, .idle)
    | _ => some (s, .recovering origin)

/-- The admission is reopened after the recovery. -/
def stepReopening (origin : RecoveryOrigin) : Option (ModelRuntime × Point) :=
  if !ch.recovered then some (s, .idle)
  else
    match s.reopenModelAdmission config ch with
    | (s, .reopened) => some (s, origin.point)
    | (s, .refused) => some (s, .recovering origin)
    | (s, .raised) => some (s, .idle)

/-- The admitted generation is read. -/
def stepReading (kind : SlotKind) : Option (ModelRuntime × Point) :=
  match s.admittedGeneration with
  | none => some (s, .admitting kind)
  | some generation => some (s, .acquiring kind generation)

/-- The semaphore, with a limit of the time. -/
def stepAcquiring (kind : SlotKind) (generation : ℕ) : Option (ModelRuntime × Point) :=
  if !ch.acquired then some (s, .admitting kind)
  else if s.permits = 0 then none
  else some ({ s with permits := s.permits - 1 }, .validating kind generation)

/-- The generation is checked once more in the slot. -/
def stepValidating (kind : SlotKind) (generation : ℕ) : Option (ModelRuntime × Point) :=
  if s.slotValid ch generation then
    some ({ s with activeInferences := s.activeInferences + 1 }, .locking kind generation)
  else
    some (s, .refusing kind)

/-- A permit is given back. -/
def giveBack : ModelRuntime := { s with permits := s.permits + 1 }

/-- The load lock is taken. -/
def lockLoad (p : Point) : Option (ModelRuntime × Point) :=
  if s.loadLock then none else some ({ s with loadLock := true }, p)

/-- The load lock is given back. -/
def unlockLoad : ModelRuntime := { s with loadLock := false }

/-- The checks of `_load_model_once`. -/
def stepChecking (kind : SlotKind) (generation : ℕ) : ModelRuntime × Point :=
  if s.admissionClosed || s.releaseGeneration ≠ generation then
    (s, .unlocking kind generation (some .stale))
  else if s.model.isSome then (s, .unlocking kind generation none)
  else if ch.controller.isSome && !ch.admitted then
    (s.closeModelAdmission config ch,
      .unlocking kind generation (some (if ch.receiptWritten then .capacity else .raised)))
  else if config.gateEnabled && !ch.identified then (s, .unlocking kind generation (some .raised))
  else (s, .loading kind generation)

/-- The loader. -/
def stepLoading (kind : SlotKind) (generation : ℕ) : ModelRuntime × Point :=
  match ch.loader with
  | .loaded => (s, .publishing kind generation)
  | .allocationFailed => (s, .counting kind generation)
  | .failed => (s, .unlocking kind generation (some .raised))

/-- `_record_classified_cuda_oom`: whether it goes on. -/
def countOutOfMemory : ModelRuntime × Bool :=
  if ch.cudaOutOfMemory then (s.recordReceipt config ch, ch.receiptWritten) else (s, true)

/-- An allocation failure is counted. -/
def stepCounting (kind : SlotKind) (generation : ℕ) : ModelRuntime × Point :=
  if (countOutOfMemory config ch s).2 then ((countOutOfMemory config ch s).1, .deferring kind generation)
  else ((countOutOfMemory config ch s).1, .unlocking kind generation (some .raised))

/-- A load that failed for want of memory closes the admission. -/
def stepDeferring (kind : SlotKind) (generation : ℕ) : ModelRuntime × Point :=
  ({ s with loadAllocationFailures := s.loadAllocationFailures + 1 }.closeModelAdmission config ch,
    .unlocking kind generation (some
      (if ch.receiptWritten then .allocation (s.loadAllocationFailures + 1) else .raised)))

/-- The loaded model is published. -/
def stepPublishing (kind : SlotKind) (generation : ℕ) : ModelRuntime × Point :=
  (s.publishModel config ch,
    .unlocking kind generation (if ch.receiptWritten then none else some .raised))

/-- The load lock is given back. An error may be one of memory for the handler of the inference. -/
def stepUnlocking (kind : SlotKind) (generation : ℕ) : Option SlotOutcome → ModelRuntime × Point
  | none =>
    match kind with
    | .transcribe => (unlockLoad s, .running generation)
    | .start => (unlockLoad s, .leaving .start generation .returned)
  | some outcome =>
    if kind = .transcribe ∧ outcome = .raised ∧ ch.classified then (unlockLoad s, .exhausted generation)
    else (unlockLoad s, .leaving kind generation outcome)

/-- Inside of `runtime.model.transcribe`. -/
def stepRunning (generation : ℕ) : ModelRuntime × Point :=
  match ch.inference with
  | .returned => (s, .leaving .transcribe generation .returned)
  | .failed => (s, .leaving .transcribe generation .raised)
  | .allocationFailed => (s, .exhausted generation)
  | .closes =>
    (s.closeModelAdmission config ch,
      if ch.receiptWritten then .running generation else .unwinding generation .raised)
  | .pressure =>
    (s.closeModelAdmission config ch,
      .unwinding generation (if ch.receiptWritten then .ticket else .raised))

/-- An inference that failed for want of memory. -/
def stepExhausted (generation : ℕ) : ModelRuntime × Point :=
  if (countOutOfMemory config ch s).2 then ((countOutOfMemory config ch s).1, .closing generation)
  else ((countOutOfMemory config ch s).1, .leaving .transcribe generation .raised)

/-- The admission is closed after an inference failed. -/
def stepClosing (generation : ℕ) : ModelRuntime × Point :=
  (s.closeModelAdmission config ch,
    .leaving .transcribe generation (if ch.receiptWritten then .ticket else .raised))

/-- Behind the slot. -/
def stepLeft (kind : SlotKind) (generation : ℕ) (outcome : SlotOutcome) : ModelRuntime × Point :=
  let s := { s with activeInferences := s.activeInferences - 1 }
  match outcome with
  | .returned => (s, .idle)
  | .raised => (s, .idle)
  | .ticket => ({ s with history := .ticket generation :: s.history }, .idle)
  | .stale => (s, .admitting kind)
  | .capacity => (s, .recovering (.loop kind))
  | .allocation attempts => (s, .deciding ⟨false, some generation, s.model, .load kind attempts⟩)

/-- A release decides whether it leads, joins or has nothing to do. -/
def stepDeciding (call : ReleaseCall) : ModelRuntime × Point :=
  match s.decideRelease config ch call.source with
  | (s, .joiner t) => (s, .joining call t)
  | (s, .owner t) => (s, .draining call t 0)
  | (s, .raised) => (s, .idle)

/-- A release waits for the transition that it joined. -/
def stepJoining (call : ReleaseCall) (t : ℕ) : Option (ModelRuntime × Point) :=
  match s.transitions[t]? with
  | none => none
  | some r =>
    if !r.complete then none
    else if r.failed then some (s, .idle)
    else some (s, .released call r.didUnload)

/-- The owner takes every permit, and then the load lock. -/
def stepDraining (call : ReleaseCall) (t taken : ℕ) : Option (ModelRuntime × Point) :=
  if taken < config.permitCount then
    if s.permits = 0 then none
    else some ({ s with permits := s.permits - 1 }, .draining call t (taken + 1))
  else
    lockLoad s (.examining call t)

/-- An idle cleanup looks once more whether the system is idle. -/
def stepExamining (call : ReleaseCall) (t : ℕ) : ModelRuntime × Point :=
  if call.idleCleanup && !ch.systemIdle then (s.abortRelease t, .unlockingRelease call t .aborted)
  else (s, .unloading call t)

/-- The model is unloaded. -/
def stepUnloading (call : ReleaseCall) (t : ℕ) : ModelRuntime × Point :=
  ((s.unloadForRelease config ch call.source t).1,
    .unlockingRelease call t (s.unloadForRelease config ch call.source t).2)

/-- The load lock is given back after the release. -/
def stepUnlockingRelease (call : ReleaseCall) (t : ℕ) (result : ReleaseResult) :
    ModelRuntime × Point :=
  if result.isFailed then (unlockLoad s, .failing call t result)
  else (unlockLoad s, .returning call t config.permitCount result)

/-- The permits are given back one by one. -/
def stepReturning (call : ReleaseCall) (t taken : ℕ) (result : ReleaseResult) : ModelRuntime × Point :=
  match taken with
  | 0 => (s, .completing call t result)
  | n + 1 => (giveBack s, .returning call t n result)

/-- The transition is completed. -/
def stepCompleting (call : ReleaseCall) (t : ℕ) (result : ReleaseResult) : ModelRuntime × Point :=
  (s.completeRelease config ch t result,
    if completionRaises ch result then .idle
    else
      match result with
      | .done didUnload => .released call didUnload
      | .aborted => .reopeningIdle call
      | .failed _ => .idle)

/-- An idle cleanup reopens the admission. -/
def stepReopeningIdle (call : ReleaseCall) : ModelRuntime × Point :=
  match s.reopenModelAdmission config ch with
  | (s, .raised) => (s, .idle)
  | (s, _) => (s, .released call false)

/-- Behind a release, `_handle_model_load_allocation_failure` goes on. -/
def stepReleased (call : ReleaseCall) : Point :=
  match call.caller with
  | .outside => .idle
  | .load kind attempts => if 2 ≤ attempts then .marking else .recovering (.loop kind)

/-- `check_segment_commit_allowed`, behind the check of the controller. -/
def stepCommitting (generation : ℤ) : ModelRuntime × Point :=
  if ch.pressure || !controllerOpen ch || s.admissionClosed then (s, .rejecting generation)
  else (s, .idle)

/-- A rejected model closes the admission. -/
def stepRejecting (generation : ℤ) : ModelRuntime × Point :=
  let s := s.closeModelAdmission config ch
  if ch.receiptWritten then ({ s with history := .ticket generation :: s.history }, .idle)
  else (s, .idle)

/-- The next step of a thread, if it does not have to wait. -/
def step : Point → Option (ModelRuntime × Point)
  | .idle => stepIdle config ch s
  | .starting => stepStarting ch s
  | .selecting generation count active => stepSelecting config ch s generation count active
  | .reselecting => stepReselecting ch s
  | .preparing => stepPreparing ch s
  | .admitting kind => stepAdmitting ch s kind
  | .waiting kind => stepWaiting config ch s kind
  | .recovering origin => stepRecovering ch s origin
  | .reopening origin => stepReopening config ch s origin
  | .reading kind => stepReading s kind
  | .acquiring kind generation => stepAcquiring ch s kind generation
  | .validating kind generation => stepValidating ch s kind generation
  | .refusing kind => some (giveBack s, .admitting kind)
  | .locking kind generation => lockLoad s (.checking kind generation)
  | .checking kind generation => some (stepChecking config ch s kind generation)
  | .loading kind generation => some (stepLoading ch s kind generation)
  | .counting kind generation => some (stepCounting config ch s kind generation)
  | .deferring kind generation => some (stepDeferring config ch s kind generation)
  | .publishing kind generation => some (stepPublishing config ch s kind generation)
  | .unlocking kind generation outcome => some (stepUnlocking ch s kind generation outcome)
  | .running generation => some (stepRunning config ch s generation)
  | .unwinding generation outcome => some (s, .leaving .transcribe generation outcome)
  | .exhausted generation => some (stepExhausted config ch s generation)
  | .closing generation => some (stepClosing config ch s generation)
  | .leaving kind generation outcome => some (giveBack s, .left kind generation outcome)
  | .left kind generation outcome => some (stepLeft s kind generation outcome)
  | .marking => some (s.markModelProfileUnhealthy config ch, .idle)
  | .deciding call => some (stepDeciding config ch s call)
  | .joining call t => stepJoining s call t
  | .draining call t taken => stepDraining config s call t taken
  | .examining call t => some (stepExamining ch s call t)
  | .unloading call t => some (stepUnloading config ch s call t)
  | .unlockingRelease call t result => some (stepUnlockingRelease config s call t result)
  | .failing call t result =>
    some ({ s with admissionClosed := true }, .returning call t config.permitCount result)
  | .returning call t taken result => some (stepReturning s call t taken result)
  | .completing call t result => some (stepCompleting config ch s call t result)
  | .reopeningIdle call => some (stepReopeningIdle config ch s call)
  | .released call _ => some (s, stepReleased call)
  | .committing generation => some (stepCommitting ch s generation)
  | .rejecting generation => some (stepRejecting config ch s generation)

end Steps

/-! ## Threads -/

/-- A thread, with the number of permits that it has taken and of those it has given back. -/
structure RuntimeThread where
  point : Point
  taken : ℕ
  returned : ℕ

/-- One step of a thread, from the point where it is. -/
def threadStep (config : RuntimeConfig) (ch : Choice) (s : ModelRuntime) (th : RuntimeThread) :
    Option (ModelRuntime × RuntimeThread) :=
  (step config ch s th.point).map fun r =>
    (r.1, ⟨r.2, th.taken + (s.permits - r.1.permits), th.returned + (r.1.permits - s.permits)⟩)

/-- Any number of threads, before the first of them calls something. -/
def startThreads (config : RuntimeConfig) (n : ℕ) : Interleaving.Config ModelRuntime RuntimeThread :=
  ⟨.new config, List.replicate n ⟨.idle, 0, 0⟩⟩

end Subgen

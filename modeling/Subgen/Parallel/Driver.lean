import Subgen.Parallel.Progress
import Subgen.Segmentation.Adaptive

/-!
# The parallel driver

`run_parallel_segmented_transcription` runs one file over a cohort of workers. It
is a loop of rounds; a round harvests the inferences that are done, commits what is
ready, and gives every free worker a window. When memory pressure or a failed
allocation interrupts a round, dispatch is paused, everything in flight is drained,
and the next round loads a new cohort.

The cohort, the thread pool, the clock and the media are behind callbacks
(`Runtime`), which act on a world of their own: any answer at any time is possible.
A future is named by the assignment that it was submitted for.
-/

namespace Subgen

open Procedure

/-- A cohort: the selectors of its devices, and what identifies device and model. -/
structure Cohort where
  selectors : List String
  identity : List (String × String)
  deriving DecidableEq

/-- What the driver tells the observer of the run. -/
inductive DriverEvent
  | loaded (workers : List String) (generation : ℕ)
  | started (worker : String) (window : ChunkWindow)
  | committed (worker : String) (window : ChunkWindow) (state : AssemblyState)
  | yielded (error : Exc) (state : AssemblyState)

/-- What the driver calls. -/
structure Runtime (W H : Type) where
  Audio : Type
  storage : Callbacks W H
  checkCancelled : EStateM Exc W Unit
  checkHealthy : EStateM Exc W Bool
  cohortFactory : EStateM Exc W Cohort
  /-- How often the loading future is polled before it is done. -/
  loadingPolls : EStateM Exc W ℕ
  loadingResult : EStateM Exc W Unit
  cancelCohort : String → EStateM Exc W Unit
  cancellationReason : EStateM Exc W (Option String)
  releaseCohort : EStateM Exc W Unit
  /-- The futures that `wait` reports as done, in the order they are gone through. -/
  waitDone : List ChunkAssignment → EStateM Exc W (List ChunkAssignment)
  /-- Whether everything has unwound by the release deadline. -/
  waitUnwound : List ChunkAssignment → EStateM Exc W Bool
  futureResult : ChunkAssignment → EStateM Exc W (Value × ℚ)
  /-- The clock; it does not raise. -/
  monotonic : W → ℚ × W
  extractChunk : ChunkWindow → EStateM Exc W Audio
  submit : Option Cohort → ChunkAssignment → Audio → ℚ → EStateM Exc W Unit
  onEvent : DriverEvent → EStateM Exc W Unit
  waitForRecovery : Exc → EStateM Exc W (Option (ℤ × ℤ))
  finalizeAssembly : AssemblyState → EStateM Exc W Unit
  chunkTimeout : ℚ

/-- An inference in the pool, and when its extraction was started. -/
structure ActiveChunk where
  assignment : ChunkAssignment
  started : ℚ

/-- The variables of the driver. -/
structure Driver (W H : Type) where
  scheduler : Scheduler W H
  active : List ActiveChunk
  errors : List Exc
  stagedOwners : AList fun _ : ℚ => String × ℕ
  rates : AList fun _ : String => ℚ
  adaptive : AList fun _ : String => AdaptiveChunkState
  cohort : Option Cohort
  identity : Option (List (String × String))
  generation : ℕ
  loading : Bool
  unconfirmed : Bool
  loadFailures : AList fun _ : String => ℕ

namespace Driver

variable {W H : Type}

/-- The scheduling state. -/
abbrev coordinator (s : Driver W H) : Coordinator H := s.scheduler.self

/-- What is done to the scheduler. -/
def onScheduler {α : Type} (m : EStateM Exc (Scheduler W H) α) : EStateM Exc (Driver W H) α :=
  zoom scheduler (fun s t => { s with scheduler := t }) m

/-- What is done to the coordinator. -/
def onSelf {α : Type} (m : EStateM Exc (Coordinator H) α) : EStateM Exc (Driver W H) α :=
  onScheduler (Scheduler.onSelf m)

/-- What is done outside the driver. -/
def onWorld {α : Type} (m : EStateM Exc W α) : EStateM Exc (Driver W H) α :=
  onScheduler (Scheduler.onWorld m)

/-- `_terminal_errors`: what is not one of the control signals. -/
def terminalErrors (errors : List Exc) : List Exc :=
  errors.filter fun
    | .memoryPressureYield _ | .cohortCancelled _ | .cancelledError
    | .workerAllocationFailure .. => false
    | _ => true

/-- The allocation failures among the errors. -/
def allocationErrors (errors : List Exc) : List Exc :=
  errors.filter fun
    | .workerAllocationFailure .. => true
    | _ => false

variable (rt : Runtime W H)

/-- `runtime_check`: it returns true, or raises. -/
def runtimeCheck (hasCohort : Bool) : EStateM Exc W Bool := do
  rt.checkCancelled
  let healthy ← rt.checkHealthy
  if healthy then
    pure true
  else
    let cancel := if hasCohort then rt.cancelCohort "pressure" else pure ()
    cancel
    throw (.memoryPressureYield "Parallel transcription yielded to resource pressure")

/-- `runtime_check` in the driver. -/
def check : EStateM Exc (Driver W H) Unit := do
  let s ← get
  let _ ← onWorld (runtimeCheck rt s.cohort.isSome)

/-- The rate of the worker, averaged with the new measurement. -/
def recordRate (rates : AList fun _ : String => ℚ) (worker : String) (rate : ℚ) :
    AList fun _ : String => ℚ :=
  rates.insert worker (1 / 2 * (rates.lookup worker).getD rate + 1 / 2 * rate)

/-- The result of a future is staged, and its processing time measured. -/
def stage (a : ChunkAssignment) (started : ℚ) : EStateM Exc (Driver W H) Unit := do
  let (result, finished) ← onWorld (rt.futureResult a)
  onScheduler (Scheduler.completed rt.storage (some a) result)
  let elapsed := max (1 / 1000) (finished - started)
  modify fun s => { s with
    stagedOwners := s.stagedOwners.insert a.window.coreStart (a.worker, s.generation)
    rates := recordRate s.rates a.worker ((a.window.coreEnd - a.window.coreStart) / elapsed) }

/-- A future is staged, or its range given back and its error kept. -/
def stageOrYield (a : ChunkAssignment) (started : ℚ) : EStateM Exc (Driver W H) (List Exc) :=
  tryCatch (stage rt a started >>= fun _ => pure []) fun e => do
    onSelf (Coordinator.yielded (some a))
    pure [e]

/-- The futures that are done are taken out of the active ones and staged. -/
def harvest : List ChunkAssignment → EStateM Exc (Driver W H) (List Exc)
  | [] => pure []
  | a :: done => do
    let s ← get
    match s.active.find? (fun x => x.assignment = a) with
    | none => harvest done
    | some x =>
      modify fun s => { s with active := s.active.eraseP fun x => x.assignment = a }
      let errors ← stageOrYield rt a x.started
      let more ← harvest done
      pure (errors ++ more)

/-- The active futures are all staged or given back, when they have unwound. -/
def stageActive : List ActiveChunk → EStateM Exc (Driver W H) (List Exc)
  | [] => pure []
  | x :: rest => do
    let errors ← stageOrYield rt x.assignment x.started
    modify fun s => { s with active := s.active.eraseP fun y => y.assignment = x.assignment }
    let more ← stageActive rest
    pure (errors ++ more)

/-- The error of a load that was still under way. -/
def takeLoading : EStateM Exc (Driver W H) (List Exc) := do
  let s ← get
  if s.loading then
    let errors ← tryCatch (onWorld rt.loadingResult >>= fun _ => pure []) fun e => pure [e]
    modify fun s => { s with loading := false }
    pure errors
  else
    pure []

/-- A call on the cohort, if there is one. -/
def onCohort (m : EStateM Exc W Unit) : EStateM Exc (Driver W H) Unit := do
  let s ← get
  if s.cohort.isSome then onWorld m else pure ()

/-- Everything in flight is cancelled and waited for. -/
def drain (reason : String) (releaseCohort : Bool) : EStateM Exc (Driver W H) (List Exc) := do
  onCohort (rt.cancelCohort reason)
  let s ← get
  let unwound ← onWorld (rt.waitUnwound (s.active.map ActiveChunk.assignment))
  if unwound then
    let failures ← takeLoading rt
    let s ← get
    let more ← stageActive rt s.active
    onCohort (if releaseCohort then rt.releaseCohort else pure ())
    pure (failures ++ more)
  else
    modify fun s => { s with unconfirmed := true }
    throw (.cohortReleaseError
      "Parallel inference or loading has not unwound; cohort reservation retained")

/-- The runtime checks while the loading future is polled. -/
def pollLoading : ℕ → EStateM Exc (Driver W H) Unit
  | 0 => pure ()
  | polls + 1 => do
    check rt
    pollLoading polls

/-- What a failed load is raised as. -/
def loadingError : Exc → Exc
  | .memoryPressureYield m => .memoryPressureYield m
  | .cohortCancelled m => .cohortCancelled m
  | .cohortReleaseError m => .cohortReleaseError m
  | .workerAllocationFailure p w q => .workerAllocationFailure p w q
  | e => if e.isException then
      .cohortLoadError "Selected GPU model or runtime could not load" else e

/-- A new cohort is made and loaded, if there is none; then dispatch is open again. -/
def loadCohort : EStateM Exc (Driver W H) Unit := do
  let s ← get
  if s.cohort.isSome then
    pure ()
  else
    let candidate ← onWorld rt.cohortFactory
    modify fun s => { s with cohort := some candidate }
    if candidate.selectors ≠ s.coordinator.workers then
      throw (.valueError "Cohort devices changed from the selected worker list")
    else if s.identity.any (· ≠ candidate.identity) then
      throw (.valueError "Device or model identity changed during this file")
    else
      modify fun s => { s with identity := some candidate.identity, loading := true }
      let polls ← onWorld rt.loadingPolls
      pollLoading rt polls
      tryCatch (onWorld rt.loadingResult) fun e => throw (loadingError e)
      modify fun s => { s with
        loading := false
        loadFailures := (s.coordinator.workers.map fun w => (⟨w, 0⟩ : Sigma fun _ => ℕ)).toAList
        generation := s.generation + 1 }
      onSelf (Coordinator.pauseDispatch (.bool false))
      let s ← get
      onWorld (rt.onEvent (.loaded s.coordinator.workers s.generation))

/-- The error that a harvest with errors raises. -/
def harvestError (errors : List Exc) : Option Exc :=
  (terminalErrors errors ++ allocationErrors errors ++ errors).head?

/-- The success of a commit counts for the worker that did it, in the same generation. -/
def creditOwner (owner : String) (completedGeneration : ℕ) : EStateM Exc (Driver W H) Unit := do
  let s ← get
  if completedGeneration = s.generation then
    match s.adaptive.lookup owner with
    | none => throw .keyError
    | some adaptive =>
      modify fun s => { s with
        adaptive := s.adaptive.insert owner (adaptive.recordSuccess true) }
  else
    pure ()

/-- One commit is accounted for. -/
def committed (window : ChunkWindow) : EStateM Exc (Driver W H) Unit := do
  let s ← get
  match s.stagedOwners.lookup window.coreStart with
  | none => throw .keyError
  | some (owner, completedGeneration) =>
    modify fun s => { s with stagedOwners := s.stagedOwners.erase window.coreStart }
    creditOwner owner completedGeneration
    onWorld (rt.onEvent (.committed owner window s.coordinator.state))

/-- One commit at a time, until nothing is ready at the cursor. -/
def commitAllReady : ℕ → EStateM Exc (Driver W H) Unit
  | 0 => pure ()
  | rounds + 1 => do
    let s ← get
    let windows ← onScheduler
      (Scheduler.commitReady rt.storage (runtimeCheck rt s.cohort.isSome) (.int 1))
    match windows with
    | [] => pure ()
    | window :: _ =>
      committed rt window
      commitAllReady rounds

/-- The working duration of a worker, scaled by its share of the best rate. -/
def workerSeconds (s : Driver W H) (adaptive : AdaptiveChunkState) (worker : String) : ℚ :=
  match s.rates.lookup worker with
  | none => adaptive.currentSeconds
  | some rate =>
    let best := (s.rates.entries.map fun e => e.2).foldl max rate
    max adaptive.minimumSeconds ⌊adaptive.currentSeconds * rate / best⌋

/-- A claimed window is extracted and submitted to the pool. -/
def launch (a : ChunkAssignment) : EStateM Exc (Driver W H) Unit := do
  let started ← onWorld (modifyGet rt.monotonic)
  let s ← get
  tryCatch (do
      onWorld (rt.onEvent (.started a.worker a.window))
      let audio ← onWorld (rt.extractChunk a.window)
      check rt
      let now ← onWorld (modifyGet rt.monotonic)
      if started + rt.chunkTimeout ≤ now then
        throw (.timeoutError "Chunk deadline expired during extraction")
      else
        onWorld (rt.submit s.cohort a audio (started + rt.chunkTimeout))
        modify fun s => { s with active := s.active ++ [⟨a, started⟩] })
    fun e => do
      onSelf (Coordinator.yielded (some a))
      throw e

/-- A free worker gets a window, if there is one for it. -/
def dispatchTo (worker : String) : EStateM Exc (Driver W H) Unit := do
  check rt
  let s ← get
  match s.adaptive.lookup worker with
  | none => throw .keyError
  | some adaptive =>
    let claimed ← onSelf (Coordinator.claim worker (s.workerSeconds adaptive worker))
    match claimed with
    | none => pure ()
    | some a => launch rt a

/-- The free workers, in their order. -/
def dispatch (busy : List String) : List String → EStateM Exc (Driver W H) Unit
  | [] => pure ()
  | worker :: workers =>
    if worker ∈ busy then
      dispatch busy workers
    else do
      dispatchTo rt worker
      dispatch busy workers

/-- How the body of a round ends, short of the last check. -/
inductive Progress
  | complete
  | committed
  | dispatched
  deriving DecidableEq

/-- A round up to its last check: load, harvest, commit, dispatch. The errors of the
    harvest are kept for the handler. -/
def schedule : EStateM Exc (Driver W H) Progress := do
  check rt
  let s ← get
  if s.coordinator.state.complete then
    pure .complete
  else
    loadCohort rt
    let s ← get
    let done ← onWorld (rt.waitDone (s.active.map ActiveChunk.assignment))
    let errors ← harvest rt done
    modify fun s => { s with errors := errors }
    match harvestError errors with
    | some e => throw e
    | none =>
      let s ← get
      commitAllReady rt (s.coordinator.ready.entries.length + 1)
      let s ← get
      if s.coordinator.state.complete then
        pure .committed
      else
        dispatch rt (s.active.map fun x => x.assignment.worker) s.coordinator.workers
        pure .dispatched

/-- The last check of a round. -/
def requireProgress : EStateM Exc (Driver W H) Unit := do
  let s ← get
  if s.active.isEmpty ∧ ¬ s.coordinator.state.complete then
    check rt
    throw (.runtimeError "Parallel scheduler cannot make forward progress")
  else
    pure ()

/-- `items[key] = value`: replaced in its place, or added at the end. -/
def setItem {K V : Type} [DecidableEq K] (items : List (K × V)) (key : K) (value : V) :
    List (K × V) :=
  if items.any (fun p => p.1 = key) then
    items.map fun p => if p.1 = key then (key, value) else p
  else
    items ++ [(key, value)]

/-- The last allocation failure of each worker. -/
def allocationsByWorker (failures : List Exc) :
    List (Option String × AllocationPhase × Option ℚ) :=
  failures.foldl (fun items e =>
    match e with
    | .workerAllocationFailure phase worker attempted => setItem items worker (phase, attempted)
    | _ => items) []

/-- An allocation failure is counted against its worker; whether that exhausts the file. -/
def recordAllocation : Option String × AllocationPhase × Option ℚ → EStateM Exc (Driver W H) Bool
  | (none, _, _) =>
    throw (.runtimeError "Allocation failure lacks a selected worker identity")
  | (some worker, phase, attempted) => do
    let s ← get
    match s.adaptive.lookup worker with
    | none => throw (.runtimeError "Allocation failure lacks a selected worker identity")
    | some adaptive =>
      match phase with
      | .load =>
        let failures := (s.loadFailures.lookup worker).getD 0 + 1
        modify fun s => { s with loadFailures := s.loadFailures.insert worker failures }
        pure (2 ≤ failures)
      | .transcribe =>
        let adaptive ← ofExcept (adaptive.recordAllocationFailure attempted)
        modify fun s => { s with adaptive := s.adaptive.insert worker adaptive }
        pure adaptive.exhausted

/-- The allocation failures of a round, one after the other. -/
def recordAllocations :
    List (Option String × AllocationPhase × Option ℚ) → EStateM Exc (Driver W H) Bool
  | [] => pure false
  | allocation :: rest => do
    let exhausted ← recordAllocation allocation
    let more ← recordAllocations rest
    pure (exhausted || more)

/-- A recovery of external pressure separates the failures before it from those after. -/
def forgiveAllocations (s : Driver W H) (workers : List String) : Driver W H :=
  { s with
    adaptive := workers.foldl (fun adaptive worker =>
      match adaptive.lookup worker with
      | some a => adaptive.insert worker a.recordExternalPressureRecovery
      | none => adaptive) s.adaptive
    loadFailures := workers.foldl (fun counts worker => counts.insert worker 0) s.loadFailures }

/-- Every worker shrinks after a pressure yield. -/
def shrinkAll (s : Driver W H) : Driver W H :=
  { s with adaptive := (s.adaptive.entries.map fun e =>
      (⟨e.1, e.2.recordPressureYield⟩ : Sigma fun _ => AdaptiveChunkState)).toAList }

/-- Why the cohort is being drained. -/
def drainReason (error : Exc) : EStateM Exc (Driver W H) String := do
  let s ← get
  if error.isMemoryPressureYield then
    pure "pressure"
  else if s.cohort.isSome then
    let reason ← onWorld rt.cancellationReason
    pure (if reason = some "pressure" then "pressure" else "stop")
  else
    pure "stop"

/-- The allocation failures are counted, or a pressure yield shrinks every worker; whether
    that exhausts the file. -/
def recordFailures (allocations : List (Option String × AllocationPhase × Option ℚ)) :
    EStateM Exc (Driver W H) Bool :=
  if allocations = [] then do
    modify shrinkAll
    pure false
  else
    recordAllocations allocations

/-- The failures are recorded, and the recovery is waited for. -/
def awaitRecovery (control : Exc) (allocations : List (Option String × AllocationPhase × Option ℚ)) :
    EStateM Exc (Driver W H) Unit := do
  let exhausted ← recordFailures allocations
  let s ← get
  onWorld (rt.onEvent (.yielded control s.coordinator.state))
  let recoveryWindow ← onWorld (rt.waitForRecovery control)
  onWorld rt.checkCancelled
  if allocations ≠ [] ∧ externalPressureRecovered recoveryWindow then
    modify fun s => s.forgiveAllocations (allocations.filterMap Prod.fst)
  else if exhausted then
    throw control
  else
    pure ()

/-- The error that the recovery is about: the first allocation failure, if there is one. -/
def controlError (error : Exc) :
    List (Option String × AllocationPhase × Option ℚ) → Exc
  | (worker, phase, attempted) :: _ => .workerAllocationFailure phase worker attempted
  | [] => error

/-- After the drain: a terminal failure ends the file; otherwise the cohort is dropped, so
    that the next round loads another one. -/
def resume (error : Exc) (reason : String) (failures : List Exc) :
    EStateM Exc (Driver W H) Unit :=
  match terminalErrors failures with
  | terminal :: _ => throw terminal
  | [] => do
    onWorld rt.checkCancelled
    if allocationsByWorker failures = [] ∧ reason ≠ "pressure" then
      throw error
    else
      modify fun s => { s with cohort := none }
      awaitRecovery rt (controlError error (allocationsByWorker failures))
        (allocationsByWorker failures)

/-- The handler of a round: dispatch is paused, and everything is drained. -/
def recover (error : Exc) : EStateM Exc (Driver W H) Unit := do
  let reason ← drainReason rt error
  onSelf (Coordinator.pauseDispatch (.bool true))
  let s ← get
  let drained ← drain rt reason true
  resume rt error reason (s.errors ++ [error] ++ drained)

/-- Whether the handler of a round catches it. -/
def isControl : Exc → Bool
  | .memoryPressureYield _ | .cohortCancelled _ | .workerAllocationFailure .. => true
  | _ => false

/-- One round; it tells whether the loop is left. -/
def round : EStateM Exc (Driver W H) Bool := do
  modify fun s => { s with errors := [] }
  tryCatch (do
      let progress ← schedule rt
      match progress with
      | .complete => pure true
      | .committed => pure false
      | .dispatched =>
        requireProgress rt
        pure false)
    fun e => do
      if isControl e then
        recover rt e
        pure false
      else
        throw e

/-- The rounds, at most `fuel` of them; it tells whether the loop was left. -/
def rounds : ℕ → EStateM Exc (Driver W H) Bool
  | 0 => pure false
  | fuel + 1 => do
    let left ← round rt
    if left then pure true else rounds fuel

/-- The variables at the start. The budgets name the workers. -/
def new (mediaDuration : ℚ) (adaptiveByWorker : AList fun _ : String => AdaptiveChunkState)
    (world : W) : Except Exc (Driver W H) :=
  if ¬ (1 ≤ adaptiveByWorker.entries.length ∧ adaptiveByWorker.entries.length ≤ 32) then
    .error (.valueError "Parallel transcription requires bounded worker budgets")
  else do
    let workers := adaptiveByWorker.keys
    let coordinator ← Coordinator.new mediaDuration workers defaultOverlapSeconds
    .ok {
      scheduler := ⟨coordinator, world⟩
      active := []
      errors := []
      stagedOwners := ∅
      rates := ∅
      adaptive := adaptiveByWorker
      cohort := none
      identity := none
      generation := 0
      loading := false
      unconfirmed := false
      loadFailures := (workers.map fun w => (⟨w, 0⟩ : Sigma fun _ => ℕ)).toAList }

/-- The cohort is released and the assembly finalised, once the loop is left. -/
def finish : EStateM Exc (Driver W H) Unit := do
  onCohort rt.releaseCohort
  modify fun s => { s with cohort := none }
  let s ← get
  onWorld (rt.finalizeAssembly s.coordinator.state)
  onWorld rt.checkCancelled

/-- `finally`: what is in flight is drained, unless something has not unwound, and the
    coordinator is closed. -/
def cleanUp : EStateM Exc (Driver W H) Unit := do
  let s ← get
  tryCatch
    (if s.unconfirmed then pure () else drain rt "stop" true >>= fun _ => pure ())
    fun e => do
      onScheduler (Scheduler.close rt.storage)
      throw e
  onScheduler (Scheduler.close rt.storage)

/-- An extractor that has not exited still owns memory: nothing is released. -/
def extractionNotExited : EStateM Exc (Driver W H) Unit := do
  modify fun s => { s with unconfirmed := true }
  let _ ← drain rt "stop" false
  throw (.cohortReleaseError "Audio extraction has not exited; cohort reservation retained")

/-- `run_parallel_segmented_transcription` from its initial variables; with enough fuel it
    tells that the assembly was finalised. -/
def runParallelSegmentedTranscription (fuel : ℕ) : EStateM Exc (Driver W H) Bool := do
  let body : EStateM Exc (Driver W H) Bool := do
    let left ← rounds rt fuel
    if left then finish rt else pure ()
    pure left
  let left ← tryCatch (tryCatch body fun e => do
      if e = .mediaProcessReleaseUnconfirmed then
        extractionNotExited rt
        pure false
      else
        throw e)
    fun e => do
      cleanUp rt
      throw e
  if left then cleanUp rt else pure ()
  pure left

end Driver

end Subgen

import Subgen.Queue.Uploads
import Subgen.Worker.Events

/-!
# The loop of a worker

`transcription_worker`, step by step, next to the threads that put tasks. A worker gets a task, runs
it in the `try` block, reports what was raised there in the `except` block, by an event and by a
message that formats the exception, and goes through the `finally` block also if the report raised; an exception behind that ends the thread.

What the calls of the `try` block do is given from outside (`TaskRun`): each one returns or raises
any exception. A failed refresh of metadata is caught there.
-/

namespace Subgen

open Procedure

/-- The text of a task type. -/
def TaskType.name : TaskType → Text
  | detectLanguage => text "detect_language"
  | asr => text "asr"
  | transcribe => text "transcribe"

/-- What the worker looks at in a task, besides its path and type. -/
structure WorkerItems where
  videoFile : Option Text
  sourceIdentity : Option (List ℤ)
  inventoryGeneration : Option ℤ
  audioContent : Bool
  deriving DecidableEq

/-- A task of the queue, as the worker sees it. -/
abbrev WorkerTask := QueueTask WorkerItems

/-- What the events of a task say of it. -/
def QueueTask.event (task : WorkerTask) : EventTask := ⟨task.path, task.type.name, task.rest.videoFile⟩

/-! ## The blocks -/

/-- What the calls for one task do: whether the inventory is scanned and its generation current, and
    how the detection or transcription ends. A detection may return a task. -/
structure TaskRun where
  scanned : Except TaskError Unit
  current : Except TaskError Bool
  call : Except TaskError (Option WorkerTask)

/-- The counter of failures, and `next_task`. -/
structure TryState where
  mediaFailures : ℕ
  nextTask : Option WorkerTask

section Blocks

variable (hexdigest : List ℕ → Text)

/-- `emit_subgen_event` of a task, at its start and its end. -/
def emitWorkerEvent (event : Text) (task : WorkerTask) : EStateM TaskError TryState Text :=
  zoom TryState.mediaFailures (fun s n => { s with mediaFailures := n })
    (emitSubgenEvent hexdigest (.ok ()) event task.event
      ⟨none, none, task.rest.sourceIdentity, none, none⟩)

/-- The `try` block, behind the `get`. -/
def runTask (run : TaskRun) (task : WorkerTask) : EStateM TaskError TryState Unit := do
  ofExcept run.scanned
  let current ← if task.rest.inventoryGeneration.isSome then ofExcept run.current else pure true
  if current then
    let _ ← emitWorkerEvent hexdigest (text "worker_start") task
    let nextTask ← ofExcept run.call
    if task.type = .detectLanguage ∧ task.rest.audioContent = false then
      modify fun s => { s with nextTask := nextTask }
    let _ ← emitWorkerEvent hexdigest (text "worker_finish") task

/-- Whether the exception is one of `model_runtime_errors`. -/
def ErrorClass.isModelRuntimeError : ErrorClass → Bool
  | modelLoadProfileUnhealthy | modelReleaseError | modelRuntimeCancelled | memoryPressureYield => true
  | _ => false

/-- The failure class of an error. -/
def failureClassOf (error : TaskError) : Text :=
  if error.cls = .modelInferenceAllocationFailure then text "resource_exhaustion"
  else text "inference_error"

/-- The event of a failure. -/
def emitFailure (receipt : Except TaskError Unit) (task : WorkerTask) (error : TaskError) :
    EStateM TaskError ℕ Text :=
  if error.cls = .mediaValidationStale then
    emitSubgenEvent hexdigest receipt (text "media_validation_stale") task.event
      ⟨none, none, task.rest.sourceIdentity, none, none⟩
  else if error.cls.isModelRuntimeError then emitModelRuntimeError hexdigest task.event error
  else
    emitSubgenEvent hexdigest receipt (text "worker_error") task.event
      ⟨some error.str, some (failureClassOf error), task.rest.sourceIdentity, none, none⟩

/-- The message of a failure that is logged for its readers. The filter of the handlers formats it, with
    nothing around that catches what `str(e)` raises; what comes behind the filter is caught. -/
def failureMessage (task : WorkerTask) (error : TaskError) : Except TaskError Text :=
  if error.cls = .mediaValidationStale then
    .ok (text "Media generation changed after queue admission: " ++ task.path)
  else
    match error.str with
    | none => .error ⟨.exception, none⟩
    | some message =>
      .ok (text (if error.cls.isModelRuntimeError then "Model runtime unavailable: "
        else "Error processing task: ") ++ message)

/-- The `except Exception` block, with the two lines that it logs. -/
def reportError (receipt : Except TaskError Unit) (task : WorkerTask) (error : TaskError) :
    EStateM TaskError ℕ (List Text) := do
  let event ← emitFailure hexdigest receipt task error
  let message ← ofExcept (failureMessage task error)
  return [event, message]

end Blocks

/-! ## The steps -/

/-- The settings that the loop looks at. -/
structure WorkerSettings where
  hexdigest : List ℕ → Text
  clearVramOnComplete : Bool

/-- What the threads share. `marked` are the numbers of the tasks that `mark_done` was called with,
    newest first; `cleanups` counts how often a cleanup of the model was scheduled. -/
structure Workers where
  queue : DeduplicatedQueue WorkerItems
  results : TaskResults
  mediaFailures : ℕ
  activeDirectTasks : ℕ
  cleanups : ℕ
  marked : List ℕ

/-- What a worker knows in its `finally` block, and whether an exception will leave the loop. -/
structure Leaving where
  entry : QueueEntry WorkerItems
  nextTask : Option WorkerTask
  dying : Bool

/-- Where a thread stands. -/
inductive WorkerPoint
  -- Threads that put tasks.
  | outside
  | enqueueing (path : Text)
  -- Workers: at the top of the loop, in `get`, in the `try` block and in the `except` block.
  | polling
  | taking (entry : QueueEntry WorkerItems)
  | running (entry : QueueEntry WorkerItems)
  | failed (entry : QueueEntry WorkerItems) (error : TaskError) (nextTask : Option WorkerTask)
  -- The `finally` block, in the order of its calls.
  | finishing (f : Leaving)
  | marking (f : Leaving)
  | queueing (f : Leaving)
  | adding (f : Leaving) (path : Text)
  | cleaning (f : Leaving)
  | deleting (f : Leaving)
  | pausing (f : Leaving)
  | dead

/-- What comes in from outside. -/
inductive WorkerChoice
  -- A task that is put, or media that are refused, with what recording the receipt does.
  | put (now : ℚ) (item : WorkerTask)
  | refuse (receipt : Except TaskError Unit)
  | direct (activeDirectTasks : ℕ)
  -- How a task is run, and what recording the receipt of a failure does.
  | run (run : TaskRun)
  | report (receipt : Except TaskError Unit)
  | clock (now : ℚ)
  | proceed

section Steps

variable (S : WorkerSettings) (u : Workers)

/-- `delete_model`: a cleanup is scheduled if nothing is to do. -/
def deleteModel : Workers :=
  if S.clearVramOnComplete && u.queue.isIdle && u.activeDirectTasks = 0 then
    { u with cleanups := u.cleanups + 1 }
  else u

/-- The put of a detected task, behind `mark_done`. -/
def queueNext (f : Leaving) (item : WorkerTask) (now : ℚ) : Workers × WorkerPoint :=
  match putStep u.queue none now item with
  | (queue, .adding path _) => ({ u with queue := queue }, .adding f path)
  | (queue, _) =>
    ({ u with queue := queue }, if u.queue.isActive item.path then .cleaning f else .dead)

/-- The next step of a thread, if it does not have to wait for the lock of the queue. -/
def workerStep (ch : WorkerChoice) (u : Workers) : WorkerPoint → Option (Workers × WorkerPoint)
  | .outside =>
    match ch with
    | .put now item =>
      if u.queue.lock then none
      else
        match putStep u.queue none now item with
        | (queue, .adding path _) => some ({ u with queue := queue }, .enqueueing path)
        | (queue, _) => some ({ u with queue := queue }, .outside)
    | .refuse receipt =>
      some ({ u with mediaFailures := after (recordMediaFailure receipt) u.mediaFailures }, .outside)
    | .direct activeDirectTasks => some ({ u with activeDirectTasks := activeDirectTasks }, .outside)
    | _ => none
  | .enqueueing path => some ({ u with queue := (addStep u.queue path none).1 }, .outside)
  | .polling =>
    match getStep u.queue with
    | (queue, .moving entry) => some ({ u with queue := queue }, .taking entry)
    | (queue, _) => some ({ u with queue := queue }, .polling)
  | .taking entry =>
    if u.queue.lock then none
    else some ({ u with queue := (moveStep u.queue entry).1 }, .running entry)
  | .running entry =>
    match ch with
    | .run run =>
      match runTask S.hexdigest run entry.item ⟨u.mediaFailures, none⟩ with
      | .ok _ s => some ({ u with mediaFailures := s.mediaFailures }, .finishing ⟨entry, s.nextTask, false⟩)
      | .error error s =>
        some ({ u with mediaFailures := s.mediaFailures }, .failed entry error s.nextTask)
    | _ => none
  | .failed entry error nextTask =>
    match ch with
    | .report receipt =>
      -- `except queue.Empty` comes first.
      if error.cls = .empty then some (u, .finishing ⟨entry, nextTask, false⟩)
      else
        match reportError S.hexdigest receipt entry.item error u.mediaFailures with
        | .ok _ n => some ({ u with mediaFailures := n }, .finishing ⟨entry, nextTask, false⟩)
        | .error _ n => some ({ u with mediaFailures := n }, .finishing ⟨entry, nextTask, true⟩)
    | _ => none
  | .finishing f =>
    -- `task_done` raises if there are more calls than puts.
    if u.queue.unfinishedTasks = 0 then some (u, .dead)
    else
      some ({ u with queue := { u.queue with unfinishedTasks := u.queue.unfinishedTasks - 1 } },
        .marking f)
  | .marking f =>
    if u.queue.lock then none
    else
      some ({ u with
          queue := (markDoneStep u.queue f.entry).1
          marked := f.entry.ticket :: u.marked }, .queueing f)
  | .queueing f =>
    match f.nextTask with
    | none => some (u, .cleaning f)
    | some item =>
      match ch with
      | .clock now => if u.queue.lock then none else some (queueNext u f item now)
      | _ => none
  | .adding f path => some ({ u with queue := (addStep u.queue path none).1 }, .cleaning f)
  | .cleaning f => some ({ u with results := u.results.cleanup f.entry.path }, .deleting f)
  | .deleting f => if u.queue.lock then none else some (deleteModel S u, .pausing f)
  | .pausing f => if u.queue.lock then none else some (u, if f.dying then .dead else .polling)
  | .dead => none

end Steps

/-! ## Steps that a worker survives -/

/-- The failure of a task can be reported. -/
def reportable (u : Workers) (entry : QueueEntry WorkerItems) (error : TaskError)
    (receipt : Except TaskError Unit) : Bool :=
  entry.item.event.encodable &&
    if error.cls = .mediaValidationStale then identityValid entry.item.rest.sourceIdentity
    else
      error.str.isSome &&
        (error.cls.isModelRuntimeError ||
          identityValid entry.item.rest.sourceIdentity && u.mediaFailures < maxRuntimeGeneration &&
            receipt.isOk)

/-- The clock ticks where a task is put, and what is reported can be. -/
def WorkerChoice.survived (ch : WorkerChoice) (u : Workers) : WorkerPoint → Bool
  | .outside =>
    match ch with
    | .put now item => (QueueChoice.put now item).ticks u.queue
    | _ => true
  | .failed entry error _ =>
    match ch with
    | .report receipt => error.cls = .empty || reportable u entry error receipt
    | _ => true
  | .queueing f =>
    match f.nextTask, ch with
    | some item, .clock now => (QueueChoice.put now item).ticks u.queue
    | _, _ => true
  | _ => true

/-- A step that a worker survives. -/
def survivedStep (S : WorkerSettings) (ch : WorkerChoice) (u : Workers) (l : WorkerPoint) :
    Option (Workers × WorkerPoint) :=
  if ch.survived u l then workerStep S ch u l else none

end Subgen

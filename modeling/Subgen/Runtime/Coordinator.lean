import Subgen.Pressure.Controller

/-!
# The coordinated model runtime

What the threads of the runtime share, and its critical sections under the condition of the
runtime. An inference needs a permit and a generation that is still admitted; a release
closes the admission, takes every permit and unloads the model, once for all the callers
that come in the meantime (`ReleaseTransition`).

What comes from outside a section is its input (`Choice`): what the pressure controller
says, whether the receipt of the change could be written, what the loader, the inference and
the unloading came to.

For what is said about runs the state has more than the source: models and transitions are
numbered, and `history` tells what happened to them, the newest first.
-/

namespace Subgen

/-- The number of permits, and whether a receipt that cannot be written closes the admission. -/
structure RuntimeConfig where
  permitCount : ℕ
  gateEnabled : Bool
  permitCount_pos : 1 ≤ permitCount

/-- `_ReleaseTransition`. Of the last two fields the source has nothing: whether its owner left
    no model behind, and the number of loads as it was completed. -/
structure ReleaseTransition where
  generation : ℕ
  complete : Bool
  didUnload : Bool
  failed : Bool
  emptied : Bool
  completedAt : ℕ
  deriving DecidableEq

/-- What happened to models, transitions and tickets. -/
inductive RuntimeEvent
  | loaded (model : ℕ)
  | unloaded (model : ℕ) (source : Option ℤ) (transition : ℕ)
  | completed (transition : ℕ)
  | ticket (generation : ℤ)
  | bound (generation : ℤ) (transition : ℕ)
  deriving DecidableEq

/-- The state that is shared. A model is the number of its load, a transition its place in
    `transitions`, of which the last one is `model_release_transition`. -/
structure ModelRuntime where
  model : Option ℕ
  admissionClosed : Bool
  releaseGeneration : ℕ
  transitions : List ReleaseTransition
  activeInferences : ℕ
  permits : ℕ
  loadLock : Bool
  loadGeneration : ℕ
  unloadGeneration : ℕ
  loadAllocationFailures : ℕ
  profileUnhealthy : Bool
  selectionLock : Bool
  initialized : Bool
  requirement : Bool
  history : List RuntimeEvent

/-- What the controller shows, if there is one. -/
structure ControllerView where
  state : ControllerState
  admissionOpen : Bool

/-- The call that a thread begins. -/
inductive RuntimeCall
  | transcribeWithModel
  | startModel
  | releaseModel (idleCleanup : Bool)
  | releaseAfterInferenceFailure (generation : ℤ)
  | closeModelAdmission
  | reopenModelAdmission
  | checkSegmentCommitAllowed
  | recordReceipt
  deriving DecidableEq

/-- How the loader ends. -/
inductive LoaderResult
  | loaded
  | allocationFailed
  | failed
  deriving DecidableEq

/-- What an inference does next. -/
inductive InferenceResult
  | returned
  | pressure
  | closes
  | allocationFailed
  | failed
  deriving DecidableEq

/-- What is left open in one step. Each step takes of it what it needs. -/
structure Choice where
  call : RuntimeCall := .recordReceipt
  controller : Option ControllerView := some ⟨.normal, true⟩
  receiptWritten : Bool := true
  cancelled : Bool := false
  acquired : Bool := true
  admitted : Bool := true
  identified : Bool := true
  recovered : Bool := true
  recoverable : Bool := true
  loader : LoaderResult := .loaded
  cudaOutOfMemory : Bool := false
  inference : InferenceResult := .returned
  classified : Bool := false
  unloaded : Bool := true
  cachesReleased : Bool := true
  systemIdle : Bool := true
  pressure : Bool := false
  requirement : Bool := true

namespace ModelRuntime

variable (config : RuntimeConfig) (ch : Choice) (s : ModelRuntime)

/-- The runtime as it starts: closed, with nothing loaded. -/
def new : ModelRuntime where
  model := none
  admissionClosed := true
  releaseGeneration := 0
  transitions := []
  activeInferences := 0
  permits := config.permitCount
  loadLock := false
  loadGeneration := 0
  unloadGeneration := 0
  loadAllocationFailures := 0
  profileUnhealthy := false
  selectionLock := false
  initialized := false
  requirement := false
  history := []

/-- `model_release_transition`. -/
def last : Option ReleaseTransition := s.transitions.getLast?

/-- `_transition_active(model_release_transition)`. -/
def transitionActive : Bool := s.last.any fun t => !t.complete

/-- The last transition is over, and it failed. -/
def releaseFailed : Bool := s.last.any fun t => t.complete && t.failed

/-- `_record_runtime_receipt_locked`. If the receipt is not written it raises, and closes the
    admission as it is. -/
def recordReceipt : ModelRuntime :=
  if ch.receiptWritten then s else { s with admissionClosed := s.admissionClosed || config.gateEnabled }

/-- The admission is closed, and a generation more is to be released. -/
def closed : ModelRuntime :=
  if s.admissionClosed then s
  else { s with admissionClosed := true, releaseGeneration := s.releaseGeneration + 1 }

/-- `close_model_admission`. It raises if the receipt is not written. -/
def closeModelAdmission : ModelRuntime := s.closed.recordReceipt config ch

/-- What a call of `reopen_model_admission` comes to. -/
inductive Reopening
  | refused
  | reopened
  | raised
  deriving DecidableEq

/-- The controller is normal and open, or there is none. -/
def controllerOpen : Bool :=
  match ch.controller with
  | none => true
  | some view => view.state = .normal && view.admissionOpen

/-- `reopen_model_admission`. -/
def reopenModelAdmission : ModelRuntime × Reopening :=
  if s.profileUnhealthy || !controllerOpen ch || s.transitionActive then (s, .refused)
  else ({ s with admissionClosed := false }.recordReceipt config ch,
    if ch.receiptWritten then .reopened else .raised)

/-- What one look of `wait_for_model_admission` comes to. -/
inductive AdmissionWait
  | admitted
  | raised
  | recover
  | wait
  deriving DecidableEq

/-- The section of `wait_for_model_admission`. -/
def waitForModelAdmission : ModelRuntime × AdmissionWait :=
  if s.releaseFailed then (s, .raised)
  else if !s.admissionClosed && !s.transitionActive then (s, .admitted)
  else if s.transitionActive then (s, .wait)
  else
    match ch.controller with
    | none => (s, .wait)
    | some view =>
      if view.state = .yielding then (s, .wait)
      else if view.state ≠ .normal then (s, .recover)
      else if view.admissionOpen then
        ({ s with admissionClosed := false }.recordReceipt config ch,
          if ch.receiptWritten then .admitted else .raised)
      else (s, .wait)

/-- The section of `wait_for_model_recovery`: whether it goes on to the controller. -/
def waitForModelRecovery : AdmissionWait :=
  if s.releaseFailed then .raised
  else if s.transitionActive then .wait
  else
    match ch.controller with
    | none => .recover
    | some view =>
      if view.state = .yielding || (view.state = .normal && !view.admissionOpen) then .wait
      else .recover

/-- The generation that `_acquire_inference_slot` reads, if it is admitted. -/
def admittedGeneration : Option ℕ :=
  if s.admissionClosed || s.transitionActive then none else some s.releaseGeneration

/-- The second look of `_acquire_inference_slot`. -/
def slotValid (generation : ℕ) : Bool :=
  !ch.cancelled && !s.admissionClosed && !s.transitionActive && s.releaseGeneration = generation

/-- `_unload_resident_model_under_lock`, and the generation behind it. -/
def unload (event : ℕ → List RuntimeEvent) : ModelRuntime :=
  match s.model with
  | none => s
  | some m =>
    { s with
      model := none
      unloadGeneration := s.unloadGeneration + 1
      history := event m ++ s.history }

/-- The section of `_load_model_once` behind the loader: the model is there, unless its receipt
    cannot be written. Then it is unloaded again, if it can be. -/
def publishModel : ModelRuntime :=
  let s := { s with
    model := some (s.loadGeneration + 1)
    loadGeneration := s.loadGeneration + 1
    history := .loaded (s.loadGeneration + 1) :: s.history }
  if ch.receiptWritten then { s with loadAllocationFailures := 0 }
  else if ch.unloaded then (s.recordReceipt config ch).unload fun _ => []
  else s.recordReceipt config ch

/-- `_mark_model_profile_unhealthy`. -/
def markModelProfileUnhealthy : ModelRuntime :=
  { s with profileUnhealthy := true, admissionClosed := true }.recordReceipt config ch

/-- The generation of the ticket of `check_segment_commit_allowed`. -/
def commitGeneration : ℤ :=
  if s.admissionClosed then (s.releaseGeneration : ℤ) - 1 else s.releaseGeneration

/-- The last section of `initialize_model_runtime`, if no transition is active. The three values
    were read as the selection began. -/
def publishSelection (generation count : ℕ) (active : Bool) : ModelRuntime :=
  let released := s.releaseGeneration ≠ generation || s.transitions.length ≠ count || active
  { s with
    initialized := true
    requirement := ch.requirement
    admissionClosed := !(ch.admitted && controllerOpen ch && !released)
    selectionLock := false }.recordReceipt config ch

end ModelRuntime

/-! ## Releases -/

/-- The caller of a load or an inference: `transcribe_with_model`, or `start_model`. -/
inductive SlotKind
  | transcribe
  | start
  deriving DecidableEq

/-- What the caller of `_release_model_once` goes on with: it is left to whoever called it, or it
    is about a load that failed for the `attempts`-th time. -/
inductive ReleaseCaller
  | outside
  | load (kind : SlotKind) (attempts : ℕ)
  deriving DecidableEq

/-- A call of `_release_model_once`, with the model that was there as it began. -/
structure ReleaseCall where
  idleCleanup : Bool
  source : Option ℤ
  resident : Option ℕ
  caller : ReleaseCaller
  deriving DecidableEq

/-- What the owner of a transition came to. -/
inductive ReleaseResult
  | done (didUnload : Bool)
  | aborted
  | failed (didUnload : Bool)
  deriving DecidableEq

namespace ReleaseResult

/-- The release unloaded a model. -/
def didUnload : ReleaseResult → Bool
  | done didUnload => didUnload
  | aborted => false
  | failed didUnload => didUnload

/-- The release raised. -/
def isFailed : ReleaseResult → Bool
  | failed _ => true
  | _ => false

end ReleaseResult

namespace ModelRuntime

variable (config : RuntimeConfig) (ch : Choice) (s : ModelRuntime)

/-- How a call of `_release_model_once` takes part: in a transition of another one, in its own one,
    or it raises as it opens that. -/
inductive ReleaseRole
  | joiner (transition : ℕ)
  | owner (transition : ℕ)
  | raised
  deriving DecidableEq

/-- The last transition serves a call: it is active, it is newer than the ticket, or the
    admission has been closed since. -/
def servedBy (source : Option ℤ) (t : ReleaseTransition) : Bool :=
  !t.complete ||
    match source with
    | some generation => generation < t.generation
    | none => !t.failed && t.generation = s.releaseGeneration && s.admissionClosed

/-- The generation of a new transition: it is advanced if the admission was open, or if the last
    transition has it already. -/
def nextGeneration : ℕ :=
  if !s.admissionClosed || s.last.any fun t => t.complete && s.releaseGeneration ≤ t.generation then
    s.releaseGeneration + 1
  else
    s.releaseGeneration

/-- A new transition, behind a closed admission. -/
def openTransition : ModelRuntime :=
  { s with
    admissionClosed := true
    releaseGeneration := s.nextGeneration
    transitions := s.transitions ++ [⟨s.nextGeneration, false, false, false, false, 0⟩] }

/-- A call with a ticket is bound to a transition. -/
def bind (source : Option ℤ) (transition : ℕ) : ModelRuntime :=
  match source with
  | none => s
  | some generation => { s with history := .bound generation transition :: s.history }

/-- The first section of `_release_model_once`. -/
def decideRelease (source : Option ℤ) : ModelRuntime × ReleaseRole :=
  if s.last.any (s.servedBy source) then
    (s.bind source (s.transitions.length - 1), .joiner (s.transitions.length - 1))
  else
    ((s.openTransition.bind source s.transitions.length).recordReceipt config ch,
      if ch.receiptWritten then .owner s.transitions.length else .raised)

/-- One transition is updated. -/
def updateTransition (t : ℕ) (f : ReleaseTransition → ReleaseTransition) : ModelRuntime :=
  { s with transitions := s.transitions.modify t f }

/-- The section of `_release_model_once` that unloads the model. -/
def unloadForRelease (source : Option ℤ) (t : ℕ) : ModelRuntime × ReleaseResult :=
  if s.model.isSome && !ch.unloaded then (s, .failed false)
  else
    let emptied := (s.unload fun m => [.unloaded m source t]).updateTransition t ({ · with emptied := true })
    if !ch.receiptWritten then (emptied.recordReceipt config ch, .failed s.model.isSome)
    else if !ch.cachesReleased then (emptied, .failed s.model.isSome)
    else (emptied, .done s.model.isSome)

/-- An idle cleanup that finds work. The model stays, if there is one. -/
def abortRelease (t : ℕ) : ModelRuntime :=
  if s.model.isSome then s else s.updateTransition t ({ · with emptied := true })

/-- The last section of `_release_model_once`. It raises if there is no controller and the receipt
    is not written. -/
def completeRelease (t : ℕ) (result : ReleaseResult) : ModelRuntime :=
  let s := { s.updateTransition t (fun r => { r with
      complete := true
      didUnload := result.didUnload
      failed := result.isFailed
      completedAt := s.loadGeneration }) with
    history := .completed t :: s.history }
  if !result.isFailed && ch.controller.isNone then
    { s with admissionClosed := false }.recordReceipt config ch
  else
    s

/-- The last section raises. -/
def completionRaises (result : ReleaseResult) : Bool :=
  !result.isFailed && ch.controller.isNone && !ch.receiptWritten

end ModelRuntime

end Subgen

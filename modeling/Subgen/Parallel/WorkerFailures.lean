import Subgen.Parallel.Turns

/-!
# The phases of allocation failures

The driver counts an allocation failure by its phase and its worker. Both are given by the cohort, not by the
worker: `CohortModelRuntime.transcribe` binds a failure of an inference to the worker that was asked, and
raises one of another phase as a `RuntimeError`.

* `cohortTranscribe`, `infer`: an inference in the pool, with the handlers that it goes through;
* `OverCohort`: a driver whose futures are such inferences, and where nothing but a worker fails to allocate;
* `causes_of_overCohort`: there, a round that is not interrupted while it loads is only ever about failures of
  inferences.
-/

namespace Subgen

open Procedure

variable {W H : Type}

/-- Not a failure of a load. -/
def NotLoad (e : Exc) : Prop := ∀ worker attempted, e ≠ .workerAllocationFailure .load worker attempted

/-- The failure of a load. -/
def Exc.isLoadFailure : Exc → Bool
  | workerAllocationFailure .load _ _ => true
  | _ => false

/-- An exception of another kind is no failure of a load. -/
theorem notLoad {e : Exc} (h : e.isLoadFailure = false) : NotLoad e := by
  intro worker attempted he
  rw [he] at h
  cases h

/-- What is computed raises no failure of a load. -/
def Spared {α : Type} (x : Except Exc α) : Prop := ∀ e, x = .error e → NotLoad e

section Spared

variable {α β : Type}

/-- A check that passes raises nothing. -/
theorem spared_ok (a : α) : Spared (.ok a) := by
  intro e he
  cases he

/-- An exception that is no failure of a load is let through. -/
theorem spared_error {e : Exc} (h : e.isLoadFailure = false) : Spared (.error e : Except Exc α) :=
  fun _ he => Except.error.inj he ▸ notLoad h

/-- One check after the other. -/
theorem spared_bind {x : Except Exc α} {f : α → Except Exc β} (hx : Spared x) (hf : ∀ a, Spared (f a)) :
    Spared (x >>= f) := by
  intro e he
  rcases bind_eq_error.1 he with he | ⟨a, -, he⟩
  · exact hx e he
  · exact hf a e he

/-- Each of the two branches. -/
theorem spared_ite {p : Prop} [Decidable p] {x y : Except Exc α} (hx : Spared x) (hy : Spared y) :
    Spared (if p then x else y) := by
  split_ifs
  · exact hx
  · exact hy

/-! ## Segmentation -/

/-- What the check of a number raises is a `SegmentationError`. -/
theorem spared_positiveNumber (q : ℚ) (label : String) : Spared (positiveNumber q label) :=
  spared_ite (spared_error rfl) (spared_ok _)

/-- What a window raises is one, too. -/
theorem spared_window (ordinal : ℤ) (d a b a' b' : ℚ) : Spared (ChunkWindow.new ordinal d a b a' b') := by
  rw [ChunkWindow.new]
  split_ifs
  · exact spared_error rfl
  · exact spared_error rfl
  · exact spared_ok _
  · exact spared_error rfl

/-- So is what the planning of the next window raises. -/
theorem spared_planNextWindow (cursor duration seconds : ℚ) (ordinal : ℤ) (overlap : ℚ) :
    Spared (planNextWindow cursor duration seconds ordinal overlap) := by
  refine spared_bind (spared_positiveNumber _ _) fun duration => ?_
  refine spared_bind (spared_positiveNumber _ _) fun seconds => ?_
  refine spared_ite (spared_error rfl) (spared_ite (spared_error rfl) (spared_ite (spared_ok _) ?_))
  exact spared_ite (spared_error rfl) (spared_bind (spared_window _ _ _ _ _ _) fun window => spared_ok _)

/-- So is what the check of an interval raises. -/
theorem spared_validatedInterval (a b : ℚ) (label : String) (d : ℚ) : Spared (validatedInterval a b label d) :=
  spared_ite (spared_error rfl) (spared_ite (spared_error rfl) (spared_ok _))

/-- So it is for the words of a segment, one behind the other. -/
theorem spared_validateMonotonicWords (segmentIndex : ℕ) (d : ℚ) (wordIndex : ℕ) (previous : ℚ)
    (words : List Word) : Spared (validateMonotonicWords segmentIndex d wordIndex previous words) := by
  induction words generalizing wordIndex previous with
  | nil => exact spared_ok _
  | cons word words ih =>
    exact spared_bind (spared_validatedInterval _ _ _ _) fun _ => spared_ite (spared_error rfl) (ih _ _)

/-- So it is for all the words of a segment. -/
theorem spared_validateSegmentWords (segmentIndex : ℕ) (d : ℚ) (segment : Segment) :
    Spared (validateSegmentWords segmentIndex d segment) := by
  rw [validateSegmentWords]
  split
  · exact spared_ok _
  · refine spared_bind (spared_validateMonotonicWords _ _ _ _ _) fun _ => ?_
    exact spared_ite (spared_error rfl) (spared_ok _)

/-- So it is for the segments, one behind the other. -/
theorem spared_validateSegmentsFrom (d : ℚ) (segmentIndex : ℕ) (previous : ℚ) (segments : List Segment) :
    Spared (validateSegmentsFrom d segmentIndex previous segments) := by
  induction segments generalizing segmentIndex previous with
  | nil => exact spared_ok _
  | cons segment segments ih =>
    refine spared_bind (spared_validatedInterval _ _ _ _) fun _ => spared_ite (spared_error rfl) ?_
    exact spared_bind (spared_validateSegmentWords _ _ _) fun _ => ih _ _

/-- So it is for the state of the assembly. -/
theorem spared_assembly (d cursor : ℚ) (chunks : ℕ) (language : Option String) (count : ℕ) (last : ℚ) :
    Spared (AssemblyState.new d cursor chunks language count last) := by
  rw [AssemblyState.new]
  split_ifs
  · exact spared_error rfl
  · exact spared_error rfl
  · exact spared_ok _
  · exact spared_error rfl
  · exact spared_error rfl

/-- So it is for a commit that is prepared. -/
theorem spared_prepareCommit (state : AssemblyState) (window : ChunkWindow) (staged : StagedChunk) :
    Spared (prepareCommit state window staged) := by
  refine spared_ite (spared_error rfl) (spared_ite (spared_error rfl) (spared_ite (spared_error rfl) ?_))
  refine spared_bind (spared_validateSegmentsFrom _ _ _ _) fun _ => ?_
  exact spared_ite (spared_error rfl) (spared_assembly _ _ _ _ _ _)

end Spared

namespace Driver

/-! ## An inference in the pool -/

variable (rt : Runtime W H)

/-- `_raise_cancelled`. -/
def raiseCancelled {α : Type} : EStateM Exc W α := do
  let reason ← rt.cancellationReason
  throw (if reason = some "pressure" then
      .memoryPressureYield "Worker cohort yielded to resource pressure"
    else .cohortCancelled "Worker cohort was cancelled")

/-- `CohortModelRuntime.transcribe`: what its checks and its worker raise is handled here. -/
def cohortTranscribe (worker : String) (inference : EStateM Exc W Value) : EStateM Exc W Value :=
  tryCatch inference fun
    | .workerAllocationFailure .transcribe _ attempted => do
      rt.cancelCohort "failure"
      throw (.workerAllocationFailure .transcribe (some worker) attempted)
    | .workerAllocationFailure .load _ _ => do
      rt.cancelCohort "failure"
      throw (.runtimeError "Worker allocation phase does not match inference")
    | .cohortCancelled _ | .foreign "WorkerCancelled" _ => do
      rt.cancelCohort "stop"
      raiseCancelled rt
    | .memoryPressureYield m => do
      rt.cancelCohort "pressure"
      throw (.memoryPressureYield m)
    | e => do
      rt.cancelCohort "failure"
      throw e

/-- A result is transformed, if that is asked for. Running out of memory there is a failure of the worker. -/
def transformed (transform : Option (Value → EStateM Exc W Value)) (a : ChunkAssignment) (deadline : ℚ)
    (result : Value) : EStateM Exc W Value :=
  match transform with
  | none => pure result
  | some transform => do
    rt.checkCancelled
    let result ← tryCatch (transform result) fun
      | .foreign "MemoryError" _ | .workerAllocationFailure _ _ _ =>
        throw (.workerAllocationFailure .transcribe (some a.worker) none)
      | e => throw e
    rt.checkCancelled
    let now ← modifyGet rt.monotonic
    if deadline ≤ now then
      throw (.timeoutError "Chunk deadline expired during result processing")
    else
      pure result

/-- `infer`: an allocation failure tells how much was attempted. -/
def infer (inference : ChunkAssignment → EStateM Exc W Value)
    (transform : Option (Value → EStateM Exc W Value)) (a : ChunkAssignment) (deadline : ℚ) :
    EStateM Exc W (Value × ℚ) := do
  let now ← modifyGet rt.monotonic
  if deadline ≤ now then
    throw (.timeoutError "Chunk deadline expired before inference")
  else
    let result ← tryCatch (cohortTranscribe rt a.worker (inference a) >>= transformed rt transform a deadline) fun
      | .workerAllocationFailure phase worker _ =>
        throw (.workerAllocationFailure phase worker (some (a.window.coreEnd - a.window.coreStart)))
      | e => throw e
    let finished ← modifyGet rt.monotonic
    pure (result, finished)

/-- What is called raises no failure of a load, and keeps `I`. -/
def Spares {S α : Type} (I : S → Prop) (m : EStateM Exc S α) : Prop := Yields I m (fun _ => True) NotLoad

/-- What is called raises no failure of a load. -/
abbrev Harmless {S α : Type} (m : EStateM Exc S α) : Prop := Spares (fun _ => True) m

/-- A driver over a cohort of workers: its futures are inferences, and nothing but a worker that is loaded
    raises a failure of a load. (A worker that is asked for an inference may raise one; so may whatever the
    driver does not go on behind, such as the release of the cohort.) -/
structure OverCohort : Prop where
  inference : ∀ a, ∃ inference transform deadline, rt.futureResult a = infer rt inference transform a deadline
  /-- The `to_dict` of a result raises none either. -/
  staging : ∀ a, Yields (fun _ => True) (rt.futureResult a)
    (fun r => ∀ window, Spared (stageChunkResult r.1 window)) fun _ => True
  checkCancelled : Harmless rt.checkCancelled
  checkHealthy : Harmless rt.checkHealthy
  cohortFactory : Harmless rt.cohortFactory
  cancelCohort : ∀ reason, Harmless (rt.cancelCohort reason)
  cancellationReason : Harmless rt.cancellationReason
  waitDone : ∀ active, Harmless (rt.waitDone active)
  extractChunk : ∀ window, Harmless (rt.extractChunk window)
  submit : ∀ cohort a audio deadline, Harmless (rt.submit cohort a audio deadline)
  onEvent : ∀ event, Harmless (rt.onEvent event)
  storeResult : ∀ staged, Harmless (rt.storage.storeResult staged)
  readResult : ∀ handle, Harmless (rt.storage.readResult handle)
  discardResult : ∀ handle, Harmless (rt.storage.discardResult handle)
  persistChunk : ∀ window staged state, Harmless (rt.storage.persistChunk window staged state)

variable {rt}

/-- The errors that are kept are no failures of a load. -/
def Clean (s : Driver W H) : Prop := ∀ e ∈ s.errors, NotLoad e

section Spares

variable {S α β : Type} {I : S → Prop} {m : EStateM Exc S α}

/-- One procedure after the other. -/
theorem spares_bind {f : α → EStateM Exc S β} (hm : Spares I m) (hf : ∀ a, Spares I (f a)) : Spares I (m >>= f) :=
  yields_bind hm fun a _ => hf a

/-- A value raises nothing. -/
theorem spares_pure (a : α) : Spares I (pure a : EStateM Exc S α) := yields_pure trivial

/-- A check inside of a procedure. -/
theorem spares_ofExcept {x : Except Exc α} (h : Spared x) : Spares I (ofExcept x : EStateM Exc S α) :=
  yields_ofExcept (fun _ _ => trivial) h

/-- A change of the state raises nothing. -/
theorem harmless_modify (f : S → S) : Harmless (modify f : EStateM Exc S PUnit) :=
  yields_modify trivial fun _ _ => trivial

/-- Nor does one that returns something. -/
theorem harmless_modifyGet (f : S → α × S) : Harmless (modifyGet f : EStateM Exc S α) :=
  fun _ _ => ⟨trivial, trivial⟩

/-- A change of the driver that leaves the errors keeps them clean. -/
theorem spares_modify {f : Driver W H → Driver W H} (hf : ∀ s, (f s).errors = s.errors) :
    Spares Clean (modify f) := yields_modify trivial fun s hs => by rwa [Clean, hf]

/-- A procedure on a component. -/
theorem harmless_zoom {T : Type} {get : S → T} {put : S → T → S} {m : EStateM Exc T α} (h : Harmless m) :
    Harmless (zoom get put m) := yields_zoom h (fun _ _ => trivial) fun _ _ _ _ => trivial

/-- The scheduler does not touch the errors of the driver. -/
theorem spares_onScheduler {m : EStateM Exc (Scheduler W H) α} (h : Harmless m) :
    Spares Clean (onScheduler m) := yields_zoom h (fun _ _ => trivial) fun _ _ hs _ => hs

/-- The world does not touch them either. -/
theorem spares_onWorld {m : EStateM Exc W α} (h : Harmless m) :
    Spares Clean (onWorld m : EStateM Exc (Driver W H) α) := spares_onScheduler (harmless_zoom h)

/-- Nor does the coordinator. -/
theorem spares_onSelf {m : EStateM Exc (Coordinator H) α} (h : Harmless m) :
    Spares Clean (onSelf m : EStateM Exc (Driver W H) α) := spares_onScheduler (harmless_zoom h)

end Spares

/-! ## Inferences -/

/-- The cancellation raises what the token is asked for, which is no failure of a load. -/
theorem OverCohort.raiseCancelled {α : Type} (h : OverCohort rt) :
    Harmless (raiseCancelled rt : EStateM Exc W α) := by
  refine spares_bind h.cancellationReason fun reason => yields_throw ?_
  split_ifs
  · exact notLoad rfl
  · exact notLoad rfl

/-- Whatever a worker raises, a failure of a load is not among what the cohort raises. -/
theorem OverCohort.cohortTranscribe (h : OverCohort rt) (worker : String) (inference : EStateM Exc W Value) :
    Harmless (cohortTranscribe rt worker inference) := by
  refine yields_tryCatch (yields_any inference) fun e _ => ?_
  split
  · exact spares_bind (h.cancelCohort _) fun _ => yields_throw (notLoad rfl)
  · exact spares_bind (h.cancelCohort _) fun _ => yields_throw (notLoad rfl)
  · exact spares_bind (h.cancelCohort _) fun _ => h.raiseCancelled
  · exact spares_bind (h.cancelCohort _) fun _ => h.raiseCancelled
  · exact spares_bind (h.cancelCohort _) fun _ => yields_throw (notLoad rfl)
  · next hload _ _ _ =>
    exact spares_bind (h.cancelCohort _) fun _ => yields_throw fun worker attempted => hload worker attempted

/-- The transformation of a result raises no failure of a load. -/
theorem OverCohort.transformed (h : OverCohort rt) (transform : Option (Value → EStateM Exc W Value))
    (a : ChunkAssignment) (deadline : ℚ) (result : Value) : Harmless (transformed rt transform a deadline result) := by
  cases transform with
  | none => exact spares_pure result
  | some transform =>
    refine spares_bind h.checkCancelled fun _ => spares_bind ?_ fun result => ?_
    · refine yields_tryCatch (yields_any _) fun e _ => ?_
      split
      · exact yields_throw (notLoad rfl)
      · exact yields_throw (notLoad rfl)
      · next hother => exact yields_throw fun worker attempted => hother .load worker attempted
    · refine spares_bind h.checkCancelled fun _ => spares_bind (harmless_modifyGet _) fun now => ?_
      exact yields_ite (fun _ => yields_throw (notLoad rfl)) fun _ => spares_pure result

/-- A future raises no failure of a load. -/
theorem OverCohort.futureResult (h : OverCohort rt) (a : ChunkAssignment) : Harmless (rt.futureResult a) := by
  obtain ⟨inference, transform, deadline, heq⟩ := h.inference a
  rw [heq, infer]
  refine spares_bind (harmless_modifyGet _) fun now => yields_ite (fun _ => yields_throw (notLoad rfl)) fun _ => ?_
  refine spares_bind ?_ fun result => spares_bind (harmless_modifyGet _) fun _ => spares_pure _
  have hresult : Harmless (Driver.cohortTranscribe rt a.worker (inference a) >>=
      Driver.transformed rt transform a deadline) :=
    spares_bind (h.cohortTranscribe _ _) fun result => h.transformed _ _ _ result
  refine yields_tryCatch hresult fun e he => ?_
  split
  · next phase worker attempted =>
    refine yields_throw fun _ _ heq => he worker attempted ?_
    rw [(Exc.workerAllocationFailure.inj heq).1]
  · exact yields_throw he

/-! ## The scheduler -/

/-- An attempt that is not there is a `SegmentationError`. -/
theorem spares_requireAttempt (assignment : Option ChunkAssignment) :
    Harmless (Coordinator.requireAttempt assignment : EStateM Exc (Coordinator H) _) := by
  refine yields_get_bind fun c _ => yields_ite (fun _ => yields_throw (notLoad rfl)) fun _ => ?_
  cases assignment with
  | none => exact yields_throw (notLoad rfl)
  | some a => exact yields_ite (fun _ => spares_pure a) fun _ => yields_throw (notLoad rfl)

/-- The yield of an attempt, likewise. -/
theorem spares_yielded (assignment : Option ChunkAssignment) :
    Spares Clean (onSelf (Coordinator.yielded assignment) : EStateM Exc (Driver W H) Unit) :=
  spares_onSelf (spares_bind (spares_requireAttempt _) fun _ => harmless_modify _)

/-- The claim of a window, likewise. -/
theorem spares_claim (worker : String) (seconds : ℚ) :
    Harmless (Coordinator.claim worker seconds : EStateM Exc (Coordinator H) _) := by
  refine yields_get_bind fun c _ => yields_ite (fun _ => yields_throw (notLoad rfl)) fun _ => ?_
  refine yields_ite (fun _ => yields_throw (notLoad rfl)) fun _ => ?_
  refine spares_bind (spares_ofExcept (spared_positiveNumber _ _)) fun seconds => ?_
  refine yields_ite (fun _ => yields_throw (notLoad rfl)) fun _ => yields_ite (fun _ => spares_pure _) fun _ => ?_
  refine yields_ite (fun _ => spares_pure _) fun _ => ?_
  refine spares_bind (spares_ofExcept (spared_planNextWindow _ _ _ _ _)) fun window => ?_
  cases window with
  | none => exact yields_throw (notLoad rfl)
  | some window => exact fun _ _ => ⟨trivial, trivial⟩

/-- A commit raises what its callbacks do, or an error of the segmentation. -/
theorem OverCohort.commitFront (h : OverCohort rt) (window : ChunkWindow) (handle : H) :
    Harmless (Scheduler.commitFront rt.storage window handle) := by
  refine spares_bind (harmless_zoom (h.readResult handle)) fun staged => ?_
  refine spares_bind (harmless_zoom fun _ _ => ⟨trivial, trivial⟩) fun c => ?_
  refine spares_bind (harmless_zoom ?_) fun state => spares_bind (harmless_zoom (harmless_modify _)) fun _ => ?_
  · refine spares_bind (spares_ofExcept (spared_prepareCommit _ _ _)) fun next => ?_
    exact spares_bind (h.persistChunk _ _ _) fun _ => spares_pure _
  · exact spares_bind (harmless_zoom (h.discardResult handle)) fun _ => spares_pure _

/-- The loop over the commits raises what the check and the callback raise. -/
theorem OverCohort.commitLoop (h : OverCohort rt) {check : EStateM Exc W Bool} (hcheck : Harmless check)
    (limit : Option ℕ) (rounds : ℕ) (committed : List ChunkWindow) :
    Harmless (Scheduler.commitLoop rt.storage check limit rounds committed) := by
  induction rounds generalizing committed with
  | zero => exact spares_pure _
  | succ rounds ih =>
    refine spares_bind (harmless_zoom fun _ _ => ⟨trivial, trivial⟩) fun c => ?_
    cases c.ready.lookup c.state.cursor with
    | none => exact spares_pure _
    | some entry =>
      refine yields_ite (fun _ => spares_pure _) fun _ => spares_bind (harmless_zoom hcheck) fun healthy => ?_
      exact yields_ite (fun _ => spares_bind (h.commitFront _ _) fun _ => ih _) fun _ => spares_pure _

/-- So does the commit of all that is ready. -/
theorem OverCohort.commitReady (h : OverCohort rt) {check : EStateM Exc W Bool} (hcheck : Harmless check)
    (maximumCommits : Value) : Harmless (Scheduler.commitReady rt.storage check maximumCommits) := by
  have hlimit : Spared (Coordinator.commitLimit maximumCommits) := by
    rw [Coordinator.commitLimit.eq_def]
    split
    · exact spared_ok _
    · exact spared_ite (spared_error rfl) (spared_ok _)
    · exact spared_error rfl
  refine spares_bind (harmless_zoom fun _ _ => ⟨trivial, trivial⟩) fun c => ?_
  refine yields_ite (fun _ => yields_throw (notLoad rfl)) fun _ => ?_
  exact spares_bind (spares_ofExcept hlimit) fun limit => h.commitLoop hcheck _ _ _

/-! ## The driver -/

/-- The check of the runtime, which looks at the cohort if there is one. -/
theorem OverCohort.runtimeCheck (h : OverCohort rt) (hasCohort : Bool) : Harmless (runtimeCheck rt hasCohort) := by
  refine spares_bind h.checkCancelled fun _ => spares_bind h.checkHealthy fun healthy => ?_
  refine yields_ite (fun _ => spares_pure _) fun _ => spares_bind ?_ fun _ => yields_throw (notLoad rfl)
  exact yields_ite (fun _ => h.cancelCohort _) fun _ => spares_pure _

/-- The check of the driver. -/
theorem OverCohort.check (h : OverCohort rt) : Spares Clean (check rt : EStateM Exc (Driver W H) Unit) :=
  yields_get_bind fun _ _ => spares_bind (spares_onWorld (h.runtimeCheck _)) fun _ => spares_pure _

/-- Staging a future raises no failure of a load. -/
theorem OverCohort.stage (h : OverCohort rt) (a : ChunkAssignment) (started : ℚ) :
    Spares Clean (stage rt a started : EStateM Exc (Driver W H) Unit) := by
  have hresult : Yields (fun _ => True) (rt.futureResult a)
      (fun r => ∀ window, Spared (stageChunkResult r.1 window)) NotLoad := fun w _ =>
    ((h.staging a w trivial).and (h.futureResult a w trivial)).mono (fun _ _ hr => hr.1) fun _ _ he => he.2
  have hscheduler : Yields (fun _ => True) (Scheduler.onWorld (rt.futureResult a) : EStateM Exc (Scheduler W H) _)
      (fun r => ∀ window, Spared (stageChunkResult r.1 window)) NotLoad :=
    yields_zoom hresult (fun _ _ => trivial) fun _ _ _ _ => trivial
  refine yields_bind (yields_zoom hscheduler (fun _ _ => trivial) fun _ _ hs _ => hs) fun r hr => ?_
  refine spares_bind (spares_onScheduler ?_) fun _ => spares_modify fun _ => rfl
  refine spares_bind (harmless_zoom (spares_requireAttempt _)) fun a => ?_
  refine spares_bind (spares_ofExcept (hr _)) fun staged => ?_
  exact spares_bind (harmless_zoom (h.storeResult staged)) fun handle => harmless_zoom (harmless_modify _)

/-- The errors that are kept are none of loads. -/
theorem OverCohort.stageOrYield (h : OverCohort rt) (a : ChunkAssignment) (started : ℚ) :
    Yields Clean (stageOrYield rt a started : EStateM Exc (Driver W H) (List Exc))
      (fun errors => ∀ e ∈ errors, NotLoad e) NotLoad := by
  refine yields_tryCatch (yields_bind (h.stage a started) fun _ _ => yields_pure (by simp)) fun e he => ?_
  exact yields_bind (spares_yielded _) fun _ _ => yields_pure (List.forall_mem_singleton.2 he)

/-- What the workers raised is collected: no failure of a load, once they run. -/
theorem OverCohort.harvest (h : OverCohort rt) (done : List ChunkAssignment) :
    Yields Clean (harvest rt done : EStateM Exc (Driver W H) (List Exc))
      (fun errors => ∀ e ∈ errors, NotLoad e) NotLoad := by
  induction done with
  | nil => exact yields_pure (by simp)
  | cons a done ih =>
    refine yields_get_bind fun s _ => ?_
    cases s.active.find? (fun x => x.assignment = a) with
    | none => exact ih
    | some x =>
      refine yields_bind (spares_modify fun _ => rfl) fun _ _ => ?_
      refine yields_bind (h.stageOrYield a _) fun errors herrors => ?_
      exact yields_bind ih fun more hmore => yields_pure (List.forall_mem_append.2 ⟨herrors, hmore⟩)

/-- The same for the attempts that are still active. -/
theorem OverCohort.stageActive (h : OverCohort rt) (active : List ActiveChunk) :
    Yields Clean (stageActive rt active : EStateM Exc (Driver W H) (List Exc))
      (fun errors => ∀ e ∈ errors, NotLoad e) NotLoad := by
  induction active with
  | nil => exact yields_pure (by simp)
  | cons x rest ih =>
    refine yields_bind (h.stageOrYield _ _) fun errors herrors => ?_
    refine yields_bind (spares_modify fun _ => rfl) fun _ _ => ?_
    exact yields_bind ih fun more hmore => yields_pure (List.forall_mem_append.2 ⟨herrors, hmore⟩)

/-- What follows on a commit. -/
theorem OverCohort.committed (h : OverCohort rt) (window : ChunkWindow) :
    Spares Clean (committed rt window : EStateM Exc (Driver W H) Unit) := by
  refine yields_get_bind fun s _ => ?_
  cases s.stagedOwners.lookup window.coreStart with
  | none => exact yields_throw (notLoad rfl)
  | some owner =>
    refine spares_bind (spares_modify fun _ => rfl) fun _ => spares_bind ?_ fun _ => spares_onWorld (h.onEvent _)
    refine yields_get_bind fun s _ => yields_ite (fun _ => ?_) fun _ => spares_pure _
    cases s.adaptive.lookup owner.1 with
    | none => exact yields_throw (notLoad rfl)
    | some adaptive => exact spares_modify fun _ => rfl

/-- All that is ready is committed. -/
theorem OverCohort.commitAllReady (h : OverCohort rt) (rounds : ℕ) :
    Spares Clean (commitAllReady rt rounds : EStateM Exc (Driver W H) Unit) := by
  induction rounds with
  | zero => exact spares_pure _
  | succ rounds ih =>
    refine yields_get_bind fun s _ => ?_
    refine spares_bind (spares_onScheduler (h.commitReady (h.runtimeCheck _) _)) fun windows => ?_
    cases windows with
    | nil => exact spares_pure _
    | cons window _ => exact spares_bind (h.committed window) fun _ => ih

/-- An attempt is started. -/
theorem OverCohort.launch (h : OverCohort rt) (a : ChunkAssignment) :
    Spares Clean (launch rt a : EStateM Exc (Driver W H) Unit) := by
  refine spares_bind (spares_onWorld (harmless_modifyGet _)) fun started => yields_get_bind fun s _ => ?_
  refine yields_tryCatch (R := NotLoad) ?_ fun e he => spares_bind (spares_yielded _) fun _ => yields_throw he
  refine spares_bind (spares_onWorld (h.onEvent _)) fun _ => ?_
  refine spares_bind (spares_onWorld (h.extractChunk _)) fun audio => spares_bind h.check fun _ => ?_
  refine spares_bind (spares_onWorld (harmless_modifyGet _)) fun now => ?_
  refine yields_ite (fun _ => yields_throw (notLoad rfl)) fun _ => ?_
  exact spares_bind (spares_onWorld (h.submit _ _ _ _)) fun _ => spares_modify fun _ => rfl

/-- A worker gets an attempt, if there is one. -/
theorem OverCohort.dispatchTo (h : OverCohort rt) (worker : String) :
    Spares Clean (dispatchTo rt worker : EStateM Exc (Driver W H) Unit) := by
  refine spares_bind h.check fun _ => yields_get_bind fun s _ => ?_
  cases s.adaptive.lookup worker with
  | none => exact yields_throw (notLoad rfl)
  | some adaptive =>
    refine spares_bind (spares_onSelf (spares_claim _ _)) fun claimed => ?_
    cases claimed with
    | none => exact spares_pure _
    | some a => exact h.launch a

/-- All idle workers do. -/
theorem OverCohort.dispatch (h : OverCohort rt) (busy workers : List String) :
    Spares Clean (dispatch rt busy workers : EStateM Exc (Driver W H) Unit) := by
  induction workers with
  | nil => exact spares_pure _
  | cons worker workers ih =>
    exact yields_ite (fun _ => ih) fun _ => spares_bind (h.dispatchTo worker) fun _ => ih

/-- The driver raises if nothing goes on. -/
theorem OverCohort.requireProgress (h : OverCohort rt) :
    Spares Clean (requireProgress rt : EStateM Exc (Driver W H) Unit) :=
  yields_get_bind fun _ _ =>
    yields_ite (fun _ => spares_bind h.check fun _ => yields_throw (notLoad rfl)) fun _ => spares_pure _

/-! ## A round -/

variable {s s' : Driver W H}

/-- What a round up to its handler raises: there was no load, and no failure of one, or the load was under way. -/
def RaisedClean (e : Exc) (s : Driver W H) : Prop := s.loading = true ∨ NotLoad e ∧ s.Clean

/-- What such a procedure raises, it raises with the errors clean. -/
theorem Spares.raisedClean {α : Type} {m : EStateM Exc (Driver W H) α} (h : Spares Clean m) (hs : s.Clean) :
    Ensures m s (fun _ s' => s'.Clean) RaisedClean :=
  (h s hs).mono (fun _ _ h => h.2) fun _ _ h => .inr h

/-- While the cohort loads, the driver only waits and checks. -/
theorem OverCohort.pollLoading (h : OverCohort rt) (polls : ℕ) :
    Spares Clean (pollLoading rt polls : EStateM Exc (Driver W H) Unit) := by
  induction polls with
  | zero => exact spares_pure _
  | succ polls ih => exact spares_bind h.check fun _ => ih

/-- While the load is under way, anything may be raised. -/
theorem raisedClean_loading {α : Type} (m : EStateM Exc W α) (hs : s.Clean) (hloading : s.loading = true) :
    Ensures (onWorld m) s (fun _ s' => s'.Clean ∧ s'.loading = true) fun _ s' => s'.loading = true := by
  rw [onWorld, ensures_onScheduler, Scheduler.ensures_onWorld]
  exact ensures_of_forall (fun _ _ => ⟨hs, hloading⟩) fun _ _ => hloading

/-- A failed load raises the failure of a load. -/
theorem OverCohort.loadCohort (h : OverCohort rt) (hs : s.Clean) :
    Ensures (loadCohort rt) s (fun _ s' => s'.Clean) RaisedClean := by
  rw [Driver.loadCohort, ensures_bind, ensures_get, ensures_ite]
  refine ⟨fun _ => hs, fun _ => ?_⟩
  rw [ensures_bind]
  refine ((spares_onWorld h.cohortFactory).raisedClean hs).mono ?_ fun _ _ h => h
  intro candidate s₁ hs₁
  rw [ensures_bind, ensures_modify, ensures_ite]
  refine ⟨fun _ => .inr ⟨notLoad rfl, hs₁⟩, fun _ => ?_⟩
  refine ensures_ite.2 ⟨fun _ => .inr ⟨notLoad rfl, hs₁⟩, fun _ => ?_⟩
  rw [ensures_bind, ensures_modify, ensures_bind]
  set s' : Driver W H := { s₁ with cohort := some candidate, identity := some candidate.identity, loading := true }
  have hs' : s'.Clean := hs₁
  refine (raisedClean_loading _ hs' rfl).mono ?_ fun _ _ hloading => Or.inl hloading
  rintro polls s₂ ⟨hs₂, hloading₂⟩
  rw [ensures_bind]
  have hpoll := (uncounted_pollLoading rt polls).spec s₂
  refine (hpoll.and ((h.pollLoading polls).raisedClean hs₂)).mono ?_ fun _ _ h => h.2
  rintro - s₃ ⟨⟨-, hsame₃⟩, hs₃⟩
  rw [ensures_bind, ensures_tryCatch]
  refine (raisedClean_loading _ hs₃ (hsame₃.loading.trans hloading₂)).mono ?_ fun _ _ hloading => Or.inl hloading
  rintro - s₄ ⟨hs₄, -⟩
  -- Behind the load, the counts are reset and dispatch is open again.
  refine Spares.raisedClean (spares_bind (spares_modify fun _ => rfl) fun _ => ?_) hs₄
  refine spares_bind (spares_onSelf (harmless_modify _)) fun _ => ?_
  exact yields_get_bind fun _ _ => spares_onWorld (h.onEvent _)

/-- The loop over the attempts. -/
theorem OverCohort.schedule (h : OverCohort rt) (hs : s.Clean) :
    Ensures (schedule rt) s (fun _ s' => s'.Clean) RaisedClean := by
  rw [Driver.schedule, ensures_bind]
  refine (h.check.raisedClean hs).mono ?_ fun _ _ h => h
  intro _ s₁ hs₁
  rw [ensures_bind, ensures_get, ensures_ite]
  refine ⟨fun _ => hs₁, fun _ => ?_⟩
  rw [ensures_bind]
  refine (h.loadCohort hs₁).mono ?_ fun _ _ h => h
  intro _ s₂ hs₂
  rw [ensures_bind, ensures_get, ensures_bind]
  refine ((spares_onWorld (h.waitDone _)).raisedClean hs₂).mono ?_ fun _ _ h => h
  intro done s₃ hs₃
  rw [ensures_bind]
  refine (h.harvest done s₃ hs₃).mono ?_ fun _ _ h => .inr h
  rintro errors s₄ ⟨herrors, -⟩
  rw [ensures_bind, ensures_modify]
  -- What is raised of the harvest is one of its errors.
  cases hraised : harvestError errors with
  | some e =>
    refine .inr ⟨herrors e ?_, herrors⟩
    have hmem := List.mem_of_mem_head? (Option.mem_def.2 hraised)
    simp only [terminalErrors, allocationErrors, List.mem_append, List.mem_filter] at hmem
    tauto
  | none =>
    rw [ensures_bind, ensures_get, ensures_bind]
    have hs₄ : ({ s₄ with errors := errors } : Driver W H).Clean := herrors
    refine ((h.commitAllReady _).raisedClean hs₄).mono ?_ fun _ _ h => h
    intro _ s₅ hs₅
    rw [ensures_bind, ensures_get, ensures_ite]
    refine ⟨fun _ => hs₅, fun _ => ?_⟩
    rw [ensures_bind]
    exact ((h.dispatch _ _).raisedClean hs₅).mono (fun _ _ h => h) fun _ _ h => h

/-- A round ends, or goes on behind a recovery. -/
theorem OverCohort.body (h : OverCohort rt) (hs : s.Clean) :
    Ensures (body rt) s (fun t _ => t = .left ∨ t = .went) RaisedClean := by
  rw [Driver.body, ensures_bind]
  refine (h.schedule hs).mono ?_ fun _ _ h => h
  intro progress s₁ hs₁
  cases progress with
  | complete => exact .inl rfl
  | committed => exact .inr rfl
  | dispatched =>
    rw [ensures_bind]
    exact (h.requireProgress.raisedClean hs₁).mono (fun _ _ _ => .inr rfl) fun _ _ h => h

/-- Without a load, a drain finds none of its failures. -/
theorem OverCohort.drain (h : OverCohort rt) (reason : String) (release : Bool) (hs : s.Clean)
    (hloading : s.loading = false) :
    Ensures (drain rt reason release) s (fun failures _ => ∀ e ∈ failures, NotLoad e) fun _ _ => True := by
  rw [Driver.drain, ensures_bind]
  have hcancel : Spares Clean (onCohort (rt.cancelCohort reason) : EStateM Exc (Driver W H) Unit) :=
    yields_get_bind fun _ _ => yields_ite (fun _ => spares_onWorld (h.cancelCohort _)) fun _ => spares_pure _
  refine ((uncounted_onCohort (rt.cancelCohort reason)).spec s |>.and (hcancel s hs)).mono ?_ fun _ _ _ => trivial
  rintro _ s₁ ⟨⟨-, hsame₁⟩, -, hs₁⟩
  rw [ensures_bind, ensures_get, ensures_bind]
  have hwait : Ensures (onWorld (rt.waitUnwound (s₁.active.map ActiveChunk.assignment))) s₁
      (fun _ s₂ => s₂.Clean ∧ s₂.loading = false) fun _ _ => True := by
    rw [onWorld, ensures_onScheduler, Scheduler.ensures_onWorld]
    exact ensures_of_forall (fun _ _ => ⟨hs₁, hsame₁.loading.trans hloading⟩) fun _ _ => trivial
  refine hwait.mono ?_ fun _ _ _ => trivial
  rintro unwound s₂ ⟨hs₂, hloading₂⟩
  refine ensures_ite.2 ⟨fun _ => ?_, fun _ => trivial⟩
  rw [ensures_bind, takeLoading, ensures_bind, ensures_get, hloading₂, if_neg Bool.false_ne_true, ensures_pure,
    ensures_bind, ensures_get, ensures_bind]
  refine (h.stageActive _ s₂ hs₂).mono ?_ fun _ _ _ => trivial
  rintro more s₃ ⟨hmore, -⟩
  rw [ensures_bind]
  exact ensures_of_forall (fun _ _ => hmore) fun _ _ => trivial

/-! ## What a round is about -/

/-- The allocation failures that a round is about: those of its load, or of inferences. -/
def Causes (loading : Bool) (allocations : List Allocation) : Prop :=
  allocations ≠ [] ∧ (loading = false → ∀ x ∈ allocations, x.2.1 = .transcribe)

/-- An item of a dictionary behind an assignment is the new one or an old one. -/
theorem mem_setItem {K V : Type} [DecidableEq K] {items : List (K × V)} {key : K} {value : V} {x : K × V}
    (h : x ∈ setItem items key value) : x ∈ items ∨ x = (key, value) := by
  rw [setItem] at h
  split_ifs at h
  · obtain ⟨p, hp, rfl⟩ := List.mem_map.1 h
    split_ifs
    · exact .inr rfl
    · exact .inl hp
  · rcases List.mem_append.1 h with h | h
    · exact .inl h
    · exact .inr (List.mem_singleton.1 h)

/-- What is counted of the workers was raised. -/
theorem mem_of_mem_allocationsByWorker {failures : List Exc} {x : Allocation} (h : x ∈ allocationsByWorker failures) :
    .workerAllocationFailure x.2.1 x.1 x.2.2 ∈ failures := by
  induction failures using List.reverseRecOn with
  | nil => cases h
  | append_singleton failures e ih =>
    rw [allocationsByWorker, List.foldl_append, ← allocationsByWorker, List.foldl_cons, List.foldl_nil] at h
    rw [List.mem_append]
    split at h
    · rcases mem_setItem h with h | rfl
      · exact .inl (ih h)
      · exact .inr (List.mem_singleton_self _)
    · exact .inl (ih h)

/-- The failures of running workers are causes of a recovery. -/
theorem causes_of_notLoad {failures : List Exc} (h : ∀ e ∈ failures, NotLoad e)
    (hne : allocationsByWorker failures ≠ []) (loading : Bool) : Causes loading (allocationsByWorker failures) := by
  refine ⟨hne, fun _ x hx => ?_⟩
  have hmem := mem_of_mem_allocationsByWorker hx
  cases hphase : x.2.1 with
  | transcribe => rfl
  | load =>
    rw [hphase] at hmem
    exact absurd rfl (h _ hmem x.1 x.2.2)

/-- A recovery keeps the allocations that it was begun with. -/
theorem awaitTurn_recovered (loading : Bool) (control : Exc) (allocations : List Allocation) :
    Ensures (awaitTurn rt loading control allocations) s
      (fun t _ => ∃ window raised, t = .recovered loading allocations window raised) fun _ _ => True := by
  rw [awaitTurn, ensures_bind]
  refine ensures_of_forall (fun exhausted s₁ => ?_) fun _ _ => trivial
  rw [ensures_bind, ensures_get, ensures_bind]
  refine ensures_of_forall (fun _ s₂ => ?_) fun _ _ => trivial
  rw [ensures_bind]
  refine ensures_of_forall (fun window s₃ => ?_) fun _ _ => trivial
  rw [ensures_bind]
  refine ensures_of_forall (fun _ s₄ => ?_) fun _ _ => trivial
  rw [ensures_ite]
  refine ⟨fun _ => ?_, fun _ => ⟨window, _, rfl⟩⟩
  rw [ensures_bind, ensures_modify]
  exact ⟨window, none, rfl⟩

/-- The failures that a round goes on with are those of its load, or of inferences. -/
def Caused (t : Turn) : Prop :=
  ∀ loading allocations window raised, t = .recovered loading allocations window raised → allocations ≠ [] →
    Causes loading allocations

/-- Whatever was raised, the turn of the recovery has causes. -/
theorem OverCohort.recoverTurn (h : OverCohort rt) {e : Exc} (hraised : RaisedClean e s) :
    Ensures (recoverTurn rt e) s (fun t _ => Caused t) fun _ _ => True := by
  have hresume : ∀ (reason : String) (failures : List Exc) (s' : Driver W H),
      (s.loading = false → ∀ e ∈ failures, NotLoad e) →
      Ensures (resumeTurn rt s.loading e reason failures) s' (fun t _ => Caused t) fun _ _ => True := by
    intro reason failures s' hfailures
    rw [resumeTurn]
    cases terminalErrors failures with
    | cons terminal _ => exact trivial
    | nil =>
      rw [ensures_bind]
      refine ensures_of_forall (fun _ s₁ => ?_) fun _ _ => trivial
      rw [ensures_ite]
      refine ⟨fun _ => trivial, fun _ => ?_⟩
      rw [ensures_bind, ensures_modify]
      refine (awaitTurn_recovered _ _ _).mono ?_ fun _ _ _ => trivial
      rintro t - ⟨window, raised, rfl⟩ loading allocations _ _ ⟨⟩ hne
      refine ⟨hne, fun hloading => ?_⟩
      exact (causes_of_notLoad (hfailures hloading) hne false).2 rfl
  rw [Driver.recoverTurn, ensures_bind, ensures_get, ensures_bind]
  by_cases hloading : s.loading = true
  · -- The load was under way: whatever is drained is among its failures.
    refine ensures_of_forall (fun reason s₁ => ?_) fun _ _ => trivial
    rw [ensures_bind]
    refine ensures_of_forall (fun _ s₂ => ?_) fun _ _ => trivial
    rw [ensures_bind, ensures_get, ensures_bind]
    refine ensures_of_forall (fun drained s₃ => ?_) fun _ _ => trivial
    exact hresume _ _ _ fun hnot => Bool.noConfusion (hloading.symm.trans hnot)
  obtain ⟨he, hs⟩ := hraised.resolve_left hloading
  have hreason : Spares Clean (drainReason rt e : EStateM Exc (Driver W H) String) :=
    yields_get_bind fun _ _ => yields_ite (fun _ => spares_pure _) fun _ => yields_ite
      (fun _ => spares_bind (spares_onWorld h.cancellationReason) fun _ => spares_pure _) fun _ => spares_pure _
  refine (((uncounted_drainReason rt e).spec s).and (hreason s hs)).mono ?_ fun _ _ _ => trivial
  rintro reason s₁ ⟨⟨-, hsame₁⟩, -, hs₁⟩
  rw [ensures_bind, ensures_onSelf, Coordinator.pauseDispatch, ensures_modify, ensures_bind, ensures_get, ensures_bind]
  set s₂ : Driver W H :=
    { s₁ with scheduler := ⟨{ s₁.coordinator with dispatchPaused := true }, s₁.scheduler.world⟩ }
  have hs₂ : s₂.Clean := hs₁
  refine (h.drain reason true hs₂ (hsame₁.loading.trans (Bool.eq_false_iff.2 hloading))).mono ?_ fun _ _ _ => trivial
  intro drained s₃ hdrained
  refine hresume _ _ _ fun _ => List.forall_mem_append.2 ⟨List.forall_mem_append.2 ⟨hs₂, ?_⟩, hdrained⟩
  exact List.forall_mem_singleton.2 he

/-- Over a cohort of workers, a round is about failures of its load, or of inferences. -/
theorem causes_of_overCohort (h : OverCohort rt) {loading : Bool}
    {allocations : List Allocation} {window : Option (ℤ × ℤ)} {raised : Option Exc}
    (hturn : turn rt s = .ok (.recovered loading allocations window raised) s') (hne : allocations ≠ []) :
    Causes loading allocations := by
  have hcaused : Ensures (turn rt) s (fun t _ => Caused t) fun _ _ => True := by
    rw [turn, ensures_bind, ensures_modify, ensures_tryCatch]
    set s₀ : Driver W H := { s with errors := [] }
    have hs₀ : s₀.Clean := fun _ he => absurd he List.not_mem_nil
    refine (h.body hs₀).mono ?_ fun e s₁ hraised => ?_
    · rintro t s₁ (rfl | rfl)
      · intro _ _ _ _ heq
        cases heq
      · intro _ _ _ _ heq
        cases heq
    · exact ensures_ite.2 ⟨fun _ => h.recoverTurn hraised, fun _ => trivial⟩
  exact (ensures_of_ok hturn).1 hcaused _ _ _ _ rfl hne

end Driver

end Subgen

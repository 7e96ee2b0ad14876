import Subgen.Runtime.Protocol
import Subgen.Runtime.Threads

/-!
# The runtime follows the protocol

Every step of a thread of the runtime is a step of the protocol (`conforms_step`), so that
whatever is an invariant of the protocol holds along the runs of the runtime.

A state of the runtime is seen as a ledger of its transitions (`ModelRuntime.ledger`), and a point of
a thread as a phase of the protocol (`Point.phase`); permits, locks and receipts that the protocol does not
speak of are forgotten. A step *conforms* if the two views move as the protocol allows (`Conforms`). There is
one such lemma for each step of the source, named after it. Most of them only shift counters that the
protocol leaves open, and follow from what the helpers of the source do to the ledger (`shift_…`, `ledger_…`).

* `ModelRuntime.ledger`, `Point.phase`: what the protocol sees of the runtime;
* `Conforms`: a step of a thread, seen so, is one of the protocol;
* `conforms_step`: every step of the source conforms.
-/

namespace Subgen

open Interleaving ModelRuntime

/-- What the ledger says of a runtime. -/
def ModelRuntime.ledger (s : ModelRuntime) : Ledger where
  model := s.model
  closed := s.admissionClosed
  generation := s.releaseGeneration
  transitions := s.transitions
  permits := s.permits
  locked := s.loadLock
  loads := s.loadGeneration
  history := s.history

/-- The phase of a thread. -/
def Point.phase (config : RuntimeConfig) : Point → Phase
  | .validating _ _ => .permit
  | .refusing _ => .permit
  | .locking _ generation => .slot generation
  | .checking _ generation => .locked generation
  | .loading _ generation => .loading generation
  | .counting _ generation => .loading generation
  | .deferring _ generation => .loading generation
  | .publishing _ generation => .loading generation
  | .unlocking _ generation none => .loaded generation
  | .unlocking _ generation (some _) => .locked generation
  | .running generation => .inference generation
  | .unwinding generation _ => .inference generation
  | .exhausted generation => .slot generation
  | .closing generation => .slot generation
  | .leaving _ generation _ => .slot generation
  | .left _ generation _ => .outside (some generation)
  | .deciding call => .deciding call
  | .joining call t => .joining call t
  | .draining call t taken => .draining call t taken
  | .examining call t => .unloading call t
  | .unloading call t => .unloading call t
  | .unlockingRelease call t result => .unloaded call t result
  | .failing call t result => .returning call t config.permitCount result
  | .returning call t taken result => .returning call t taken result
  | .completing call t result => .returning call t 0 result
  | .reopeningIdle call => .released call
  | .released call _ => .released call
  | .committing generation => .outside (some generation)
  | .rejecting generation => .outside (some generation)
  | _ => .outside none

variable {config : RuntimeConfig} {ch : Choice} {s s' : ModelRuntime} {p p' : Point}

/-! ## The admission -/

/-- A receipt that cannot be written closes the admission, and changes nothing else of the ledger. -/
theorem shift_recordReceipt (config : RuntimeConfig) (ch : Choice) (s : ModelRuntime) :
    Shift s.ledger (s.recordReceipt config ch).ledger := by
  rw [recordReceipt]
  split
  · exact .same
  · cases hgate : config.gateEnabled with
    | false =>
      rw [Bool.or_false]
      exact .same
    | true =>
      rw [Bool.or_true]
      exact .direct

/-- The ledger notes at most that the admission is closed. -/
theorem shift_closeModelAdmission (config : RuntimeConfig) (ch : Choice) (s : ModelRuntime) :
    Shift s.ledger (s.closeModelAdmission config ch).ledger := by
  have hreceipt : ∀ s : ModelRuntime, s.admissionClosed = true →
      (s.recordReceipt config ch).ledger = s.ledger := by
    intro s hs
    rw [recordReceipt]
    split
    · rfl
    · rw [hs, Bool.true_or, ← hs]
  rw [closeModelAdmission]
  cases hclosed : s.admissionClosed with
  | false =>
    rw [hreceipt _ (by simp [closed, hclosed]), closed, if_neg (by simp [hclosed])]
    exact .close hclosed
  | true =>
    rw [hreceipt _ (by simp [closed, hclosed]), closed, if_pos hclosed]
    exact .same

/-- The admission is opened, and may be closed again for the receipt. -/
theorem shift_reopen (config : RuntimeConfig) (ch : Choice) (hinactive : s.transitionActive = false) :
    Shift s.ledger ({ s with admissionClosed := false }.recordReceipt config ch).ledger := by
  rw [recordReceipt]
  split
  · exact .reopen hinactive
  · cases hgate : config.gateEnabled with
    | false => exact .reopen hinactive
    | true => exact .direct

/-- It notes at most that the admission is open again. -/
theorem shift_reopenModelAdmission (config : RuntimeConfig) (ch : Choice) (s : ModelRuntime) :
    Shift s.ledger (s.reopenModelAdmission config ch).1.ledger := by
  rw [reopenModelAdmission]
  split
  · exact .same
  · next h =>
    simp only [Bool.or_eq_true, not_or, Bool.not_eq_true] at h
    exact shift_reopen config ch h.2

/-- A wait for the admission moves the ledger no further. -/
theorem shift_waitForModelAdmission (config : RuntimeConfig) (ch : Choice) (s : ModelRuntime) :
    Shift s.ledger (s.waitForModelAdmission config ch).1.ledger := by
  rw [waitForModelAdmission]
  split
  · exact .same
  · split
    · exact .same
    · split
      · exact .same
      · next hactive =>
        split
        · exact .same
        · split
          · exact .same
          · split
            · exact .same
            · split
              · exact shift_reopen config ch (by simpa using hactive)
              · exact .same

/-- An allocation failure is counted beside the ledger. -/
theorem shift_countOutOfMemory (config : RuntimeConfig) (ch : Choice) (s : ModelRuntime) :
    Shift s.ledger (countOutOfMemory config ch s).1.ledger := by
  rw [countOutOfMemory]
  split
  · exact shift_recordReceipt config ch s
  · exact .same

/-! ## The steps -/

/-- What a step of a thread is to the protocol. -/
def Conforms (config : RuntimeConfig) (s : ModelRuntime) (p : Point) (r : ModelRuntime × Point) : Prop :=
  Protocol config s.ledger (p.phase config) r.1.ledger (r.2.phase config)

/-- A step that leaves the phase of its thread only shifts the ledger. -/
theorem conforms_of_shift {r : ModelRuntime × Point} (h : Shift s.ledger r.1.ledger)
    (hphase : r.2.phase config = p.phase config) : Conforms config s p r := by
  rw [Conforms, hphase]
  exact .shift _ h

/-- An idle thread begins a call. -/
theorem conforms_stepIdle {r : ModelRuntime × Point} (h : stepIdle config ch s = some r) :
    Conforms config s .idle r := by
  rw [stepIdle] at h
  split at h
  · obtain rfl := Option.some.inj h
    exact conforms_of_shift .same rfl
  · obtain rfl := Option.some.inj h
    exact conforms_of_shift .same rfl
  · obtain rfl := Option.some.inj h
    exact .call _
  · split at h
    · next hticket =>
      obtain rfl := Option.some.inj h
      exact .redeem _ hticket
    · cases h
  · obtain rfl := Option.some.inj h
    exact conforms_of_shift (shift_closeModelAdmission config ch s) rfl
  · obtain rfl := Option.some.inj h
    exact conforms_of_shift (shift_reopenModelAdmission config ch s) rfl
  · split at h
    · obtain rfl := Option.some.inj h
      exact conforms_of_shift .same rfl
    · obtain rfl := Option.some.inj h
      exact .commit
  · obtain rfl := Option.some.inj h
    exact conforms_of_shift (shift_recordReceipt config ch s) rfl

/-- A new selection is published while no transition is active. -/
theorem shift_publishSelection (config : RuntimeConfig) (ch : Choice) (generation count : ℕ) (active : Bool)
    (hinactive : s.transitionActive = false) :
    Shift s.ledger (s.publishSelection config ch generation count active).ledger := by
  rw [publishSelection]
  simp only [recordReceipt]
  generalize (!(ch.admitted && controllerOpen ch &&
    !(decide (s.releaseGeneration ≠ generation) || decide (s.transitions.length ≠ count) || active)))
    = closed
  split
  · cases closed with
    | false => exact .reopen hinactive
    | true => exact .direct
  · cases closed with
    | true => exact .direct
    | false =>
      cases config.gateEnabled with
      | false => exact .reopen hinactive
      | true => exact .direct

/-- A model is selected. -/
theorem conforms_stepSelecting {r : ModelRuntime × Point} {generation count : ℕ} {active : Bool}
    (h : stepSelecting config ch s generation count active = some r) :
    Conforms config s (.selecting generation count active) r := by
  rw [stepSelecting] at h
  split at h
  · split at h
    · obtain rfl := Option.some.inj h
      exact conforms_of_shift .same rfl
    · cases h
  · next hactive =>
    split at h
    · obtain rfl := Option.some.inj h
      exact conforms_of_shift .same rfl
    · obtain rfl := Option.some.inj h
      refine conforms_of_shift (shift_publishSelection config ch _ _ _ (by simpa using hactive)) ?_
      dsimp only
      split <;> rfl

/-- A recovery is outside of all sections, wherever it came from. -/
theorem phase_point (origin : RecoveryOrigin) : origin.point.phase config = .outside none := by
  rcases origin with kind | kind | _
  · rfl
  · cases kind <;> rfl
  · rfl

/-- A wait in front of the admission. -/
theorem conforms_stepWaiting {r : ModelRuntime × Point} {kind : SlotKind}
    (h : stepWaiting config ch s kind = some r) : Conforms config s (.waiting kind) r := by
  have hshift := shift_waitForModelAdmission config ch s
  rw [stepWaiting] at h
  rcases hwait : s.waitForModelAdmission config ch with ⟨s₁, result⟩
  rw [hwait] at h hshift
  cases result <;>
  · obtain rfl := Option.some.inj h
    exact conforms_of_shift hshift rfl

/-- The admission is opened again. -/
theorem conforms_stepReopening {r : ModelRuntime × Point} {origin : RecoveryOrigin}
    (h : stepReopening config ch s origin = some r) : Conforms config s (.reopening origin) r := by
  have hshift := shift_reopenModelAdmission config ch s
  rw [stepReopening] at h
  split at h
  · obtain rfl := Option.some.inj h
    exact conforms_of_shift .same rfl
  · rcases hreopen : s.reopenModelAdmission config ch with ⟨s₁, reopening⟩
    rw [hreopen] at h hshift
    cases reopening <;> obtain rfl := Option.some.inj h
    · exact conforms_of_shift hshift rfl
    · exact conforms_of_shift hshift (phase_point origin)
    · exact conforms_of_shift hshift rfl

/-- A permit is taken under the gate. -/
theorem conforms_stepAcquiring {r : ModelRuntime × Point} {kind : SlotKind} {generation : ℕ}
    (h : stepAcquiring ch s kind generation = some r) :
    Conforms config s (.acquiring kind generation) r := by
  rw [stepAcquiring] at h
  split at h
  · obtain rfl := Option.some.inj h
    exact conforms_of_shift .same rfl
  · split at h
    · cases h
    · next hpermits =>
      obtain rfl := Option.some.inj h
      exact .take _ (Nat.succ_pred_eq_of_ne_zero hpermits).symm

/-- The generation is looked at again behind it. -/
theorem conforms_stepValidating {r : ModelRuntime × Point} {kind : SlotKind} {generation : ℕ}
    (h : stepValidating ch s kind generation = some r) :
    Conforms config s (.validating kind generation) r := by
  rw [stepValidating] at h
  split at h
  · next hvalid =>
    obtain rfl := Option.some.inj h
    simp only [slotValid, Bool.and_eq_true, Bool.not_eq_true', decide_eq_true_eq] at hvalid
    obtain ⟨⟨⟨_, hopen⟩, hinactive⟩, rfl⟩ := hvalid
    exact .grant hopen hinactive
  · obtain rfl := Option.some.inj h
    exact conforms_of_shift .same rfl

/-- The resident model is looked at under the load lock. -/
theorem conforms_stepChecking (kind : SlotKind) (generation : ℕ) :
    Conforms config s (.checking kind generation) (stepChecking config ch s kind generation) := by
  rw [stepChecking]
  split
  · exact conforms_of_shift .same rfl
  · split
    · next hmodel => exact .find _ (Option.isSome_iff_ne_none.1 hmodel)
    · next hmodel =>
      split
      · exact conforms_of_shift (shift_closeModelAdmission config ch s) rfl
      · split
        · exact conforms_of_shift .same rfl
        · exact .load _ (Option.not_isSome_iff_eq_none.1 hmodel)

/-- The model is loaded, or that fails. -/
theorem conforms_stepLoading (kind : SlotKind) (generation : ℕ) :
    Conforms config s (.loading kind generation) (stepLoading ch s kind generation) := by
  rw [stepLoading]
  split
  · exact conforms_of_shift .same rfl
  · exact conforms_of_shift .same rfl
  · exact .fail _ .same

/-- A failure to allocate is counted. -/
theorem conforms_stepCounting (kind : SlotKind) (generation : ℕ) :
    Conforms config s (.counting kind generation) (stepCounting config ch s kind generation) := by
  rw [stepCounting]
  split
  · exact conforms_of_shift (shift_countOutOfMemory config ch s) rfl
  · exact .fail _ (shift_countOutOfMemory config ch s)

/-- A failed load closes the admission for a while. -/
theorem conforms_stepDeferring (kind : SlotKind) (generation : ℕ) :
    Conforms config s (.deferring kind generation) (stepDeferring config ch s kind generation) := by
  have hshift := shift_closeModelAdmission config ch
    { s with loadAllocationFailures := s.loadAllocationFailures + 1 }
  exact .fail _ hshift

/-- A loaded model is published, unless it came too late. -/
theorem conforms_stepPublishing (kind : SlotKind) (generation : ℕ) :
    Conforms config s (.publishing kind generation) (stepPublishing config ch s kind generation) := by
  rw [stepPublishing, publishModel]
  cases hwritten : ch.receiptWritten with
  | true => exact .publish _
  | false =>
    cases hunloaded : ch.unloaded with
    | true =>
      have h : Protocol config _ _ _ _ := .discard generation (shift_recordReceipt config ch s) false
      simp only [recordReceipt, hwritten] at h
      simp only [recordReceipt, hwritten, unload]
      exact h
    | false =>
      have h : Protocol config _ _ _ _ := .discard generation (shift_recordReceipt config ch s) true
      simp only [recordReceipt, hwritten] at h
      simp only [recordReceipt, hwritten]
      exact h

/-- The load lock is given back. -/
theorem conforms_stepUnlocking (kind : SlotKind) (generation : ℕ) (outcome : Option SlotOutcome) :
    Conforms config s (.unlocking kind generation outcome)
      (stepUnlocking ch s kind generation outcome) := by
  rcases outcome with _ | outcome
  · cases kind with
    | transcribe => exact .infer _
    | start => exact .unlockLoaded _
  · rw [stepUnlocking]
    split <;> exact .unlock _

/-- An inference ends. -/
theorem conforms_stepRunning (generation : ℕ) :
    Conforms config s (.running generation) (stepRunning config ch s generation) := by
  rw [stepRunning]
  split
  · exact .inferred _
  · exact .inferred _
  · exact .inferred _
  · refine conforms_of_shift (shift_closeModelAdmission config ch s) ?_
    dsimp only
    split <;> rfl
  · exact conforms_of_shift (shift_closeModelAdmission config ch s) rfl

/-- A permit is given back behind an allocation failure. -/
theorem conforms_stepExhausted (generation : ℕ) :
    Conforms config s (.exhausted generation) (stepExhausted config ch s generation) := by
  rw [stepExhausted]
  split <;> exact conforms_of_shift (shift_countOutOfMemory config ch s) rfl

/-- A permit is given back. -/
theorem conforms_stepLeft (kind : SlotKind) (generation : ℕ) (outcome : SlotOutcome) :
    Conforms config s (.left kind generation outcome) (stepLeft s kind generation outcome) := by
  cases outcome with
  | returned => exact .forget _ .same
  | raised => exact .forget _ .same
  | ticket => exact .ticket _ .same
  | stale => exact .forget _ .same
  | capacity => exact .forget _ .same
  | allocation attempts => exact .retry _ _

/-- A ticket is bound in the ledger when it is bound in the runtime. -/
theorem ledger_bind (s : ModelRuntime) (source : Option ℤ) (t : ℕ) :
    (s.bind source t).ledger = s.ledger.bound source t := by
  cases source <;> rfl

/-- The admission is closed behind a new transition, so that its receipt does not change it. -/
theorem ledger_openTransition (config : RuntimeConfig) (ch : Choice) (s : ModelRuntime)
    (source : Option ℤ) (t : ℕ) :
    ((s.openTransition.bind source t).recordReceipt config ch).ledger =
      s.ledger.opened.bound source t := by
  have hledger : (s.openTransition.bind source t).ledger = s.ledger.opened.bound source t :=
    ledger_bind _ _ _
  rw [← hledger, recordReceipt]
  split
  · rfl
  · cases source <;> rfl

/-- A call for a release finds a transition, begins one or has nothing to do. -/
theorem conforms_stepDeciding (call : ReleaseCall) :
    Conforms config s (.deciding call) (stepDeciding config ch s call) := by
  cases hserved : s.last.any (s.servedBy call.source) with
  | true =>
    have hstep : stepDeciding config ch s call = (s.bind call.source (s.transitions.length - 1),
        .joining call (s.transitions.length - 1)) := by
      rw [stepDeciding, decideRelease, if_pos hserved]
    rw [hstep, Conforms, ledger_bind]
    exact .join call hserved
  | false =>
    have hopened := ledger_openTransition config ch s call.source s.transitions.length
    have hnot : ¬ s.last.any (s.servedBy call.source) = true := by rw [hserved]; decide
    rw [stepDeciding, decideRelease, if_neg hnot]
    cases hwritten : ch.receiptWritten with
    | true =>
      rw [if_pos rfl, Conforms, hopened]
      exact .own call hserved
    | false =>
      rw [if_neg (by decide), Conforms, hopened]
      exact .abandon call hserved

/-- It joins a transition that another thread began. -/
theorem conforms_stepJoining {r : ModelRuntime × Point} {call : ReleaseCall} {t : ℕ}
    (h : stepJoining s call t = some r) : Conforms config s (.joining call t) r := by
  rw [stepJoining] at h
  split at h
  · cases h
  · next transition ht =>
    split at h
    · cases h
    · next hcomplete =>
      split at h
      · obtain rfl := Option.some.inj h
        exact .joinedFailure call t
      · next hfailed =>
        obtain rfl := Option.some.inj h
        exact .joined call t transition ht (by simpa using hcomplete) (by simpa using hfailed)

/-- The permits are taken one after the other. -/
theorem conforms_stepDraining {r : ModelRuntime × Point} {call : ReleaseCall} {t taken : ℕ}
    (h : stepDraining config s call t taken = some r) :
    Conforms config s (.draining call t taken) r := by
  rw [stepDraining] at h
  split at h
  · next htaken =>
    split at h
    · cases h
    · next hpermits =>
      obtain rfl := Option.some.inj h
      exact .drain call t taken _ (Nat.succ_pred_eq_of_ne_zero hpermits).symm htaken
  · next htaken =>
    rw [lockLoad] at h
    split at h
    · cases h
    · next hlock =>
      obtain rfl := Option.some.inj h
      exact .lockRelease call t taken (not_lt.1 htaken) (Bool.not_eq_true _ ▸ hlock)

/-- With all permits the resident model is looked at. -/
theorem conforms_stepExamining (call : ReleaseCall) (t : ℕ) :
    Conforms config s (.examining call t) (stepExamining ch s call t) := by
  rw [stepExamining]
  split
  · next hidle =>
    rw [Bool.and_eq_true] at hidle
    have habort : (s.abortRelease t).ledger =
        if s.ledger.model = none then s.ledger.emptied t else s.ledger := by
      rw [abortRelease]
      cases hmodel : s.model with
      | none => simp [ledger, hmodel, updateTransition, Ledger.emptied, Ledger.update]
      | some m => simp [ledger, hmodel]
    rw [Conforms, habort]
    exact .abort call t hidle.1
  · exact conforms_of_shift .same rfl

/-- An unload is noted in the ledger. -/
theorem ledger_unload (s : ModelRuntime) (source : Option ℤ) (t : ℕ) :
    (s.unload fun m => [.unloaded m source t]).ledger = s.ledger.unloaded source t := by
  rw [unload]
  cases hmodel : s.model with
  | none => simp [ledger, Ledger.unloaded, hmodel]
  | some m => simp [ledger, Ledger.unloaded, hmodel]

/-- Only a receipt that cannot be written shows in it. -/
theorem ledger_recordReceipt (config : RuntimeConfig) (ch : Choice) (s : ModelRuntime) :
    (s.recordReceipt config ch).ledger =
      if ch.receiptWritten then s.ledger
      else { s.ledger with closed := s.ledger.closed || config.gateEnabled } := by
  rw [recordReceipt]
  split <;> rfl

/-- The model is unloaded, or that fails. -/
theorem conforms_stepUnloading (call : ReleaseCall) (t : ℕ) :
    Conforms config s (.unloading call t) (stepUnloading config ch s call t) := by
  have hemptied : ((s.unload fun m => [.unloaded m call.source t]).updateTransition t
      ({ · with emptied := true })).ledger = (s.ledger.unloaded call.source t).emptied t := by
    rw [← ledger_unload]
    rfl
  have hfailed : ∀ didUnload, ReleaseResult.failed didUnload ≠ .aborted := by decide
  have hdone : ∀ didUnload, ReleaseResult.done didUnload ≠ .aborted := by decide
  rw [stepUnloading, unloadForRelease]
  split
  · exact .keep call t
  · dsimp only
    split
    · -- The receipt only changes the admission, before the model is unloaded or behind it.
      have h : Protocol config s.ledger _ _ _ :=
        .unload call t _ (hfailed s.model.isSome) (shift_recordReceipt config ch s)
      rw [ledger_recordReceipt] at h
      rw [Conforms, ledger_recordReceipt, hemptied]
      split at h
      · next hwritten => rwa [if_pos hwritten]
      · next hwritten => rwa [if_neg hwritten]
    · split
      · rw [Conforms, hemptied]
        exact .unload call t _ (hfailed _) .same
      · rw [Conforms, hemptied]
        exact .unload call t _ (hdone _) .same

/-- The load lock is given back behind a release. -/
theorem conforms_stepUnlockingRelease (call : ReleaseCall) (t : ℕ) (result : ReleaseResult) :
    Conforms config s (.unlockingRelease call t result) (stepUnlockingRelease config s call t result) := by
  rw [stepUnlockingRelease]
  split <;> exact .unlockRelease call t result

/-- The permits are given back one after the other. -/
theorem conforms_stepReturning (call : ReleaseCall) (t taken : ℕ) (result : ReleaseResult) :
    Conforms config s (.returning call t taken result) (stepReturning s call t taken result) := by
  cases taken with
  | zero => exact conforms_of_shift .same rfl
  | succ n => exact .giveBack call t n result

/-- The completion of a ticket is noted, and perhaps that the admission is closed. -/
theorem ledger_completeRelease (config : RuntimeConfig) (ch : Choice) (s : ModelRuntime) (t : ℕ)
    (result : ReleaseResult) :
    ∃ closed, (closed = s.ledger.closed ∨ result.isFailed = false) ∧
      (s.completeRelease config ch t result).ledger =
        { s.ledger.completed t result with closed := closed } := by
  rw [completeRelease]
  dsimp only
  split
  · next hopen =>
    rw [Bool.and_eq_true, Bool.not_eq_true'] at hopen
    rw [ledger_recordReceipt]
    split
    · exact ⟨_, .inr hopen.1, rfl⟩
    · exact ⟨_, .inr hopen.1, rfl⟩
  · exact ⟨_, .inl rfl, rfl⟩

/-- A transition is completed. -/
theorem conforms_stepCompleting (call : ReleaseCall) (t : ℕ) (result : ReleaseResult) :
    Conforms config s (.completing call t result) (stepCompleting config ch s call t result) := by
  obtain ⟨closed, hclosed, hledger⟩ := ledger_completeRelease config ch s t result
  rw [stepCompleting.eq_def, Conforms, hledger]
  refine .complete call t result closed hclosed ?_
  dsimp only
  split
  · exact .inl rfl
  · cases result with
    | done didUnload => exact .inr ⟨rfl, rfl⟩
    | aborted => exact .inr ⟨rfl, rfl⟩
    | failed didUnload => exact .inl rfl

/-- The admission is opened again behind a release of an idle model. -/
theorem conforms_stepReopeningIdle (call : ReleaseCall) :
    Conforms config s (.reopeningIdle call) (stepReopeningIdle config ch s call) := by
  have hshift := shift_reopenModelAdmission config ch s
  rw [stepReopeningIdle]
  rcases hreopen : s.reopenModelAdmission config ch with ⟨s₁, reopening⟩
  rw [hreopen] at hshift
  cases reopening with
  | refused => exact conforms_of_shift hshift rfl
  | reopened => exact conforms_of_shift hshift rfl
  | raised => exact .done call hshift

/-- A call for a release returns. -/
theorem conforms_released (call : ReleaseCall) (result : Bool) :
    Conforms config s (.released call result) (s, stepReleased call) := by
  have hphase : (stepReleased call).phase config = .outside none := by
    rw [stepReleased]
    split
    · rfl
    · split <;> rfl
  rw [Conforms, hphase]
  exact .done call .same

/-- A preparation is committed. -/
theorem conforms_stepCommitting (generation : ℤ) :
    Conforms config s (.committing generation) (stepCommitting ch s generation) := by
  rw [stepCommitting]
  split
  · exact conforms_of_shift .same rfl
  · exact .forget _ .same

/-- A preparation is rejected, and the admission closed. -/
theorem conforms_stepRejecting (generation : ℤ) :
    Conforms config s (.rejecting generation) (stepRejecting config ch s generation) := by
  have hshift := shift_closeModelAdmission config ch s
  rw [stepRejecting]
  split
  · exact .ticket _ hshift
  · exact .forget _ hshift

/-- The first selection. -/
theorem conforms_stepStarting {r : ModelRuntime × Point} (h : stepStarting ch s = some r) :
    Conforms config s .starting r := by
  rw [stepStarting] at h
  split at h
  · obtain rfl := Option.some.inj h
    exact conforms_of_shift .same rfl
  · split at h
    · cases h
    · split at h
      · obtain rfl := Option.some.inj h
        exact conforms_of_shift .same rfl
      · split at h <;>
        · obtain rfl := Option.some.inj h
          exact conforms_of_shift .same rfl

/-- A selection that takes the place of another. -/
theorem conforms_stepReselecting {r : ModelRuntime × Point} (h : stepReselecting ch s = some r) :
    Conforms config s .reselecting r := by
  rw [stepReselecting] at h
  split at h
  · obtain rfl := Option.some.inj h
    exact conforms_of_shift .same rfl
  · split at h
    · obtain rfl := Option.some.inj h
      exact conforms_of_shift .same rfl
    · split at h
      · cases h
      · obtain rfl := Option.some.inj h
        exact conforms_of_shift .same rfl

/-- The preparation of a model begins. -/
theorem conforms_stepPreparing {r : ModelRuntime × Point} (h : stepPreparing ch s = some r) :
    Conforms config s .preparing r := by
  rw [stepPreparing] at h
  split at h
  · cases h
  · obtain rfl := Option.some.inj h
    exact conforms_of_shift .same rfl

/-- A section asks for its permit. -/
theorem conforms_stepAdmitting {r : ModelRuntime × Point} {kind : SlotKind}
    (h : stepAdmitting ch s kind = some r) : Conforms config s (.admitting kind) r := by
  rw [stepAdmitting] at h
  split at h <;>
  · obtain rfl := Option.some.inj h
    exact conforms_of_shift .same rfl

/-- A recovery that was begun. -/
theorem conforms_stepRecovering {r : ModelRuntime × Point} {origin : RecoveryOrigin}
    (h : stepRecovering ch s origin = some r) : Conforms config s (.recovering origin) r := by
  rw [stepRecovering] at h
  split at h
  · obtain rfl := Option.some.inj h
    exact conforms_of_shift .same rfl
  · split at h <;>
    · obtain rfl := Option.some.inj h
      exact conforms_of_shift .same rfl

/-- The state of the gate is read. -/
theorem conforms_stepReading {r : ModelRuntime × Point} {kind : SlotKind}
    (h : stepReading s kind = some r) : Conforms config s (.reading kind) r := by
  rw [stepReading] at h
  split at h <;>
  · obtain rfl := Option.some.inj h
    exact conforms_of_shift .same rfl

/-- The load lock is taken. -/
theorem conforms_locking {r : ModelRuntime × Point} {kind : SlotKind} {generation : ℕ}
    (h : lockLoad s (.checking kind generation) = some r) :
    Conforms config s (.locking kind generation) r := by
  rw [lockLoad] at h
  split at h
  · cases h
  · next hlock =>
    obtain rfl := Option.some.inj h
    exact .lock _ (Bool.not_eq_true _ ▸ hlock)

/-- A profile that is marked as unhealthy closes the admission. -/
theorem shift_markModelProfileUnhealthy (config : RuntimeConfig) (ch : Choice) (s : ModelRuntime) :
    Shift s.ledger (s.markModelProfileUnhealthy config ch).ledger := by
  rw [markModelProfileUnhealthy, recordReceipt]
  split <;> exact .direct

/-- Every step of a thread is one of the protocol. -/
theorem conforms_step {r : ModelRuntime × Point} (h : step config ch s p = some r) :
    Conforms config s p r := by
  -- One lemma for each point of the program; what only shifts the counts or leaves is direct.
  cases p with
  | idle => exact conforms_stepIdle h
  | starting => exact conforms_stepStarting h
  | selecting generation count active => exact conforms_stepSelecting h
  | reselecting => exact conforms_stepReselecting h
  | preparing => exact conforms_stepPreparing h
  | admitting kind => exact conforms_stepAdmitting h
  | waiting kind => exact conforms_stepWaiting h
  | recovering origin => exact conforms_stepRecovering h
  | reopening origin => exact conforms_stepReopening h
  | reading kind => exact conforms_stepReading h
  | acquiring kind generation => exact conforms_stepAcquiring h
  | validating kind generation => exact conforms_stepValidating h
  | refusing kind => exact Option.some.inj h ▸ .giveUp
  | locking kind generation => exact conforms_locking h
  | checking kind generation => exact Option.some.inj h ▸ conforms_stepChecking kind generation
  | loading kind generation => exact Option.some.inj h ▸ conforms_stepLoading kind generation
  | counting kind generation => exact Option.some.inj h ▸ conforms_stepCounting kind generation
  | deferring kind generation => exact Option.some.inj h ▸ conforms_stepDeferring kind generation
  | publishing kind generation => exact Option.some.inj h ▸ conforms_stepPublishing kind generation
  | unlocking kind generation outcome =>
    exact Option.some.inj h ▸ conforms_stepUnlocking kind generation outcome
  | running generation => exact Option.some.inj h ▸ conforms_stepRunning generation
  | unwinding generation outcome => exact Option.some.inj h ▸ .inferred _
  | exhausted generation => exact Option.some.inj h ▸ conforms_stepExhausted generation
  | closing generation =>
    exact Option.some.inj h ▸ conforms_of_shift (shift_closeModelAdmission config ch s) rfl
  | leaving kind generation outcome => exact Option.some.inj h ▸ .leave _
  | left kind generation outcome => exact Option.some.inj h ▸ conforms_stepLeft kind generation outcome
  | marking =>
    exact Option.some.inj h ▸ conforms_of_shift (shift_markModelProfileUnhealthy config ch s) rfl
  | deciding call => exact Option.some.inj h ▸ conforms_stepDeciding call
  | joining call t => exact conforms_stepJoining h
  | draining call t taken => exact conforms_stepDraining h
  | examining call t => exact Option.some.inj h ▸ conforms_stepExamining call t
  | unloading call t => exact Option.some.inj h ▸ conforms_stepUnloading call t
  | unlockingRelease call t result =>
    exact Option.some.inj h ▸ conforms_stepUnlockingRelease call t result
  | failing call t result => exact Option.some.inj h ▸ conforms_of_shift .direct rfl
  | returning call t taken result =>
    exact Option.some.inj h ▸ conforms_stepReturning call t taken result
  | completing call t result => exact Option.some.inj h ▸ conforms_stepCompleting call t result
  | reopeningIdle call => exact Option.some.inj h ▸ conforms_stepReopeningIdle call
  | released call result => exact Option.some.inj h ▸ conforms_released call result
  | committing generation => exact Option.some.inj h ▸ conforms_stepCommitting generation
  | rejecting generation => exact Option.some.inj h ▸ conforms_stepRejecting generation

end Subgen

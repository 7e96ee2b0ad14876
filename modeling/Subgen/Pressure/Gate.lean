import Subgen.Pressure.Controller
import Mathlib.Data.Rat.Floor

/-!
# The priority gate

The procedures of the controller that take in an observation of the priority signal, and
those that make the state of the gate durable. Each of them runs under the lock of the
controller, so that a call is one step for every other thread; what it wrote before it
raised stays written.

An observation is *critical* if it asserts, is unavailable or comes from a new epoch of the producer; it
closes the gate and sends the controller into a retreat. A clear observation counts towards the recovery if it
is a new publication whose generation is above the high water of those that were reported before, so that one
that is repeated counts once. Which of the two an observation is depends on its own fields, and stands in small
predicates (`critical`, `resets`, `counts`, `repeats`).

* `pollPriorityLocked`: the signal is read, if it is time;
* `applyPriority`: what an observation does to the gate;
* `publishTransitionLocked`: the receipt of a transition, and what happens when it cannot be written.
-/

namespace Subgen

open Procedure

/-- A procedure of the controller. -/
abbrev PressureM (W : Type) := EStateM Exc (PressureSession W)

namespace PriorityObservation

variable (o : PriorityObservation)

/-- A workload of higher priority needs the machine, or might. -/
def external : Bool := o.state = .asserted || o.state = .unavailable

/-- What closes the gate at once. -/
def critical : Bool := o.external || o.producerEpochChanged

/-- What the clear publications are counted from. -/
def resets : Bool :=
  o.state = .asserted || o.state = .neutral || o.state = .unavailable || o.producerEpochChanged

/-- A clear publication that was not there before. -/
def counts : Bool := o.state = .clear && o.newPublication && !o.producerEpochChanged

/-- A clear publication once more. -/
def repeats : Bool := o.state = .clear && !o.newPublication && !o.producerEpochChanged

end PriorityObservation

/-- The fields whose change needs a receipt. -/
structure ReceiptKey where
  state : ControllerState
  admissionOpen : Bool
  recoveryReason : Option String
  observation : PriorityObservation
  transitionObservationDigest : Option String
  transitionSequence : ℕ
  distinctClearCount : ℕ
  generationHighWater : Option ℤ
  deriving DecidableEq

variable {W : Type}

namespace PressureSession

variable (σ : PressureSession W)

/-- The session with another controller. -/
def update (f : PressureController → PressureController) : PressureSession W :=
  { σ with controller := f σ.controller }

/-- The session with one event more. -/
def record (event : ControllerEvent) : PressureSession W :=
  { σ with history := event :: σ.history }

end PressureSession

namespace PressureController

/-! ## Access to the session -/

/-- `self`. -/
def self : PressureM W PressureController := PressureSession.controller <$> get

/-- An assignment to fields of `self`. -/
def update (f : PressureController → PressureController) : PressureM W Unit := modify (·.update f)

/-- An event is recorded. -/
def record (event : ControllerEvent) : PressureM W Unit := modify (·.record event)

/-- `self._state = state`. -/
def enter (state : ControllerState) : PressureM W Unit :=
  modify fun σ => (σ.update ({ · with state := state })).record (.entered state)

/-- A callback, which sees nothing of the controller. -/
def callback {α : Type} (m : EStateM Exc W α) : PressureM W α :=
  zoom PressureSession.world (fun σ w => { σ with world := w }) m

/-- A reading of the clock. -/
def now (env : PressureEnvironment W) : PressureM W ℚ :=
  callback (modifyGet fun w => env.clock w)

/-! ## Recovery -/

/-- A controller whose recovery is complete. -/
def finished (c : PressureController) : PressureController :=
  { c with
    externalPressureRecoveryGeneration := c.externalPressureRecoveryGeneration +
      (if c.externalPressureEpisodePending then 1 else 0)
    externalPressureEpisodePending := false
    consecutiveHealthy := 0
    state := .normal
    recoveryReason := none
    admissionOpen := true }

/-- `_maybe_finish_recovery_locked`. -/
def maybeFinishRecoveryLocked : PressureM W Unit := do
  let c ← self
  if c.state = .recovering ∧ c.config.recoverySampleCount ≤ c.consecutiveHealthy ∧
      c.priorityRecoveryReady = true then
    if c.externalPressureEpisodePending = true ∧
        c.externalPressureRecoveryGeneration = maxGeneration then
      throw (.runtimeError "External pressure recovery generation exhausted")
    else
      modify fun σ => (σ.update finished).record (.finished c.externalPressureEpisodePending)
  else
    pure ()

/-! ## Observations -/

/-- `_validate_priority_observation`, less the checks of the types. -/
def validatePriorityObservation (o : PriorityObservation) : Except Exc Unit :=
  if o.configured = decide (o.state = .disabled) then
    .error (.valueError "Priority observation configuration is inconsistent")
  else if o.newPublication ∧ ¬ o.accepted then
    .error (.valueError "A new priority publication must be accepted")
  else if o.producerEpochChanged ∧ ¬ o.newPublication then
    .error (.valueError "A priority epoch change must be a new publication")
  else
    .ok ()

/-- `_priority_transition_locked`. -/
def priorityTransitionLocked (o : PriorityObservation) (previousState : PriorityState) :
    PressureM W Unit := do
  if o.state = previousState ∧ o.producerEpochChanged = false then
    pure ()
  else do
    let c ← self
    if c.priorityTransitionSequence = maxGeneration then
      throw (.runtimeError "Priority transition generation exhausted")
    else
      update ({ · with
        priorityTransitionSequence := c.priorityTransitionSequence + 1
        priorityTransitionObservationDigest := if o.accepted then o.observationDigest else none })

/-- The greater of a high-water mark and a generation. -/
def raised (highWater : Option ℤ) (generation : ℤ) : Option ℤ :=
  if highWater.all (· < generation) then some generation else highWater

/-- What an observation from which the clear publications are counted does to the counter. -/
def resetPriorityRecovery (o : PriorityObservation) : PressureM W Unit := do
  if o.resets then do
    update ({ · with priorityDistinctClearCount := 0 })
    match o.sourceGeneration with
    | none => pure ()
    | some generation =>
      if generation ≤ 0 then
        throw (.valueError "Priority source generation is invalid")
      else
        update fun c => { c with
          priorityRecoveryGenerationHighWater :=
            raised c.priorityRecoveryGenerationHighWater generation }
  else
    pure ()

/-- A clear publication counts once, if its generation is above every one before it. -/
def counted (c : PressureController) (generation : ℤ) : PressureController :=
  if c.priorityRecoveryGenerationHighWater.all (· < generation) then
    { c with
      priorityRecoveryGenerationHighWater := some generation
      priorityDistinctClearCount :=
        min priorityRecoveryClearCount (c.priorityDistinctClearCount + 1) }
  else
    c

/-- The counting of an observation. -/
def countClear (o : PriorityObservation) : PressureM W Unit := do
  if o.counts then
    match o.sourceGeneration with
    | none => throw (.valueError "Accepted clear priority input needs a generation")
    | some generation =>
      if generation ≤ 0 then
        throw (.valueError "Accepted clear priority input needs a generation")
      else
        update (counted · generation)
  else
    pure ()

/-- The gate, closed for the sake of the priority signal. -/
def closedForPriority (c : PressureController) : PressureController :=
  { c with
    admissionOpen := false
    consecutiveHealthy := 0
    recoveryReason := some "priority_pressure" }

/-- What an observation that was taken in does to the state. -/
def applyPriority (o : PriorityObservation) (modelResident : Bool) : PressureM W Unit := do
  if o.critical then do
    update closedForPriority
    enter (retreat modelResident)
  else if o.state = .neutral then do
    update closedForPriority
    let c ← self
    if c.state = .normal then enter .recovering else pure ()
  else do
    countClear o
    maybeFinishRecoveryLocked

/-- `self._priority_observation = observation`. -/
def take (o : PriorityObservation) : PressureM W Unit :=
  modify fun σ => (σ.update ({ · with priorityObservation := o })).record (.observed o)

/-- An observation that fits the configuration. -/
def takePriority (env : PressureEnvironment W) (o : PriorityObservation) (modelResident : Bool) :
    PressureM W Unit := do
  let c ← self
  take o
  let observedAt ← now env
  update ({ · with priorityObservedAt := some observedAt })
  priorityTransitionLocked o c.priorityObservation.state
  resetPriorityRecovery o
  update fun c => { c with
    externalPressureEpisodePending := c.externalPressureEpisodePending || o.external }
  applyPriority o modelResident

/-- `_observe_priority_locked`, whose result no caller uses. -/
def observePriorityLocked (env : PressureEnvironment W) (o : PriorityObservation)
    (modelResident : Bool) : PressureM W Unit := do
  ofExcept (validatePriorityObservation o)
  let c ← self
  if c.config.priorityConfigured = false then
    if o.configured = true ∨ o.state ≠ .disabled then
      throw (.valueError "Disabled priority control received configured input")
    else
      pure ()
  else if o.configured = false ∨ o.state = .disabled then
    throw (.valueError "Configured priority control received disabled input")
  else
    takePriority env o modelResident

/-! ## Snapshots and receipts -/

/-- `_coarse_recovery_reason_locked`. -/
def coarseRecoveryReason (c : PressureController) : Option String :=
  if c.state = .normal then
    none
  else if c.config.priorityConfigured ∧ ¬ c.priorityRecoveryReady then
    some "priority_pressure"
  else if c.recoveryReason = some "priority_pressure" then
    some "priority_pressure"
  else if c.recoveryReason.any (· ∈ ["no_safe_model", "insufficient_capacity",
      "model_load_profile_unhealthy", "model_load_allocation_failure",
      "release_during_selection"]) then
    some "model_admission"
  else
    some "resource_pressure"

/-- `_bounded_priority_age_locked`. -/
def boundedPriorityAge (c : PressureController) (value : Option ℤ) (now : ℚ) :
    Except Exc (Option ℤ) :=
  match value with
  | none => .ok none
  | some value =>
    if value < 0 then
      .error (.runtimeError "Priority age state is invalid")
    else
      match c.priorityObservedAt with
      | none => .ok (some (min 60000 value))
      | some observedAt => .ok (some (min 60000 (value + max 0 ⌊(now - observedAt) * 1000⌋)))

/-- The age of an observation, where a signal is configured. -/
def configuredAge (c : PressureController) (value : Option ℤ) (now : ℚ) : Except Exc (Option ℤ) :=
  if c.config.priorityConfigured then c.boundedPriorityAge value now else .ok none

/-- `_gate_priority_snapshot_locked`. -/
def gatePrioritySnapshotLocked (env : PressureEnvironment W) : PressureM W GateSnapshot := do
  let c ← self
  let time ← now env
  let configured := c.config.priorityConfigured
  let heartbeatAgeMs ← ofExcept (c.configuredAge c.priorityObservation.heartbeatAgeMs time)
  let sourceAgeMs ← ofExcept (c.configuredAge c.priorityObservation.sourceAgeMs time)
  pure {
    configured := configured
    state := if configured then c.priorityObservation.state else .disabled
    heartbeatAgeMs := heartbeatAgeMs
    sourceAgeMs := sourceAgeMs
    policySha256 := if configured then c.priorityObservation.policySha256 else none
    observationDigest := if configured then c.priorityObservation.observationDigest else none
    transitionObservationDigest :=
      if configured then c.priorityTransitionObservationDigest else none
    transitionSequence := if configured then c.priorityTransitionSequence else 0
    controllerPhase := c.state
    recoveryReason := c.coarseRecoveryReason
    distinctClearCount := if configured then c.priorityDistinctClearCount else 0
    sourceGeneration := if configured then c.priorityObservation.sourceGeneration else none
    admissionOpen := c.admissionOpen }

/-- The part of the poll behind the choice of the observation. -/
def takePolled (env : PressureEnvironment W) (time : ℚ) (o : PriorityObservation)
    (modelResident : Bool) : PressureM W (Option GateSnapshot) := do
  update ({ · with lastPriorityPollAt := some time })
  observePriorityLocked env o modelResident
  some <$> gatePrioritySnapshotLocked env

/-- The part of the poll with a signal configured. -/
def pollConfigured (env : PressureEnvironment W) (modelResident : Bool)
    (observation : Option PriorityObservation) (force : Bool) :
    PressureM W (Option GateSnapshot) := do
  let c ← self
  let time ← now env
  match observation with
  | some o => takePolled env time o modelResident
  | none =>
    if force = false ∧
        c.lastPriorityPollAt.any (time - · < c.config.priorityIntervalSeconds) = true then
      pure none
    else do
      let o ← callback env.readPriority
      takePolled env time o modelResident

/-- `_poll_priority_locked`. -/
def pollPriorityLocked (env : PressureEnvironment W) (modelResident : Bool)
    (observation : Option PriorityObservation) (force : Bool) :
    PressureM W (Option GateSnapshot) := do
  let c ← self
  if c.config.priorityConfigured then
    pollConfigured env modelResident observation force
  else
    match observation with
    | none => pure none
    | some o => do
      observePriorityLocked env o modelResident
      some <$> gatePrioritySnapshotLocked env

/-- `_receipt_transition_key_locked`. -/
def receiptTransitionKey (c : PressureController) : ReceiptKey :=
  ⟨c.state, c.admissionOpen, c.recoveryReason, c.priorityObservation,
    c.priorityTransitionObservationDigest, c.priorityTransitionSequence,
    c.priorityDistinctClearCount, c.priorityRecoveryGenerationHighWater⟩

/-- The gate behind a latch. -/
def latched (reason : String) (c : PressureController) : PressureController :=
  { c with
    admissionOpen := false
    recoveryReason := some reason
    consecutivePressure := 0
    consecutiveHealthy := 0 }

/-- `_latch_receipt_failure_locked`. -/
def latchReceiptFailureLocked : PressureM W Unit := do
  update (latched "receipt_unavailable")
  record .latched
  let c ← self
  if c.state = .yielding then pure () else enter .recovering

/-- `latch_release_failure_without_publication`. -/
def latchReleaseFailureLocked (modelResident : Bool) : PressureM W Unit := do
  update (latched "model_release_failed")
  record .latched
  enter (retreat modelResident)

/-- A receipt that cannot be made closes the gate. -/
def publishReceipt (env : PressureEnvironment W) : PressureM W Unit :=
  tryCatch
    (do
      let snapshot ← gatePrioritySnapshotLocked env
      callback (env.publish snapshot))
    fun e => do
      latchReceiptFailureLocked
      throw e

/-- `_publish_transition_locked`. -/
def publishTransitionLocked (env : PressureEnvironment W) (previous : PressureController)
    (force : Bool) : PressureM W Unit := do
  let c ← self
  if c.config.hasObserver = true ∧
      (force = true ∨ c.receiptTransitionKey ≠ previous.receiptTransitionKey) then
    publishReceipt env
  else
    pure ()

end PressureController

end Subgen

import Subgen.Lib.Procedure
import Subgen.Pressure.Priority

/-!
# The pressure controller

`PressureController` decides whether a model may be loaded. It yields under pressure,
recovers for as long as it takes to see enough healthy samples and, where a priority
signal is configured, enough distinct clear publications, and then admits loads again.

A procedure of the controller works on the controller and on the world of its callbacks:
the clock, the two readers and the observer that makes a receipt durable, which may do
and raise anything. What happens to the controller is recorded beside it, as a history
that nothing reads (`ControllerEvent`).
-/

namespace Subgen

open Procedure

/-- The states of the controller. -/
inductive ControllerState
  | normal
  | yielding
  | recovering
  deriving DecidableEq, Repr

/-- `_PRIORITY_RECOVERY_CLEAR_COUNT`. -/
def priorityRecoveryClearCount : ℕ := 3

/-- `_MAX_BYTES` as a bound of the two generations the controller counts. -/
def maxGeneration : ℕ := 2 ^ 63 - 1

/-! ## Configuration -/

/-- A configuration that passed the checks of `__init__`. -/
structure ControllerConfig where
  reserveBytes : Option ℤ
  gpuReserveBytes : Option ℤ
  expectedGpuDevice : Option String
  canonicalSharedCuda : Bool
  requireGpuTelemetry : Bool
  explicitModelAuthority : Bool
  selectedRequirement : Option ModelLoadRequirement
  requireCgroup : Bool
  sampleIntervalSeconds : ℚ
  priorityIntervalSeconds : ℚ
  recoverySampleCount : ℕ
  maximumSampleAgeSeconds : ℚ
  priorityConfigured : Bool
  hasObserver : Bool
  recoverySampleCount_pos : 0 < recoverySampleCount
  telemetry_reserve : requireGpuTelemetry = true → gpuReserveBytes.isSome = true

/-- Whether a requirement may be used with CUDA memory that is shared. -/
def ControllerConfig.canonicalRequirementAllowed (config : ControllerConfig)
    (requirement : ModelLoadRequirement) : Bool :=
  !config.canonicalSharedCuda || requirement.exactMatch ||
    (config.explicitModelAuthority && config.selectedRequirement = some requirement)

/-- The arguments of `__init__` that are not callbacks. -/
structure ControllerArguments where
  reserveBytes : Option ℤ
  gpuReserveBytes : Option ℤ
  expectedGpuDevice : Option String
  canonicalSharedCuda : Bool
  requireGpuTelemetry : Bool
  explicitModelAuthority : Bool
  selectedRequirement : Option ModelLoadRequirement
  recoveryRequirements : List ModelLoadRequirement
  requireCgroup : Bool
  sampleIntervalSeconds : ℚ
  priorityIntervalSeconds : ℚ
  recoverySampleCount : ℤ
  maximumWaitSeconds : ℚ
  maximumSampleAgeSeconds : ℚ
  priorityConfigured : Bool
  hasObserver : Bool
  hasTransitionLock : Bool

namespace ControllerArguments

variable (a : ControllerArguments)

/-- `_positive_finite_number`. -/
def positiveFiniteNumber (value : ℚ) (name : String) : Except Exc Unit := do
  let parsed ← requireTime (some value) name
  if parsed ≤ 0 then .error (.valueError (name ++ " must be positive")) else .ok ()

/-- What a recovery may be tried with. -/
def candidates : List ModelLoadRequirement :=
  match a.selectedRequirement with
  | none => a.recoveryRequirements
  | some requirement => [requirement]

/-- The checks of the times, in the order of the source. -/
def checkTimes : Except Exc Unit := do
  positiveFiniteNumber a.sampleIntervalSeconds "Sample interval"
  positiveFiniteNumber a.priorityIntervalSeconds "Priority sample interval"
  if a.priorityIntervalSeconds > 1 then
    .error (.valueError "Priority sample interval must not exceed one second")
  positiveFiniteNumber a.maximumWaitSeconds "Maximum wait"
  positiveFiniteNumber a.maximumSampleAgeSeconds "Maximum sample age"

/-- The checks of the wait and of the reserves. -/
def checkReserves : Except Exc Unit := do
  if a.maximumWaitSeconds < a.sampleIntervalSeconds then
    .error (.valueError "Maximum wait must not be below the sample interval")
  let _ ← optionalBytes a.reserveBytes "Host reserve" false
  match a.gpuReserveBytes with
  | none => .ok ()
  | some reserve => do
    let _ ← requireGpuReserveFloor reserve none "GPU reserve"
    .ok ()

/-- The check of the expected device. -/
def checkDevice : Except Exc Unit := do
  if a.expectedGpuDevice = some "" then
    .error (.valueError "Expected GPU device must be a non-empty string")
  if a.gpuReserveBytes.isSome ∧ a.expectedGpuDevice.isNone then
    .error (.valueError "GPU pressure control requires an exact GPU device")

/-- The checks of the priority arguments. -/
def checkAuthority : Except Exc Unit := do
  if a.hasObserver ≠ a.hasTransitionLock then
    .error (.valueError
      "priority_observer and priority_transition_lock must be configured together")
  if a.explicitModelAuthority ∧ a.selectedRequirement.isNone then
    .error (.valueError "Explicit model authority requires a fixed selected requirement")
  if a.canonicalSharedCuda ∧ a.candidates.any (fun item => !item.exactMatch &&
      !(a.explicitModelAuthority && a.selectedRequirement = some item)) then
    .error (.valueError "Canonical CUDA fallback requires explicit model authority")

/-- The configuration, if it passes every check. -/
def config : Except Exc ControllerConfig := do
  a.checkTimes
  if hcount : 0 < a.recoverySampleCount then do
    a.checkReserves
    a.checkDevice
    if htelemetry : a.requireGpuTelemetry = true ∧ a.gpuReserveBytes.isNone then
      .error (.valueError "Required GPU telemetry needs a reserve and exact device")
    else if hcanonical : a.canonicalSharedCuda = true ∧ a.gpuReserveBytes.isNone then
      .error (.valueError ("Canonical shared CUDA requires an explicit positive reserve " ++
        "and exact GPU device"))
    else do
      a.checkAuthority
      .ok {
        reserveBytes := a.reserveBytes
        gpuReserveBytes := a.gpuReserveBytes
        expectedGpuDevice := a.expectedGpuDevice
        canonicalSharedCuda := a.canonicalSharedCuda
        requireGpuTelemetry := a.requireGpuTelemetry || a.canonicalSharedCuda
        explicitModelAuthority := a.explicitModelAuthority
        selectedRequirement := a.selectedRequirement
        requireCgroup := a.requireCgroup
        sampleIntervalSeconds := a.sampleIntervalSeconds
        priorityIntervalSeconds := a.priorityIntervalSeconds
        recoverySampleCount := a.recoverySampleCount.toNat
        maximumSampleAgeSeconds := a.maximumSampleAgeSeconds
        priorityConfigured := a.priorityConfigured
        hasObserver := a.hasObserver
        recoverySampleCount_pos := by omega
        telemetry_reserve := by
          intro h
          cases hreserve : a.gpuReserveBytes with
          | some _ => rfl
          | none => simp_all }
  else
    .error (.valueError "Recovery sample count must be a positive integer")

end ControllerArguments

/-! ## The controller -/

/-- `PressureController`, with the fields that its methods use. -/
structure PressureController where
  config : ControllerConfig
  state : ControllerState
  admissionOpen : Bool
  recoveryReason : Option String
  recoveryRequirements : List ModelLoadRequirement
  lastPressureReasons : List String
  lastCriticalReasons : List String
  lastSample : Option PressureSample
  lastSampleAt : Option ℚ
  sampleToken : ℤ
  observedToken : ℤ
  consecutivePressure : ℕ
  consecutiveHealthy : ℕ
  consecutiveGpuUnavailable : ℕ
  lastOomCounts : Option ℤ × Option ℤ
  lastObservedAt : Option ℚ
  lastObservedSample : Option PressureSample
  lastPriorityPollAt : Option ℚ
  priorityObservation : PriorityObservation
  priorityObservedAt : Option ℚ
  priorityTransitionObservationDigest : Option String
  priorityTransitionSequence : ℕ
  priorityDistinctClearCount : ℕ
  priorityRecoveryGenerationHighWater : Option ℤ
  externalPressureEpisodePending : Bool
  externalPressureRecoveryGeneration : ℕ

namespace PressureController

/-- A controller as `__init__` leaves it. -/
def new (config : ControllerConfig) (recoveryRequirements : List ModelLoadRequirement) :
    PressureController :=
  { config := config
    state := if config.priorityConfigured then .recovering else .normal
    admissionOpen := !config.canonicalSharedCuda && !config.priorityConfigured
    recoveryReason := if config.priorityConfigured then some "priority_pressure" else none
    recoveryRequirements := recoveryRequirements
    lastPressureReasons := []
    lastCriticalReasons := []
    lastSample := none
    lastSampleAt := none
    sampleToken := 0
    observedToken := -1
    consecutivePressure := 0
    consecutiveHealthy := 0
    consecutiveGpuUnavailable := 0
    lastOomCounts := (none, none)
    lastObservedAt := none
    lastObservedSample := none
    lastPriorityPollAt := none
    priorityObservation := .bare (if config.priorityConfigured then .unavailable else .disabled)
      config.priorityConfigured
    priorityObservedAt := none
    priorityTransitionObservationDigest := none
    priorityTransitionSequence := 0
    priorityDistinctClearCount := 0
    priorityRecoveryGenerationHighWater := none
    externalPressureEpisodePending := false
    externalPressureRecoveryGeneration := 0 }

variable (c : PressureController)

/-- Enough clears were counted, or no signal is configured. -/
def priorityRecoveryReady : Bool :=
  !c.config.priorityConfigured ||
    (c.priorityObservation.state = .clear &&
      decide (priorityRecoveryClearCount ≤ c.priorityDistinctClearCount))

/-- The reserve of the host. -/
def reserveFor (sample : PressureSample) : Except Exc ℤ :=
  match c.config.reserveBytes with
  | some reserve => .ok reserve
  | none => hostReserveBytes sample.hostTotalBytes

/-- The device keeps its reserve free. -/
def gpuReserveFloorSatisfied (sample : PressureSample) : Bool :=
  match c.config.gpuReserveBytes with
  | none => true
  | some reserve =>
    match optionalBytes sample.gpuTotalBytes "GPU total" true with
    | .ok (some total) =>
      match gpuReserveFloorBytes (some total) with
      | .ok floor => floor ≤ reserve
      | .error _ => false
    | _ => false

/-- The state a model that is resident must leave, or one that is not can recover in. -/
def retreat (modelResident : Bool) : ControllerState :=
  if modelResident then .yielding else .recovering

end PressureController

/-- What is made durable of the gate. -/
structure GateSnapshot where
  configured : Bool
  state : PriorityState
  heartbeatAgeMs : Option ℤ
  sourceAgeMs : Option ℤ
  policySha256 : Option String
  observationDigest : Option String
  transitionObservationDigest : Option String
  transitionSequence : ℕ
  controllerPhase : ControllerState
  recoveryReason : Option String
  distinctClearCount : ℕ
  sourceGeneration : Option ℤ
  admissionOpen : Bool

/-- What happens to a controller: a sample processed while it recovers, whether it was pressured
    and whether it admits a recovery requirement; an observation of the priority signal; a release;
    a latch; an assignment of its state, also of the one it has; and a recovery that is complete,
    with whether it ends an external episode. -/
inductive ControllerEvent
  | sampled (observedAt : ℚ) (pressured admits : Bool)
  | observed (observation : PriorityObservation)
  | released
  | latched
  | entered (state : ControllerState)
  | finished (external : Bool)
  deriving DecidableEq

/-- The callbacks of a controller. -/
structure PressureEnvironment (W : Type) where
  clock : W → ℚ × W
  readSample : EStateM Exc W PressureSample
  readPriority : EStateM Exc W PriorityObservation
  publish : GateSnapshot → EStateM Exc W Unit

/-- A controller, the world of its callbacks, and its history, with the newest event first. -/
structure PressureSession (W : Type) where
  controller : PressureController
  world : W
  history : List ControllerEvent

end Subgen

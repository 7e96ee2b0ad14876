import Subgen.Envelopes.Codec
import Subgen.Selection.Select

/-!
# The profiler

`profile_model_envelope`, which measures one model in some cold cycles and writes a catalog with the envelope
of it. Nothing is known of the adapter that measures, of the pressure controller and of the files: each of
their answers may depend on all that happened before, the *history* of the run, and may be an exception.
What happens within a call belongs to it, such as the checks of the controller that the adapter makes while
it measures, or the readings of the adapter that the controller takes.

The two loops of the source are bounded by a number of rounds; a run that comes to that bound raises
`unfinished`, and is the beginning of a longer one. What is only printed is left out.
-/

namespace Subgen

namespace Envelopes

open Procedure

/-! ## Measurements -/

/-- What `_require_positive_bytes` lets through. -/
abbrev PositiveBytes := {n : ℤ // 0 < n ∧ n ≤ maxBytes}

/-- `ResourceUsage`. -/
structure ResourceUsage where
  hostUsedBytes : PositiveBytes
  cgroupUsedBytes : PositiveBytes
  deviceUsedBytes : PositiveBytes
  deriving DecidableEq

/-- The domains in which memory is used. -/
inductive Domain
  | host
  | cgroup
  | device
  deriving DecidableEq

/-- `getattr(usage, f"{domain}_used_bytes")`. -/
def ResourceUsage.used (u : ResourceUsage) : Domain → ℤ
  | .host => u.hostUsedBytes.1
  | .cgroup => u.cgroupUsedBytes.1
  | .device => u.deviceUsedBytes.1

/-- `ColdCycleMeasurement`, whose peak is not below its start. -/
structure ColdCycleMeasurement where
  preload : ResourceUsage
  peak : ResourceUsage
  preload_le_peak : ∀ domain, preload.used domain ≤ peak.used domain
  deriving DecidableEq

/-- What the profiler and its helpers raise, as far as it is told apart. -/
inductive ProfilerRaised
  | typeError (message : String)
  | valueError (message : String)
  | runtimeError (message : String)
  | profilingTelemetryError (message : String)
  | artifactValidationError (e : ArtifactValidationError)
  | explicitModelCapacityRefusal (decision : AdmissionDecision)
  | memoryPressureYield
  | safeProfilingFailure
  | allocationFailure
  | other
  | unfinished

/-- `max(values)`, of a list that is not empty. -/
def maximum (values : List ℤ) : ℤ := values.max?.getD 0

/-- `paired_incremental_peak_bytes`. -/
def pairedIncrementalPeakBytes (preloads peaks : List ℤ) : Except ProfilerRaised ℤ :=
  if preloads = [] ∨ preloads.length ≠ peaks.length then
    .error (.valueError "Preload and peak samples must have the same non-zero length")
  else if ∃ value ∈ preloads ++ peaks, ¬ (0 ≤ value ∧ value ≤ maxBytes) then
    .error (.valueError "Preload/peak sample must be a bounded non-negative integer")
  else .ok (maximum ((preloads.zip peaks).map fun pair => max 0 (pair.2 - pair.1)))

/-- `MINIMUM_COLD_CYCLES`. -/
def minimumColdCycles : ℕ := 3

/-- `_build_measurements`. -/
def buildMeasurements (values : List ColdCycleMeasurement) (hostMarginBytes deviceMarginBytes : ℤ) :
    Except ProfilerRaised EnvelopeMeasurements := do
  if values.length < minimumColdCycles then
    .error (.valueError "profiler requires at least three completed cold cycles")
  else
    let preloads (domain : Domain) := values.map (·.preload.used domain)
    let peaks (domain : Domain) := values.map (·.peak.used domain)
    let hostIncremental ← pairedIncrementalPeakBytes (preloads .host) (peaks .host)
    let cgroupIncremental ← pairedIncrementalPeakBytes (preloads .cgroup) (peaks .cgroup)
    let deviceIncremental ← pairedIncrementalPeakBytes (preloads .device) (peaks .device)
    (envelopeMeasurements
      { runs := values.length
        hostPreloadUsedBytes := maximum (preloads .host)
        hostPeakUsedBytes := maximum (peaks .host)
        cgroupPreloadUsedBytes := maximum (preloads .cgroup)
        cgroupPeakUsedBytes := maximum (peaks .cgroup)
        devicePreloadUsedBytes := maximum (preloads .device)
        devicePeakUsedBytes := maximum (peaks .device)
        hostIncrementalPeakBytes := hostIncremental
        cgroupIncrementalPeakBytes := cgroupIncremental
        deviceIncrementalPeakBytes := deviceIncremental
        hostMarginBytes := hostMarginBytes
        deviceMarginBytes := deviceMarginBytes }).mapError .artifactValidationError

/-! ## Requests and results -/

/-- `AdmissionInputs`. -/
structure AdmissionInputs where
  capacity : CapacityProfile
  device : String
  sample : PressureSample
  stabilizedGpu : Option StabilizedGpuCapacity
  expectedGpuDevice : Option String
  now : ℚ

/-- `FreshLoadInputs`. -/
structure FreshLoadInputs where
  capacity : CapacityProfile
  sample : PressureSample
  now : ℚ

/-- `ProfilerRequest`, as far as the profiler looks at it, with what it checks of that. -/
structure ProfilerRequest where
  model : ModelSize
  runs : ℕ
  policy : EnvelopePolicy
  hostMarginBytes : PositiveBytes
  deviceMarginBytes : PositiveBytes
  hostReserveBytes : Option PositiveBytes
  gpuReserveBytes : Option PositiveBytes
  canonicalSharedCuda : Bool
  requireCgroup : Bool
  bootstrapProfile : String
  runs_ge : minimumColdCycles ≤ runs
  policy_model : policy.model.1 = text model.name
  concurrency : policy.inferenceConcurrency.1 = 1

/-- `ProfilerResult`. -/
structure ProfilerResult where
  status : String
  model : ModelSize
  catalogVersion : Option PositiveInt
  nextModel : Option ModelSize
  reason : Option String
  envelope : Option ModelEnvelope
  replacedExisting : Bool

/-- `next_lower_model`. -/
def nextLowerModel (model : ModelSize) : Option ModelSize :=
  descendingModels[descendingModels.idxOf model + 1]?

/-- A model that could not be profiled, and why. -/
def ProfilerRequest.safeFailure (r : ProfilerRequest) (reason : String) : ProfilerResult :=
  ⟨"safe_failure", r.model, none, nextLowerModel r.model, some reason, none, false⟩

/-! ## Calls -/

variable (sha256 : Sha256)

/-- The calls of the adapter, the controller and the owner of the catalog. -/
inductive ProfilerCall
  | priorityPressureReader
  | loadIdentity
  | loadInputCatalog
  | runtimeIdentity
  | assertReleased
  | admissionInputs
  | waitForRecovery
  | immediateLoadAdmission (sample : PressureSample)
  | validateWorkload
  | freshLoadInputs
  | measureColdCycle (runNumber : ℕ) (admittedLoad : FreshLoadInputs)
  | releaseModel
  | markReleased
  | writeCatalog (catalog : ModelEnvelopeCatalog sha256)
  | loadOutputCatalog

/-- What a call returns: for the reader, whether it is callable, if there is one; for a cycle, nothing if it
    is not a valid measurement. -/
abbrev ProfilerCall.Answer : ProfilerCall sha256 → Type
  | priorityPressureReader => Option Bool
  | loadIdentity => ImageIdentity
  | loadInputCatalog | loadOutputCatalog => ModelEnvelopeCatalog sha256
  | runtimeIdentity => RuntimeIdentity
  | admissionInputs => AdmissionInputs
  | waitForRecovery => Bool
  | immediateLoadAdmission _ => AdmissionDecision
  | freshLoadInputs => FreshLoadInputs
  | measureColdCycle _ _ => Option ColdCycleMeasurement
  | assertReleased | validateWorkload | releaseModel | markReleased | writeCatalog _ => Unit

/-- A call with what came of it. -/
structure ProfilerEvent where
  call : ProfilerCall sha256
  result : Except ProfilerRaised call.Answer

/-- All that a run meets. -/
structure ProfilerEnvironment where
  answer : List (ProfilerEvent sha256) → (call : ProfilerCall sha256) → Except ProfilerRaised call.Answer
  requiresGpu : String → Bool
  modelLoadRequirement : ModelSize → String → Except ProfilerRaised ModelLoadRequirement
  pressureController : ProfilerRequest → AdmissionInputs → ModelLoadRequirement → Except ProfilerRaised Unit
  selectModel : ProfilerRequest → AdmissionInputs → Except ProfilerRaised ModelDecision

/-- A run, with what happened so far, the last call first. -/
abbrev Profile := EStateM ProfilerRaised (List (ProfilerEvent sha256))

namespace ProfilerEnvironment

variable {sha256} (env : ProfilerEnvironment sha256) (request : ProfilerRequest)

/-- A call to the environment, which is recorded with its answer. -/
def ask (call : ProfilerCall sha256) : Profile sha256 call.Answer := fun history =>
  match env.answer history call with
  | .ok a => .ok a (⟨call, .ok a⟩ :: history)
  | .error e => .error e (⟨call, .error e⟩ :: history)

/-! ## Checks -/

/-- `_configured_priority_reader`. -/
def configuredPriorityReader : Profile sha256 (Option Bool) := do
  let reader ← env.ask .priorityPressureReader
  match reader with
  | some false => throw (.typeError "priority pressure reader must be callable")
  | some true => return reader
  | none =>
    if request.canonicalSharedCuda then
      throw (.valueError "canonical shared CUDA profiling requires PRIORITY_PRESSURE_FILE")
    else return reader

/-- `_validate_initial_gpu_evidence`. -/
def validateInitialGpuEvidence (runtime : RuntimeIdentity) (inputs : AdmissionInputs) :
    Except ProfilerRaised Unit :=
  if env.requiresGpu inputs.device = false then
    .error (.profilingTelemetryError "schema-v1 profiling requires a CUDA device")
  else
    match inputs.stabilizedGpu, inputs.expectedGpuDevice with
    | some stabilized, some expectedDevice =>
      if stabilized.deviceId ≠ expectedDevice ∨ inputs.sample.gpuDeviceId ≠ some expectedDevice then
        .error (.profilingTelemetryError "initial GPU device identity is inconsistent")
      else if stabilized.totalBytes ≠ runtime.totalVramBytes.1 ∨
          inputs.sample.gpuTotalBytes ≠ some runtime.totalVramBytes.1 then
        .error (.profilingTelemetryError "runtime identity and initial GPU totals disagree")
      else .ok ()
    | _, _ =>
      .error (.profilingTelemetryError "profiling requires three stabilized exact-device GPU samples")

/-- `_validate_capacity_sample`. -/
def validateCapacitySample (capacity : CapacityProfile) (sample : PressureSample) :
    Except ProfilerRaised Unit :=
  match capacity.cgroupLimitBytes, sample.cgroupLimitBytes with
  | some limit, some limit' =>
    if limit ≠ limit' then
      .error (.profilingTelemetryError "fresh cgroup capacity and pressure telemetry disagree")
    else .ok ()
  | _, _ => .ok ()

/-- `_validate_fresh_load_evidence`. -/
def validateFreshLoadEvidence (device : String) (expectedGpuTotalBytes : ℤ) (inputs : FreshLoadInputs) :
    Except ProfilerRaised Unit :=
  if inputs.now < 0 then .error (.valueError "now must be a finite non-negative number")
  else if env.requiresGpu device = true ∧ inputs.sample.gpuTotalBytes ≠ some expectedGpuTotalBytes then
    .error (.profilingTelemetryError "fresh GPU total does not match the profiled runtime identity")
  else validateCapacitySample inputs.capacity inputs.sample

/-- `_SAFE_DESCENT_REASONS`. -/
def safeDescentReasons : List String := ["insufficient_host", "insufficient_device"]

/-- `_require_model_specific_capacity_failure`. -/
def requireModelSpecificCapacityFailure (admission : Option AdmissionDecision) (boundary : String) :
    Except ProfilerRaised Unit :=
  let reasons := (admission.map (·.reasons)).getD []
  if reasons ≠ [] ∧ reasons ⊆ safeDescentReasons then .ok ()
  else
    let reason := if reasons = [] then "admission_evidence_unavailable" else ",".intercalate reasons
    .error (.profilingTelemetryError s!"{boundary} admission cannot descend: {reason}")

/-- `_explicit_admission_decision`. -/
def explicitAdmissionDecision (inputs : AdmissionInputs) :
    Except ProfilerRaised (ModelDecision × ModelLoadRequirement) := do
  if strip inputs.device = "" then .error (.valueError "device must be a non-empty string")
  else if inputs.expectedGpuDevice = some "" then
    .error (.valueError "expected_gpu_device must be a non-empty string")
  else if inputs.now < 0 then .error (.valueError "now must be a finite non-negative number")
  else
    let decision ← env.selectModel request inputs
    match decision.requirement with
    | some requirement =>
      if decision.explicit = true ∧ decision.selectedModel = some request.model then
        .ok (decision, requirement)
      else .error (.runtimeError "resource owner returned an invalid explicit decision")
    | none => .error (.runtimeError "resource owner returned an invalid explicit decision")

/-- Whether a refusal is one of the controller, after which it is asked again. -/
def isControllerRefusal (admission : AdmissionDecision) : Bool :=
  !admission.admitted && admission.reasons.any fun reason => "controller_".toList.isPrefixOf reason.toList

/-- `_decision_reason`. -/
def decisionReason (decision : ModelDecision) : String :=
  match decision.admission with
  | some admission => if admission.reasons ≠ [] then ",".intercalate admission.reasons else decision.reason
  | none => decision.reason

/-! ## The run -/

/-- `_build_pressure_controller`, which asks for a reader again if there was none. -/
def buildPressureController (reader : Option Bool) (inputs : AdmissionInputs)
    (requirement : ModelLoadRequirement) : Profile sha256 Unit :=
  if reader.isNone then do
    let _ ← env.configuredPriorityReader request
    ofExcept (env.pressureController request inputs requirement)
  else ofExcept (env.pressureController request inputs requirement)

/-- `_wait_for_profiling_capacity`. -/
def waitForProfilingCapacity : Profile sha256 (Option ProfilerResult) := do
  env.ask .assertReleased
  match ← attempt (env.ask .waitForRecovery) with
  | .ok true => return none
  | .ok false => throw (.runtimeError "pressure recovery was cancelled")
  | .error (.explicitModelCapacityRefusal decision) => do
    env.ask .assertReleased
    ofExcept (requireModelSpecificCapacityFailure (some decision) "profiling_recovery")
    return some (request.safeFailure (",".intercalate decision.reasons))
  | .error e => throw e

/-- The reasons of a refusal, or what stands for none. -/
def reasonsOr (admission : AdmissionDecision) (otherwise : String) : String :=
  if admission.reasons = [] then otherwise else ",".intercalate admission.reasons

/-- The loop before the first cycle, until the model is admitted or refused. -/
def admitModel (runtime : RuntimeIdentity) (requirement : ModelLoadRequirement) :
    ℕ → Profile sha256 (ProfilerResult ⊕ AdmissionInputs)
  | 0 => throw .unfinished
  | rounds + 1 => do
    match ← env.waitForProfilingCapacity request with
    | some refusal => return .inl refusal
    | none => do
      let inputs ← env.ask .admissionInputs
      ofExcept (env.validateInitialGpuEvidence runtime inputs)
      ofExcept (validateCapacitySample inputs.capacity inputs.sample)
      let admission ← env.ask (.immediateLoadAdmission inputs.sample)
      if isControllerRefusal admission then admitModel runtime requirement rounds
      else do
        let (decision, required) ← ofExcept (env.explicitAdmissionDecision request inputs)
        if required ≠ requirement then
          throw (.profilingTelemetryError
            "pressure controller and explicit selection requirements disagree")
        else if admission.admitted = false then do
          env.ask .assertReleased
          ofExcept (requireModelSpecificCapacityFailure (some admission) "initial_pressure_controller")
          return .inl (request.safeFailure (reasonsOr admission "pressure_controller_admission_failed"))
        else if decision.admitted = false then do
          env.ask .assertReleased
          ofExcept (requireModelSpecificCapacityFailure decision.admission "initial")
          return .inl (request.safeFailure (decisionReason decision))
        else return .inr inputs

/-- How a cycle ends that raises nothing. -/
inductive CycleEnd
  | measured (measurement : ColdCycleMeasurement)
  | yielded
  | refused

/-- What the handlers of a cycle make of it. -/
def cycleEnd : Except ProfilerRaised (Option ColdCycleMeasurement) → Profile sha256 CycleEnd
  | .ok (some measurement) => return .measured measurement
  | .ok none => throw (.typeError "cold cycle must be ColdCycleMeasurement")
  | .error .memoryPressureYield => return .yielded
  | .error .safeProfilingFailure | .error .allocationFailure => return .refused
  | .error e => throw e

/-- One cold cycle, after which the model is released however it ends. -/
def coldCycle (runNumber : ℕ) (freshLoad : FreshLoadInputs) : Profile sha256 CycleEnd := do
  let measured ← attempt (env.ask (.measureColdCycle runNumber freshLoad))
  -- The `finally` block: what it raises takes the place of the outcome of the cycle.
  env.ask .releaseModel
  env.ask .assertReleased
  cycleEnd measured

/-- The loop over the cycles, from one on, with the measurements so far. -/
def coldCycles (inputs : AdmissionInputs) (runtime : RuntimeIdentity) :
    ℕ → ℕ → List ColdCycleMeasurement → Profile sha256 (ProfilerResult ⊕ List ColdCycleMeasurement)
  | 0, _, _ => throw .unfinished
  | rounds + 1, runNumber, measurements =>
    if request.runs < runNumber then return .inr measurements
    else do
      env.ask .assertReleased
      match ← env.waitForProfilingCapacity request with
      | some refusal => return .inl refusal
      | none => do
        let freshLoad ← env.ask .freshLoadInputs
        ofExcept (env.validateFreshLoadEvidence inputs.device runtime.totalVramBytes.1 freshLoad)
        let admission ← env.ask (.immediateLoadAdmission freshLoad.sample)
        if admission.admitted = true then do
          match ← env.coldCycle runNumber freshLoad with
          | .measured measurement =>
            coldCycles inputs runtime rounds (runNumber + 1) (measurements ++ [measurement])
          | .yielded => do
            env.ask .markReleased
            coldCycles inputs runtime rounds runNumber measurements
          | .refused => return .inl (request.safeFailure "safe_allocation_failure")
        else if isControllerRefusal admission then
          coldCycles inputs runtime rounds runNumber measurements
        else do
          ofExcept (requireModelSpecificCapacityFailure (some admission) "pressure_controller_load")
          return .inl
            (request.safeFailure (reasonsOr admission "pressure_controller_load_admission_failed"))

/-- The catalog with the new envelope, and whether it takes the place of one. -/
def stagedCatalog (catalog : ModelEnvelopeCatalog sha256) (envelope : ModelEnvelope) :
    Except ProfilerRaised (ModelEnvelopeCatalog sha256 × Bool) := do
  let matching := catalog.entries.filter fun e => e.matchKey = envelope.matchKey
  if 1 < matching.length then
    .error (.runtimeError "input catalog contains duplicate exact profiler evidence")
  else
    let preserved := catalog.entries.filter (· ∉ matching)
    let staged ← (buildCatalog sha256 (catalog.catalogVersion.1 + 1) (preserved ++ [envelope])).mapError
      .artifactValidationError
    return (staged, matching ≠ [])

/-- The end of `profile_model_envelope`: the new envelope, and the catalog with it. -/
def commit (identity : ImageIdentity) (catalog : ModelEnvelopeCatalog sha256) (runtime : RuntimeIdentity)
    (measurements : List ColdCycleMeasurement) : Profile sha256 ProfilerResult := do
  let evidence ← ofExcept (buildMeasurements measurements request.hostMarginBytes.1
    request.deviceMarginBytes.1)
  let envelope : ModelEnvelope := ⟨identity, runtime, request.policy, evidence⟩
  let (staged, replaced) ← ofExcept (stagedCatalog catalog envelope)
  env.ask (.writeCatalog staged)
  let reloaded ← env.ask .loadOutputCatalog
  if reloaded.catalogVersion ≠ staged.catalogVersion ∨ reloaded.entries ≠ staged.entries then
    throw (.runtimeError "staged catalog verification did not reproduce the write")
  else return ⟨"profiled", request.model, some staged.catalogVersion, none, none, some envelope, replaced⟩

/-- `profile_model_envelope`. -/
def profileModelEnvelope (rounds : ℕ) : Profile sha256 ProfilerResult := do
  let reader ← env.configuredPriorityReader request
  let identity ← env.ask .loadIdentity
  let catalog ← env.ask .loadInputCatalog
  let runtime ← env.ask .runtimeIdentity
  env.ask .assertReleased
  let bootstrapInputs ← env.ask .admissionInputs
  ofExcept (env.validateInitialGpuEvidence runtime bootstrapInputs)
  if request.bootstrapProfile ≠ "generic" ∧ bootstrapInputs.device ≠ "cuda" then
    throw (.valueError "Bounded CUDA bootstrap cannot profile another backend")
  else do
    let requirement ← ofExcept (env.modelLoadRequirement request.model request.bootstrapProfile)
    env.buildPressureController request reader bootstrapInputs requirement
    match ← env.admitModel request runtime requirement rounds with
    | .inl refusal => return refusal
    | .inr inputs => do
      env.ask .validateWorkload
      match ← env.coldCycles request inputs runtime rounds 1 [] with
      | .inl refusal => return refusal
      | .inr measurements => env.commit request identity catalog runtime measurements

end ProfilerEnvironment

end Envelopes

end Subgen

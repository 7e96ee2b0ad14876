import Subgen.Selection.Models

/-!
# The automatic selection

`select_model` of a request that names no model: from the largest model to the smallest one it takes the
first that it may take and that is admitted. A branch of its own, for a request that names one, is left out.

How large a model may be is bounded by what the memory of the host, the cgroup and the device have room
for, but one with an envelope of its own may be larger. The free memory of the device is the smaller one of
two readings, if the stabilized one can be used.
-/

namespace Subgen

/-- A `StabilizedGpuCapacity`, with what it checks. -/
structure StabilizedGpuCapacity where
  deviceId : String
  totalBytes : ℤ
  freeBytes : ℤ
  observedAt : ℚ
  device_ne : deviceId ≠ ""
  total_valid : 1 ≤ totalBytes ∧ totalBytes ≤ maxBytes
  free_valid : 0 ≤ freeBytes ∧ freeBytes ≤ totalBytes
  observed_nonneg : 0 ≤ observedAt

/-- A sample of nothing but the reading. -/
def StabilizedGpuCapacity.sample (g : StabilizedGpuCapacity) : PressureSample where
  observedAt := none
  hostAvailableBytes := none
  hostTotalBytes := none
  cgroupCurrentBytes := none
  cgroupLimitBytes := none
  psiSomeAvg10 := none
  psiFullAvg10 := none
  cgroupOomEvents := none
  cgroupOomKillEvents := none
  hostPsiSomeAvg10 := none
  hostPsiFullAvg10 := none
  cgroupPsiSomeAvg10 := none
  cgroupPsiFullAvg10 := none
  gpuTotalBytes := some g.totalBytes
  gpuFreeBytes := some g.freeBytes
  gpuDeviceId := some g.deviceId
  gpuObservedAt := some g.observedAt
  priorityObservation := none

/-- The arguments of `select_model`, and what `_is_gpu_device` says of the device. -/
structure SelectionRequest where
  capacity : Capacity
  isGpu : Bool
  sample : Option PressureSample
  stabilized : Option StabilizedGpuCapacity
  hostReserve : Option ℤ
  gpuReserveBytes : Option ℤ
  expectedGpuDevice : Option String
  envelopes : List EnvelopeResolution
  canonicalSharedCuda : Bool
  requireCgroup : Bool
  now : Option ℚ

/-- `maximum_age_seconds`, in seconds. -/
def maximumGpuAgeSeconds : ℚ := 10

namespace SelectionRequest

variable (r : SelectionRequest)

/-! ## The readings of the device -/

/-- A reading of the device is fresh. -/
def readingIsFresh (sample : PressureSample) : Bool :=
  r.now.any fun now => gpuSampleIsFresh sample r.expectedGpuDevice now maximumGpuAgeSeconds

/-- The readings are of different devices. -/
def conflictOf (g : StabilizedGpuCapacity) (sample : PressureSample) : Bool :=
  sample.gpuTotalBytes ≠ some g.totalBytes ∨ sample.gpuDeviceId ≠ some g.deviceId

/-- The stabilized capacity contradicts the sample. -/
def stabilizationConflict : Bool :=
  match r.isGpu, r.stabilized, r.sample with
  | true, some g, some sample => conflictOf g sample
  | _, _, _ => false

/-- The stabilized capacity may be used. -/
def stabilizedUsable : Bool :=
  match r.isGpu, r.stabilized, r.sample with
  | true, some g, some sample =>
    r.readingIsFresh g.sample && r.readingIsFresh sample && !conflictOf g sample
  | _, _, _ => false

/-- The smaller of the two free device memories. -/
def combinedGpuFree : Option ℤ :=
  if r.stabilizedUsable then
    r.stabilized.bind fun g => (r.sample.bind (·.gpuFreeBytes)).map fun free => min g.freeBytes free
  else none

/-- The sample that the models are admitted by. -/
def selectionSample : Option PressureSample :=
  if r.stabilizedUsable then r.sample.map fun sample => { sample with gpuFreeBytes := r.combinedGpuFree }
  else r.sample

/-- The immediate total of the device, if there is one. -/
def immediateGpuTotal : Option ℤ := if r.isGpu then r.sample.bind (·.gpuTotalBytes) else none

/-- The larger of the two device memories. -/
def gpuTotal : Option ℤ := ((r.stabilized.map (·.totalBytes)).toList ++ r.immediateGpuTotal.toList).max?

/-! ## Reserves and ceilings -/

/-- The reserve of the device. -/
def effectiveGpuReserve : Except Exc (Option ℤ) :=
  match r.gpuReserveBytes with
  | some reserve => some <$> requireGpuReserveFloor reserve r.gpuTotal "GPU priority reserve"
  | none =>
    if r.isGpu ∧ ¬r.canonicalSharedCuda then some <$> gpuReserveFloorBytes r.gpuTotal else .ok none

/-- The reserve of the host. -/
def effectiveHostReserve : Except Exc ℤ :=
  match r.hostReserve with
  | some reserve => .ok reserve
  | none => hostReserveBytes r.capacity.hostTotal

/-- What the device has left above its reserve. -/
def allocatableVram (gpuReserve : Option ℤ) : Option ℤ :=
  r.combinedGpuFree.bind fun free => gpuReserve.map fun reserve => max 0 (free - reserve)

end SelectionRequest

/-- What `select_model` has worked out before it looks at the models. -/
structure SelectionTerms where
  envelopes : OrderedDict ModelSize ModelEnvelope
  gpuReserve : Option ℤ
  hostReserve : ℤ
  systemCeiling : ModelSize
  deviceCeiling : Option ModelSize
  capacityKnown : Bool

/-- The smaller of the two ceilings. -/
def SelectionTerms.automaticCeiling (t : SelectionTerms) : ModelSize :=
  match t.deviceCeiling with
  | none => t.systemCeiling
  | some ceiling => .smaller t.systemCeiling ceiling

/-- `ModelDecision`. -/
structure ModelDecision where
  selectedModel : Option ModelSize
  automaticCeiling : ModelSize
  explicit : Bool
  warning : Option String
  admitted : Bool
  reason : String
  provenance : Option Provenance
  requirement : Option ModelLoadRequirement
  admission : Option AdmissionDecision
  recoveryRequirements : List ModelLoadRequirement
  systemCeiling : ModelSize
  deviceCeiling : Option ModelSize
  rejectedAdmissions : List AdmissionDecision

/-- `"; ".join(warnings) or None`. -/
def joinedWarnings (warnings : List String) : Option String :=
  if warnings = [] then none else some ("; ".intercalate warnings)

/-- How the loop over the models ends. -/
structure SelectionOutcome where
  selected : Option (ModelSize × AdmissionDecision)
  recovery : List ModelLoadRequirement
  rejected : List AdmissionDecision

namespace SelectionRequest

variable (r : SelectionRequest) (t : SelectionTerms)

/-- `select_model`, up to its warnings. -/
def selectionTerms : Except Exc SelectionTerms := do
  if r.expectedGpuDevice = some "" then
    throw (.valueError "Expected GPU device must be a non-empty string")
  let _ ← optionalBytes r.hostReserve "Host reserve" false
  let envelopes ← validatedEnvelopesByModel r.envelopes
  let _ ← optionalBytes r.immediateGpuTotal "GPU total" true
  let gpuReserve ← r.effectiveGpuReserve
  let hostReserve ← r.effectiveHostReserve
  let systemCeiling ← nominalSystemModelCeiling r.capacity hostReserve
  let value ← r.capacity.value
  return {
    envelopes := envelopes
    gpuReserve := gpuReserve
    hostReserve := hostReserve
    systemCeiling := systemCeiling
    deviceCeiling := if r.isGpu then some (vramModelCeiling (r.allocatableVram gpuReserve)) else none
    capacityKnown := value.isSome }

/-- `canonical_issue`. -/
def canonicalIssue : Option String :=
  if !r.canonicalSharedCuda then none
  else if !r.isGpu then some "Canonical shared CUDA requires a CUDA device"
  else if t.gpuReserve = none then some "Canonical shared CUDA requires an explicit GPU reserve"
  else if r.expectedGpuDevice = none then some "Canonical shared CUDA requires an exact GPU device"
  else if !r.stabilizedUsable then
    some "Canonical shared CUDA requires stabilized exact-device telemetry"
  else none

/-- The warnings of the decision. -/
def warnings : List String :=
  (if t.capacityKnown then [] else ["System memory capacity is unavailable; using the small ceiling"]) ++
    (if r.isGpu && !r.stabilizedUsable then
      ["Stabilized exact-device VRAM is unavailable; limiting fallback to small"] else []) ++
    (if r.stabilizationConflict then
      ["Stabilized GPU telemetry conflicts with the fresh admission sample"] else []) ++
    (r.canonicalIssue t).toList

/-- The envelope that a model is loaded by. -/
def envelopeFor (model : ModelSize) : Option ModelEnvelope :=
  if r.isGpu && !r.stabilizedUsable && !r.canonicalSharedCuda then none else t.envelopes.get model

/-- The model is passed over. -/
def isSkipped (model : ModelSize) : Bool :=
  (r.canonicalSharedCuda && (t.envelopes.get model).isNone) ||
    (t.automaticCeiling.rank < model.rank &&
      ((r.envelopeFor t model).isNone || (r.isGpu && !r.stabilizedUsable)))

/-- The sample that can be evaluated, if there is one. -/
def evaluableSample : Option PressureSample :=
  if (r.canonicalIssue t).isSome || r.stabilizationConflict || (r.isGpu && r.expectedGpuDevice.isNone) then none
  else r.selectionSample

/-- `evaluate_admission`, as `select_model` calls it. -/
def evaluated (sample : PressureSample) (requirement : ModelLoadRequirement) : Except Exc AdmissionDecision :=
  evaluateAdmission requirement sample t.hostReserve t.gpuReserve r.requireCgroup r.isGpu r.expectedGpuDevice
    r.now maximumGpuAgeSeconds

/-- The loop over the models. -/
def tryModels : List ModelSize → List ModelLoadRequirement → List AdmissionDecision →
    Except Exc SelectionOutcome
  | [], recovery, rejected => .ok ⟨none, recovery, rejected⟩
  | model :: models, recovery, rejected =>
    if r.isSkipped t model then tryModels models recovery rejected
    else do
      let requirement ← modelLoadRequirement model (r.envelopeFor t model)
      match r.evaluableSample t with
      | none => tryModels models (recovery ++ [requirement]) rejected
      | some sample => do
        let admission ← r.evaluated t sample requirement
        if admission.admitted then return ⟨some (model, admission), [requirement], rejected⟩
        else tryModels models (recovery ++ [requirement]) (rejected ++ [admission])

/-- The decision, from what the loop found. -/
def decision (o : SelectionOutcome) : ModelDecision :=
  match o.selected with
  | some (model, admission) =>
    { selectedModel := some model
      automaticCeiling := t.automaticCeiling
      explicit := false
      warning := joinedWarnings (r.warnings t ++
        if model = .tiny then ["Capacity is constrained; using the tiny model"] else [])
      admitted := true
      reason := "selected"
      provenance := some admission.requirement.provenance
      requirement := some admission.requirement
      admission := some admission
      recoveryRequirements := o.recovery
      systemCeiling := t.systemCeiling
      deviceCeiling := t.deviceCeiling
      rejectedAdmissions := o.rejected }
  | none =>
    { selectedModel := none
      automaticCeiling := t.automaticCeiling
      explicit := false
      warning := joinedWarnings (r.warnings t ++
        (if r.sample.isNone then ["Fresh admission telemetry is unavailable"] else []) ++
        ["No model satisfies the fresh admission floor"])
      admitted := false
      reason := "no_safe_model"
      provenance := none
      requirement := none
      admission := none
      recoveryRequirements := o.recovery
      systemCeiling := t.systemCeiling
      deviceCeiling := t.deviceCeiling
      rejectedAdmissions := o.rejected }

/-- `select_model`, of an automatic request. -/
def selectModel : Except Exc ModelDecision := do
  let t ← r.selectionTerms
  let o ← r.tryModels t descendingModels [] []
  return r.decision t o

end SelectionRequest

end Subgen

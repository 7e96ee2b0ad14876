import Subgen.Pressure.Gate

/-!
# Samples and operations

How the controller takes in a sample of the memory (`observeLocked`), and the operations
it offers. An operation runs under the lock of the controller from its beginning to its
end, so a run of the controller, with any number of threads, is a list of operations one
after another (`run`). `wait_for_recovery` holds no lock while it sleeps: it is the
operations `markReleased`, `explicitCapacityRefusal` and `poll` it calls.

A sample is classified into what speaks for pressure and what is critical, by the host, the cgroup, the
device, the stall times and the out-of-memory counters, each of them a function of the sample. What it then
does depends on the state: it may close the gate in the normal state, and in the recovering state it
counts if enough time has passed, if it is healthy, and if a model could be loaded. A sample that is older than
the last one, or another one of the same time, is superseded (`superseded`).
-/

namespace Subgen

open Procedure

variable {W : Type}

namespace PressureController

/-! ## Reading -/

/-- `sample`: the last one, while it is not too old. -/
def sample (env : PressureEnvironment W) : PressureM W PressureSample := do
  let c ← self
  let time ← now env
  match c.lastSample, c.lastSampleAt with
  | some last, some at_ =>
    if time - at_ < c.config.sampleIntervalSeconds then pure last else readNew time
  | _, _ => readNew time
where
  readNew (time : ℚ) : PressureM W PressureSample := do
    let sample ← callback env.readSample
    update fun c => { c with
      lastSample := some sample
      lastSampleAt := some time
      sampleToken := c.sampleToken + 1 }
    pure sample

/-- `_gpu_telemetry_fresh`. -/
def gpuTelemetryFresh (env : PressureEnvironment W) (sample : PressureSample) :
    PressureM W Bool := do
  let c ← self
  if c.config.gpuReserveBytes.isNone then
    pure true
  else do
    let time ← now env
    pure (gpuSampleIsFresh sample c.config.expectedGpuDevice time c.config.maximumSampleAgeSeconds)

/-- `_gpu_fresh`. -/
def gpuFresh (env : PressureEnvironment W) (sample : PressureSample) : PressureM W Bool := do
  let fresh ← gpuTelemetryFresh env sample
  let c ← self
  pure (fresh && c.gpuReserveFloorSatisfied sample)

/-! ## Classification -/

/-- What of the host is critical. -/
def classifyHost (c : PressureController) (sample : PressureSample) : Except Exc (List String) := do
  let reserve ← c.reserveFor sample
  let hostAvailable ← optionalBytes sample.hostAvailableBytes "Host available" false
  let hostTotal ← optionalBytes sample.hostTotalBytes "Host total" true
  .ok (if hostAvailable.any fun available => hostTotal.any (· < available) then
      ["host_inconsistent"]
    else if hostAvailable.any (· < reserve) then ["host_headroom"] else [])

/-- The memory left of the cgroup. -/
def cgroupHeadroom (sample : PressureSample) : Except Exc (Option ℤ) :=
  match sample.cgroupLimitBytes, sample.cgroupCurrentBytes with
  | some limit, some current => do
    let limit ← requireBytes limit "Cgroup limit" false
    let current ← requireBytes current "Cgroup current" false
    .ok (some (limit - current))
  | _, _ => .ok none

/-- What of the cgroup is pressure, and what is critical. -/
def classifyCgroup (sample : PressureSample) : Except Exc (List String × List String) := do
  let floor ← cgroupHeadroomFloor sample.cgroupLimitBytes
  let headroom ← cgroupHeadroom sample
  match floor, headroom with
  | some floor, some headroom =>
    .ok (if headroom < floor then ["cgroup_headroom"] else [],
      if headroom * 2 < floor then ["critical_cgroup_headroom"] else [])
  | _, _ => .ok ([], [])

/-- What of a device with a fresh reading is pressure, and what is critical. -/
def classifyGpu (c : PressureController) (sample : PressureSample) : List String × List String :=
  if c.gpuReserveFloorSatisfied sample then
    (if sample.gpuFreeBytes.any fun free => c.config.gpuReserveBytes.any (free < ·) then
        ["gpu_headroom"] else [],
      if sample.gpuFreeBytes.any fun free => c.config.gpuReserveBytes.any (free * 2 < ·) then
        ["critical_gpu_headroom"] else [])
  else
    ([], ["gpu_reserve_below_floor"])

/-- The stall times of the classification. -/
def classifyPsi (sample : PressureSample) : List String :=
  (if (maximumKnown [sample.psiFullAvg10, sample.hostPsiFullAvg10,
      sample.cgroupPsiFullAvg10]).any (1 ≤ ·) then ["psi_full"] else []) ++
    (if (maximumKnown [sample.psiSomeAvg10, sample.hostPsiSomeAvg10,
      sample.cgroupPsiSomeAvg10]).any (10 ≤ ·) then ["psi_some"] else [])

/-- One counter against its last value: whether it rose, and the value to keep. -/
def classifyOomCounter (current previous : Option ℤ) : Except Exc (List String × Option ℤ) :=
  match current with
  | none => .ok ([], previous)
  | some current => do
    let current ← requireBytes current "Cgroup OOM counter" false
    .ok (if previous.any (· < current) then ["cgroup_oom"] else [], some current)

/-- The out-of-memory counters of the classification. -/
def classifyOom (counts : Option ℤ × Option ℤ) (sample : PressureSample) :
    Except Exc (List String × Option ℤ × Option ℤ) := do
  let (oom, events) ← classifyOomCounter sample.cgroupOomEvents counts.1
  let (kill, killEvents) ← classifyOomCounter sample.cgroupOomKillEvents counts.2
  .ok (oom ++ kill, events, killEvents)

/-- The reading of the device counts for the classification only if there is a reserve. -/
def classifyDevice (env : PressureEnvironment W) (sample : PressureSample) :
    PressureM W (List String × List String) := do
  let c ← self
  if c.config.gpuReserveBytes.isSome then do
    let fresh ← gpuTelemetryFresh env sample
    pure (if fresh then c.classifyGpu sample else ([], []))
  else
    pure ([], [])

/-- `_classify`: the reasons for pressure, and the critical ones. -/
def classify (env : PressureEnvironment W) (sample : PressureSample) :
    PressureM W (List String × List String) := do
  let c ← self
  let host ← ofExcept (c.classifyHost sample)
  let cgroup ← ofExcept (classifyCgroup sample)
  let gpu ← classifyDevice env sample
  let oom ← ofExcept (classifyOom c.lastOomCounts sample)
  update ({ · with lastOomCounts := oom.2 })
  pure ((cgroup.1 ++ gpu.1 ++ classifyPsi sample).eraseDups,
    (host ++ cgroup.2 ++ gpu.2 ++ oom.1).eraseDups)

/-- `evaluate_admission` with the configuration of the controller and the time. -/
def evaluate (env : PressureEnvironment W) (requirement : ModelLoadRequirement)
    (sample : PressureSample) : PressureM W AdmissionDecision := do
  let c ← self
  let reserve ← ofExcept (c.reserveFor sample)
  let time ← now env
  ofExcept (evaluateAdmission requirement sample reserve c.config.gpuReserveBytes
    c.config.requireCgroup c.config.gpuReserveBytes.isSome c.config.expectedGpuDevice (some time)
    c.config.maximumSampleAgeSeconds)

/-- Whether a sample admits one of some requirements. -/
def anyAdmitted (env : PressureEnvironment W) (sample : PressureSample) :
    List ModelLoadRequirement → PressureM W Bool
  | [] => pure false
  | requirement :: requirements => do
    let c ← self
    if c.config.canonicalRequirementAllowed requirement then do
      let decision ← evaluate env requirement sample
      if decision.admitted then pure true else anyAdmitted env sample requirements
    else
      anyAdmitted env sample requirements

/-- Where there is a reserve, the reading of the device has to be fresh. -/
def reserveKnown (env : PressureEnvironment W) (sample : PressureSample) : PressureM W Bool := do
  let c ← self
  if c.config.gpuReserveBytes.isSome then gpuFresh env sample else pure true

/-- `_recovery_qualified`. -/
def recoveryQualified (env : PressureEnvironment W) (sample : PressureSample) :
    PressureM W Bool := do
  let c ← self
  if c.recoveryRequirements.isEmpty then
    pure false
  else do
    let known ← reserveKnown env sample
    if known then anyAdmitted env sample c.recoveryRequirements else pure false

/-! ## Processing -/

/-- The gate behind a second reading in a row without telemetry. -/
def withoutTelemetry (c : PressureController) : PressureController :=
  { c with
    consecutivePressure := 0
    consecutiveHealthy := 0
    recoveryReason := some "gpu_telemetry_unavailable" }

/-- What the telemetry of a sample does, where it is required. -/
def checkTelemetry (fresh modelResident : Bool) : PressureM W Unit := do
  let c ← self
  if c.config.requireGpuTelemetry then
    if fresh then
      update ({ · with consecutiveGpuUnavailable := 0 })
    else do
      update ({ · with
        consecutiveGpuUnavailable := c.consecutiveGpuUnavailable + 1
        admissionOpen := false })
      if 2 ≤ c.consecutiveGpuUnavailable + 1 then do
        update withoutTelemetry
        enter (retreat modelResident)
      else
        pure ()
  else
    pure ()

/-- A sample in the normal state. -/
def normalSample (pressure critical : List String) (fresh modelResident : Bool) :
    PressureM W Unit := do
  update ({ · with consecutiveHealthy := 0 })
  let c ← self
  if critical ≠ [] then do
    update ({ · with consecutivePressure := 0 })
    enter (retreat modelResident)
  else if pressure ≠ [] then
    if 2 ≤ c.consecutivePressure + 1 then do
      update ({ · with consecutivePressure := 0 })
      enter (retreat modelResident)
    else
      update ({ · with consecutivePressure := c.consecutivePressure + 1 })
  else
    update fun c => { c with
      consecutivePressure := 0
      admissionOpen := c.admissionOpen ||
        ((!c.config.requireGpuTelemetry || fresh) && c.priorityRecoveryReady) }

/-- A sample that ends a recovery that had begun. -/
def unqualifiedSample (pressured modelResident inferenceActive : Bool) : PressureM W Unit := do
  update ({ · with consecutiveHealthy := 0 })
  let c ← self
  if modelResident = true ∧ inferenceActive = true ∧ pressured = true then
    enter .yielding
  else if modelResident = true ∧ inferenceActive = false ∧
      c.recoveryReason = some "priority_pressure" ∧ c.priorityRecoveryReady = true then
    enter .yielding
  else
    pure ()

/-- Another healthy sample. -/
def healthier (c : PressureController) : PressureController :=
  { c with
    consecutiveHealthy := min c.config.recoverySampleCount (c.consecutiveHealthy + 1) }

/-- A sample that is part of a recovery. -/
def qualifiedSample (observedAt : ℚ) : PressureM W Unit := do
  modify fun σ => (σ.update healthier).record (.sampled observedAt false true)
  maybeFinishRecoveryLocked

/-- Whether a sample admits a recovery requirement, which is not looked at under pressure. -/
def sampleAdmits (env : PressureEnvironment W) (sample : PressureSample) (pressured : Bool) :
    PressureM W Bool :=
  if pressured then pure false else recoveryQualified env sample

/-- A sample in the recovering state. -/
def recoveringSample (env : PressureEnvironment W) (sample : PressureSample) (observedAt : ℚ)
    (pressured modelResident inferenceActive : Bool) : PressureM W Unit := do
  update ({ · with consecutivePressure := 0 })
  let admits ← sampleAdmits env sample pressured
  if admits then
    qualifiedSample observedAt
  else do
    record (.sampled observedAt pressured false)
    unqualifiedSample pressured modelResident inferenceActive

/-- What a sample does to the state. -/
def processSample (env : PressureEnvironment W) (sample : PressureSample) (observedAt : ℚ)
    (pressure critical : List String) (fresh modelResident inferenceActive : Bool) :
    PressureM W Unit := do
  let c ← self
  if c.state = .normal then
    normalSample pressure critical fresh modelResident
  else if c.state = .recovering then
    recoveringSample env sample observedAt (!pressure.isEmpty || !critical.isEmpty) modelResident
      inferenceActive
  else
    pure ()

/-- The gate behind a sample, which is closed in every state but the normal one. -/
def settled (c : PressureController) : PressureController :=
  { c with admissionOpen := c.admissionOpen && decide (c.state = .normal) }

/-- A sample that is newer than the one before. -/
def processNewSample (env : PressureEnvironment W) (sample : PressureSample) (observedAt : ℚ)
    (modelResident inferenceActive : Bool) : PressureM W Unit := do
  update ({ · with lastObservedAt := some observedAt, lastObservedSample := some sample })
  let reasons ← classify env sample
  update ({ · with lastPressureReasons := reasons.1, lastCriticalReasons := reasons.2 })
  let fresh ← gpuFresh env sample
  checkTelemetry fresh modelResident
  processSample env sample observedAt reasons.1 reasons.2 fresh modelResident inferenceActive
  update settled

/-- `_observe_locked`, whose result no caller uses. -/
def observeLocked (env : PressureEnvironment W) (sample : PressureSample)
    (modelResident inferenceActive : Bool) : PressureM W Unit := do
  let observedAt ← ofExcept (requireTime sample.observedAt "Sample observation time")
  let c ← self
  if c.lastObservedAt.any (observedAt ≤ ·) then
    pure ()
  else
    processNewSample env sample observedAt modelResident inferenceActive

/-! ## Operations -/

/-- `observe`. -/
def observe (env : PressureEnvironment W) (sample : PressureSample) (modelResident : Bool) :
    PressureM W ControllerState := do
  let previous ← self
  observeLocked env sample modelResident false
  let snapshot ← pollPriorityLocked env modelResident sample.priorityObservation false
  publishTransitionLocked env previous snapshot.isSome
  PressureController.state <$> self

/-- `poll_priority`. -/
def pollPriority (env : PressureEnvironment W) (modelResident force : Bool) :
    PressureM W ControllerState := do
  let previous ← self
  let snapshot ← pollPriorityLocked env modelResident none force
  publishTransitionLocked env previous snapshot.isSome
  PressureController.state <$> self

/-- The observation a new sample carries. -/
def pollCarried (env : PressureEnvironment W) (sample : PressureSample) (modelResident : Bool) :
    PressureM W Bool :=
  match sample.priorityObservation with
  | none => pure false
  | some o => Option.isSome <$> pollPriorityLocked env modelResident (some o) false

/-- The sample of a poll, which is processed once. -/
def pollSample (env : PressureEnvironment W) (modelResident inferenceActive : Bool) :
    PressureM W Bool := do
  let c ← self
  if c.state = .yielding then
    pure false
  else do
    let sample ← sample env
    let c ← self
    if c.observedToken = c.sampleToken then
      pure false
    else do
      observeLocked env sample modelResident inferenceActive
      update fun c => { c with observedToken := c.sampleToken }
      pollCarried env sample modelResident

/-- `poll`. -/
def poll (env : PressureEnvironment W) (modelResident forcePriority inferenceActive : Bool) :
    PressureM W ControllerState := do
  if inferenceActive = true ∧ modelResident = false then
    throw (.valueError "Active inference requires a resident model")
  else do
    let previous ← self
    let snapshot ← pollPriorityLocked env modelResident none forcePriority
    let carried ← pollSample env modelResident inferenceActive
    publishTransitionLocked env previous (carried || snapshot.isSome)
    PressureController.state <$> self

/-- `poll_idle_resident`. -/
def pollIdleResident (env : PressureEnvironment W) : PressureM W Bool := do
  let state ← poll env true false false
  pure (decide (state = .yielding))

/-- `check_or_raise`. -/
def checkOrRaise (env : PressureEnvironment W) (forcePriority : Bool) :
    PressureM W ControllerState := do
  let state ← poll env true forcePriority true
  if state = .yielding then do
    let c ← self
    let reasons := if c.lastCriticalReasons = [] then c.lastPressureReasons
      else c.lastCriticalReasons
    throw (.memoryPressureYield
      (if reasons = [] then "memory pressure" else ", ".intercalate reasons))
  else
    pure state

/-- The gate behind a release. -/
def released (reason : Option String) (c : PressureController) : PressureController :=
  { c with
    admissionOpen := false
    recoveryReason := reason.or c.recoveryReason
    consecutivePressure := 0
    consecutiveHealthy := 0 }

/-- `_mark_released_locked`. -/
def markReleasedLocked (reason : Option String) : PressureM W Unit := do
  update (released reason)
  record .released
  enter .recovering

/-- `close_admission`. -/
def closeAdmission (env : PressureEnvironment W) : PressureM W Unit := do
  let previous ← self
  update ({ · with admissionOpen := false })
  publishTransitionLocked env previous false

/-- Whether the last sample still vouches for CUDA memory that is shared. -/
def sharedCudaFresh (env : PressureEnvironment W) : PressureM W Bool := do
  let c ← self
  match c.lastObservedSample with
  | none => pure false
  | some sample => if c.consecutiveGpuUnavailable = 0 then gpuFresh env sample else pure false

/-- Whether admission may be opened. -/
def mayOpen (env : PressureEnvironment W) : PressureM W Bool := do
  let c ← self
  if c.state = .normal ∧ c.priorityRecoveryReady = true then
    if c.config.canonicalSharedCuda then sharedCudaFresh env else pure true
  else
    pure false

/-- `open_admission_if_normal`. -/
def openAdmissionIfNormal (env : PressureEnvironment W) : PressureM W Bool := do
  let previous ← self
  let opened ← mayOpen env
  update ({ · with admissionOpen := opened })
  publishTransitionLocked env previous false
  pure opened

/-- `mark_released`. -/
def markReleased (env : PressureEnvironment W) (reason : Option String) :
    PressureM W ControllerState := do
  let previous ← self
  markReleasedLocked reason
  publishTransitionLocked env previous false
  pure .recovering

/-- The requirements a recovery is tried with from now on. -/
def replaceRequirements (requirements : Option (List ModelLoadRequirement)) :
    PressureM W Unit := do
  let c ← self
  match requirements with
  | none => pure ()
  | some candidates =>
    if c.config.selectedRequirement.isSome = true ∧
        candidates ≠ c.config.selectedRequirement.toList then
      throw (.valueError "The selected model requirement is fixed")
    else if candidates.any (!c.config.canonicalRequirementAllowed ·) then
      throw (.valueError "Canonical CUDA fallback requires explicit model authority")
    else
      update ({ · with recoveryRequirements := candidates })

/-- `enter_no_safe_model`. -/
def enterNoSafeModel (env : PressureEnvironment W)
    (requirements : Option (List ModelLoadRequirement)) : PressureM W ControllerState := do
  let previous ← self
  replaceRequirements requirements
  markReleasedLocked (some "no_safe_model")
  publishTransitionLocked env previous false
  pure .recovering

/-- The requirement of a load, if it is one the controller was configured for. -/
def selectRequirement (c : PressureController) (requirement : Option ModelLoadRequirement) :
    Except Exc ModelLoadRequirement :=
  match requirement.or c.config.selectedRequirement with
  | none => .error (.valueError "A selected model load requirement is required")
  | some selected =>
    if c.config.selectedRequirement.isSome ∧ c.config.selectedRequirement ≠ some selected then
      .error (.valueError "The selected model requirement is fixed")
    else if !c.config.canonicalRequirementAllowed selected then
      .error (.valueError "Canonical CUDA fallback requires explicit model authority")
    else
      .ok selected

/-- The name of a state. -/
def stateName : ControllerState → String
  | .normal => "normal"
  | .yielding => "yielding"
  | .recovering => "recovering"

/-- A load the controller does not admit, whatever the sample says. -/
def denied (selected : ModelLoadRequirement) : PressureM W AdmissionDecision := do
  let c ← self
  update ({ · with admissionOpen := false })
  pure ⟨false, ["controller_" ++ stateName c.state], none, none, none, none, selected⟩

/-- The observation of a load: the one the sample carries, or a new one. -/
def pollForLoad (env : PressureEnvironment W) (sample : PressureSample) :
    PressureM W (Option GateSnapshot) := do
  let c ← self
  if sample.priorityObservation.isSome = true ∨ c.config.priorityConfigured = true then
    pollPriorityLocked env false sample.priorityObservation sample.priorityObservation.isNone
  else
    pure none

/-- A load in the normal state, on the strength of a sample. -/
def decideLoad (env : PressureEnvironment W) (selected : ModelLoadRequirement)
    (sample : PressureSample) : PressureM W AdmissionDecision := do
  let decision ← evaluate env selected sample
  update fun c => { c with
    admissionOpen := decision.admitted && decide (c.state = .normal) && c.priorityRecoveryReady }
  if decision.admitted then
    pure decision
  else do
    markReleasedLocked (some (if "gpu_unavailable" ∈ decision.reasons then
      "gpu_telemetry_unavailable" else "insufficient_capacity"))
    pure decision

/-- The decision, after the observation. -/
def decideAfterPoll (env : PressureEnvironment W) (selected : ModelLoadRequirement)
    (sample : PressureSample) : PressureM W AdmissionDecision := do
  let c ← self
  if c.state ≠ .normal then denied selected else decideLoad env selected sample

/-- `_immediate_load_admission_locked`. -/
def immediateLoadAdmissionLocked (env : PressureEnvironment W) (selected : ModelLoadRequirement)
    (sampleReader : Option (EStateM Exc W PressureSample)) :
    PressureM W (AdmissionDecision × Bool) := do
  let c ← self
  if c.state ≠ .normal then do
    let decision ← denied selected
    pure (decision, false)
  else do
    let sample ← callback (sampleReader.getD env.readSample)
    let snapshot ← pollForLoad env sample
    let decision ← decideAfterPoll env selected sample
    pure (decision, snapshot.isSome)

/-- `immediate_load_admission`. -/
def immediateLoadAdmission (env : PressureEnvironment W)
    (requirement : Option ModelLoadRequirement)
    (sampleReader : Option (EStateM Exc W PressureSample)) : PressureM W AdmissionDecision := do
  let previous ← self
  let selected ← ofExcept (previous.selectRequirement requirement)
  let decision ← immediateLoadAdmissionLocked env selected sampleReader
  publishTransitionLocked env previous decision.2
  pure decision.1

/-- Whether a sample is older than the last one, or another one of the same time. -/
def superseded (c : PressureController) (sample : PressureSample) : Except Exc Bool :=
  match c.lastObservedAt, sample.observedAt with
  | none, _ => .ok false
  | some _, none =>
    .error (.typeError "'<' not supported between instances of 'NoneType' and 'float'")
  | some last, some observedAt =>
    .ok (observedAt < last ∨ (observedAt = last ∧ c.lastObservedSample ≠ some sample))

/-- The refusal of a load, if nothing but the capacity is against it. -/
def capacityRefusal (env : PressureEnvironment W) (sample : PressureSample) :
    PressureM W (Option AdmissionDecision) := do
  let fresh ← gpuFresh env sample
  let c ← self
  match fresh, c.config.selectedRequirement with
  | false, _ => pure none
  | true, none => throw (.typeError "requirement must be ModelLoadRequirement")
  | true, some selected => do
    let decision ← evaluate env selected sample
    pure (if decision.admitted = false ∧ decision.reasons ≠ [] ∧
        decision.reasons.all (· ∈ ["insufficient_host", "insufficient_device"]) = true then
      some decision else none)

/-- The refusal is looked for only where the gate has nothing against a load. -/
def refusal (env : PressureEnvironment W) (sample : PressureSample) :
    PressureM W (Option AdmissionDecision) := do
  let c ← self
  if c.state ≠ .yielding ∧ c.priorityRecoveryReady = true ∧ c.lastPressureReasons = [] ∧
      c.lastCriticalReasons = [] then
    capacityRefusal env sample
  else
    pure none

/-- `_explicit_capacity_refusal`. -/
def explicitCapacityRefusal (env : PressureEnvironment W) :
    PressureM W (Option AdmissionDecision) := do
  let previous ← self
  let sample ← callback env.readSample
  let stale ← ofExcept (previous.superseded sample)
  if stale then
    pure none
  else do
    observeLocked env sample false false
    let snapshot ← pollPriorityLocked env false sample.priorityObservation
      sample.priorityObservation.isNone
    let refused ← refusal env sample
    publishTransitionLocked env previous snapshot.isSome
    pure refused

/-- What can be called. -/
inductive Operation (W : Type)
  | sample
  | observe (sample : PressureSample) (modelResident : Bool)
  | pollPriority (modelResident force : Bool)
  | poll (modelResident forcePriority inferenceActive : Bool)
  | pollIdleResident
  | checkOrRaise (forcePriority : Bool)
  | closeAdmission
  | openAdmissionIfNormal
  | markReleased (reason : Option String)
  | enterNoSafeModel (requirements : Option (List ModelLoadRequirement))
  | immediateLoadAdmission (requirement : Option ModelLoadRequirement)
      (sampleReader : Option (EStateM Exc W PressureSample))
  | latchReceiptFailureWithoutPublication
  | latchReleaseFailureWithoutPublication (modelResident : Bool)
  | explicitCapacityRefusal

/-- One operation, whatever it returns. -/
def perform (env : PressureEnvironment W) : Operation W → PressureM W Unit
  | .sample => (fun _ => ()) <$> sample env
  | .observe s resident => (fun _ => ()) <$> observe env s resident
  | .pollPriority resident force => (fun _ => ()) <$> pollPriority env resident force
  | .poll resident force active => (fun _ => ()) <$> poll env resident force active
  | .pollIdleResident => (fun _ => ()) <$> pollIdleResident env
  | .checkOrRaise force => (fun _ => ()) <$> checkOrRaise env force
  | .closeAdmission => closeAdmission env
  | .openAdmissionIfNormal => (fun _ => ()) <$> openAdmissionIfNormal env
  | .markReleased reason => (fun _ => ()) <$> markReleased env reason
  | .enterNoSafeModel requirements => (fun _ => ()) <$> enterNoSafeModel env requirements
  | .immediateLoadAdmission requirement reader =>
    (fun _ => ()) <$> immediateLoadAdmission env requirement reader
  | .latchReceiptFailureWithoutPublication => latchReceiptFailureLocked
  | .latchReleaseFailureWithoutPublication resident => latchReleaseFailureLocked resident
  | .explicitCapacityRefusal => (fun _ => ()) <$> explicitCapacityRefusal env

end PressureController

namespace PressureSession

/-- A new controller. -/
def start (config : ControllerConfig) (requirements : List ModelLoadRequirement) (world : W) :
    PressureSession W :=
  ⟨.new config requirements, world, []⟩

/-- Some operations, one after another; one that raises leaves what it wrote. -/
def run (env : PressureEnvironment W) (σ : PressureSession W)
    (operations : List (PressureController.Operation W)) : PressureSession W :=
  operations.foldl (fun σ operation => after (PressureController.perform env operation) σ) σ

end PressureSession

end Subgen

import Subgen.Value
import Subgen.Lib.Procedure
import Mathlib.Algebra.Order.Field.Rat
import Mathlib.Data.Int.Order.Basic

/-!
# Samples and admission

One raw observation of the memory of the host, its cgroup and its GPU, and whether a
model may be loaded on the strength of it. Byte counts are integers of any size, which
the checks bound; a time is a number of seconds.

`evaluateAdmission` looks at the host, the cgroup and the device independently of each
other and names everything that stands against the load.

What is not known of a sample is `none`, and stands against the load where it is asked for. The reserve of
the host and the floor of the cgroup and of the device are functions of the totals, rounded up to a quantum.
The lemmas at the checks say what a check that passed has found out, so that a decision can be read backwards
from what it returned.
-/

namespace Subgen

/-- `GIB`. -/
def gib : ℤ := 1024 ^ 3

/-- `MIB`. -/
def mib : ℤ := 1024 ^ 2

/-- `CAPACITY_QUANTUM_BYTES`. -/
def capacityQuantumBytes : ℤ := 256 * mib

/-- `_MAX_BYTES`. -/
def maxBytes : ℤ := 2 ^ 63 - 1

/-- `UNBOUNDED_CGROUP_THRESHOLD`. -/
def unboundedCgroupThreshold : ℤ := 2 ^ 60

/-- What is known of the higher-priority workload. -/
inductive PriorityState
  | disabled
  | clear
  | neutral
  | asserted
  | unavailable
  deriving DecidableEq, Repr

/-- One observation of the priority signal. -/
structure PriorityObservation where
  state : PriorityState
  configured : Bool
  heartbeatAgeMs : Option ℤ
  sourceAgeMs : Option ℤ
  policySha256 : Option String
  observationDigest : Option String
  producerEpoch : Option String
  sequence : Option ℤ
  observedMonotonicNs : Option ℤ
  sourceGeneration : Option ℤ
  sourceObservedMonotonicNs : Option ℤ
  reasonCodes : List String
  accepted : Bool
  newPublication : Bool
  producerEpochChanged : Bool
  sequenceGap : Bool
  deriving DecidableEq, Repr

/-- An observation with nothing but its state. -/
def PriorityObservation.bare (state : PriorityState) (configured : Bool) : PriorityObservation :=
  ⟨state, configured, none, none, none, none, none, none, none, none, none, [], false, false, false,
    false⟩

/-- `PressureSample`. -/
structure PressureSample where
  observedAt : Option ℚ
  hostAvailableBytes : Option ℤ
  hostTotalBytes : Option ℤ
  cgroupCurrentBytes : Option ℤ
  cgroupLimitBytes : Option ℤ
  psiSomeAvg10 : Option ℚ
  psiFullAvg10 : Option ℚ
  cgroupOomEvents : Option ℤ
  cgroupOomKillEvents : Option ℤ
  hostPsiSomeAvg10 : Option ℚ
  hostPsiFullAvg10 : Option ℚ
  cgroupPsiSomeAvg10 : Option ℚ
  cgroupPsiFullAvg10 : Option ℚ
  gpuTotalBytes : Option ℤ
  gpuFreeBytes : Option ℤ
  gpuDeviceId : Option String
  gpuObservedAt : Option ℚ
  priorityObservation : Option PriorityObservation
  deriving DecidableEq

/-! ## Checks -/

/-- `_require_bytes`. -/
def requireBytes (value : ℤ) (name : String) (positive : Bool) : Except Exc ℤ :=
  if (if positive then 1 else 0) ≤ value ∧ value ≤ maxBytes then
    .ok value
  else
    .error (.valueError (name ++ " must be a bounded " ++
      (if positive then "positive" else "non-negative") ++ " integer"))

/-- `_optional_bytes`. -/
def optionalBytes (value : Option ℤ) (name : String) (positive : Bool) :
    Except Exc (Option ℤ) :=
  match value with
  | none => .ok none
  | some value => some <$> requireBytes value name positive

/-- `_require_time`. -/
def requireTime (value : Option ℚ) (name : String) : Except Exc ℚ :=
  match value with
  | some time =>
    if time < 0 then
      .error (.valueError (name ++ " must be a finite non-negative number"))
    else
      .ok time
  | none => .error (.valueError (name ++ " must be a finite non-negative number"))

theorem requireBytes_eq_ok {value result : ℤ} {name : String} {positive : Bool} :
    requireBytes value name positive = .ok result ↔
      ((if positive then 1 else 0) ≤ value ∧ value ≤ maxBytes) ∧ result = value := by
  rw [requireBytes]
  by_cases h : (if positive then 1 else 0) ≤ value ∧ value ≤ maxBytes
  · rw [if_pos h]
    exact ⟨fun hok => ⟨h, (Except.ok.inj hok).symm⟩, fun hok => congrArg Except.ok hok.2.symm⟩
  · rw [if_neg h]
    exact ⟨nofun, fun hok => absurd hok.1 h⟩

theorem eq_of_optionalBytes_eq_ok {value result : Option ℤ} {name : String} {positive : Bool}
    (h : optionalBytes value name positive = .ok result) : value = result := by
  rcases value with _ | value
  · exact Except.ok.inj h
  · rw [optionalBytes] at h
    rcases hvalue : requireBytes value name positive with e | checked <;> rw [hvalue] at h
    · cases h
    · obtain rfl := (requireBytes_eq_ok.1 hvalue).2
      exact Except.ok.inj h

theorem optionalBytes_some_eq_ok {value : ℤ} {result : Option ℤ} {name : String} {positive : Bool} :
    optionalBytes (some value) name positive = .ok result ↔
      ((if positive then 1 else 0) ≤ value ∧ value ≤ maxBytes) ∧ result = some value := by
  rw [optionalBytes]
  constructor
  · intro h
    rcases hvalue : requireBytes value name positive with e | checked <;> rw [hvalue] at h
    · cases h
    · obtain ⟨hbounds, rfl⟩ := requireBytes_eq_ok.1 hvalue
      exact ⟨hbounds, (Except.ok.inj h).symm⟩
  · rintro ⟨hbounds, rfl⟩
    rw [requireBytes_eq_ok.2 ⟨hbounds, rfl⟩]
    rfl

theorem requireTime_eq_ok {value : Option ℚ} {name : String} {time : ℚ} :
    requireTime value name = .ok time ↔ value = some time ∧ 0 ≤ time := by
  cases value with
  | none => simp [requireTime]
  | some t =>
    rw [requireTime]
    split
    · next hneg => simp; exact fun h => h ▸ hneg
    · next hpos => simp; exact fun h => h ▸ not_lt.1 hpos

/-! ## Reserves -/

/-- `_round_up_capacity_quantum`. -/
def roundUpCapacityQuantum (value : ℤ) : Except Exc ℤ := do
  let value ← requireBytes value "Capacity value" true
  .ok ((value + capacityQuantumBytes - 1) / capacityQuantumBytes * capacityQuantumBytes)

/-- The reserve of a host whose size is not known is a gigabyte. -/
def automaticHostReserveBytes (hostTotalBytes : Option ℤ) : Except Exc ℤ := do
  let total ← optionalBytes hostTotalBytes "Host total" true
  match total with
  | none => .ok gib
  | some total => roundUpCapacityQuantum (max gib ((total * 15 + 99) / 100))

/-- `host_reserve_bytes` without an explicit reserve. -/
def hostReserveBytes (hostTotal : Option ℤ) : Except Exc ℤ := do
  let hostTotalBytes ← optionalBytes hostTotal "Host total" true
  automaticHostReserveBytes hostTotalBytes

/-- `cgroup_headroom_floor`. -/
def cgroupHeadroomFloor (cgroupLimitBytes : Option ℤ) : Except Exc (Option ℤ) := do
  let limit ← optionalBytes cgroupLimitBytes "Cgroup limit" false
  match limit with
  | none => .ok none
  | some limit =>
    .ok (if limit ≥ unboundedCgroupThreshold then none else some (max (512 * mib) (limit / 10)))

/-- `_gpu_reserve_floor_bytes`. -/
def gpuReserveFloorBytes (totalVramBytes : Option ℤ) : Except Exc ℤ := do
  let total ← optionalBytes totalVramBytes "Total VRAM" true
  match total with
  | none => .ok gib
  | some total => .ok (max gib (total / 10))

/-- `_require_gpu_reserve_floor`. -/
def requireGpuReserveFloor (reserveBytes : ℤ) (totalVramBytes : Option ℤ) (name : String) :
    Except Exc ℤ := do
  let reserve ← requireBytes reserveBytes name true
  let floor ← gpuReserveFloorBytes totalVramBytes
  if reserve < floor then
    .error (.valueError (name ++ " is below the mandatory GPU reserve floor"))
  else
    .ok reserve

/-- Whether the age of a reading taken at `observed` is within the bound at the time `now`. -/
def isFresh (now observed maximumAgeSeconds : ℚ) : Bool :=
  0 ≤ now - observed ∧ now - observed ≤ maximumAgeSeconds

/-- The fields of a GPU reading, if all of them are there and valid. -/
def gpuReading (sample : PressureSample) (now : ℚ) : Except Exc (Option (ℤ × ℤ) × ℚ × ℚ) := do
  let total ← optionalBytes sample.gpuTotalBytes "GPU total" true
  let free ← optionalBytes sample.gpuFreeBytes "GPU free" false
  let observed ← requireTime sample.gpuObservedAt "GPU observation time"
  let decisionTime ← requireTime (some now) "Decision time"
  .ok (total.bind fun total => free.map fun free => (total, free), observed, decisionTime)

open Procedure in
theorem gpuReading_eq_ok {sample : PressureSample} {time : ℚ} {reading : Option (ℤ × ℤ)}
    {observed decision : ℚ} :
    gpuReading sample time = .ok (reading, observed, decision) ↔
      sample.gpuObservedAt = some observed ∧ 0 ≤ observed ∧ time = decision ∧ 0 ≤ time ∧
      ∃ total free, optionalBytes sample.gpuTotalBytes "GPU total" true = .ok total ∧
        optionalBytes sample.gpuFreeBytes "GPU free" false = .ok free ∧
        reading = total.bind fun total => free.map fun free => (total, free) := by
  simp only [gpuReading, bind_eq_ok, requireTime_eq_ok, Option.some.injEq, Except.ok.injEq,
    Prod.mk.injEq]
  constructor
  · rintro ⟨total, htotal, free, hfree, t, ⟨hgpu, ht⟩, t', ⟨rfl, ht'⟩, rfl, rfl, rfl⟩
    exact ⟨hgpu, ht, rfl, ht', total, free, htotal, hfree, rfl⟩
  · rintro ⟨hgpu, ht, rfl, ht', total, free, htotal, hfree, rfl⟩
    exact ⟨total, htotal, free, hfree, observed, ⟨hgpu, ht⟩, time, ⟨rfl, ht'⟩, rfl, rfl, rfl⟩

/-- `_gpu_sample_is_fresh`. -/
def gpuSampleIsFresh (sample : PressureSample) (expectedDevice : Option String)
    (now maximumAgeSeconds : ℚ) : Bool :=
  match gpuReading sample now with
  | .error _ => false
  | .ok (none, _, _) => false
  | .ok (some (total, free), observed, decisionTime) =>
    free ≤ total && (sample.gpuDeviceId.any (· ≠ "")) &&
      (expectedDevice.all fun device => sample.gpuDeviceId = some device) &&
      isFresh decisionTime observed maximumAgeSeconds

/-! ## Requirements and decisions -/

/-- Where a requirement comes from. -/
inductive Provenance
  | fallback
  | envelope
  | nativeProfile
  deriving DecidableEq, Repr

/-- What loading a model takes. Only values that pass the checks of `__post_init__` exist, so
    that the callers' repeated checks find nothing; `evidence` is the source the numbers were
    taken from, which is compared as a whole. -/
structure ModelLoadRequirement where
  model : String
  hostIncrementalBytes : ℤ
  cgroupIncrementalBytes : ℤ
  deviceIncrementalBytes : ℤ
  hostMarginBytes : ℤ
  deviceMarginBytes : ℤ
  provenance : Provenance
  evidence : String
  model_ne : model ≠ ""
  bytes_nonneg : 0 ≤ hostIncrementalBytes ∧ 0 ≤ cgroupIncrementalBytes ∧ 0 ≤ deviceIncrementalBytes
  margins_pos : 0 < hostMarginBytes ∧ 0 < deviceMarginBytes
  derived_le : max hostIncrementalBytes cgroupIncrementalBytes + hostMarginBytes ≤ maxBytes ∧
    deviceIncrementalBytes + deviceMarginBytes ≤ maxBytes
  deriving DecidableEq

namespace ModelLoadRequirement

variable (r : ModelLoadRequirement)

/-- An envelope that was measured for this very model and device: `envelope_resolution is not
    None`, which the checks tie to the provenance. -/
def exactMatch : Bool := r.provenance = .envelope

/-- `required_host_bytes`. -/
def requiredHostBytes : ℤ :=
  max r.hostIncrementalBytes r.cgroupIncrementalBytes + r.hostMarginBytes

/-- `required_device_bytes`. -/
def requiredDeviceBytes : ℤ := r.deviceIncrementalBytes + r.deviceMarginBytes

end ModelLoadRequirement

/-- `AdmissionDecision`. -/
structure AdmissionDecision where
  admitted : Bool
  reasons : List String
  hostAdmissionBytes : Option ℤ
  cgroupAdmissionBytes : Option ℤ
  effectiveHostAdmissionBytes : Option ℤ
  deviceAdmissionBytes : Option ℤ
  requirement : ModelLoadRequirement

/-- What stands against the time of a sample. -/
def timeReason (observedAt now : Option ℚ) (maximumSampleAgeSeconds : ℚ) :
    Except Exc (Option String) :=
  match now with
  | none => .ok (some "decision_time_unavailable")
  | some now => do
    let decisionTime ← requireTime (some now) "Decision time"
    match observedAt with
    | none => .ok (some "sample_time_unavailable")
    | some observedAt => do
      let observedAt ← requireTime (some observedAt) "Sample observation time"
      .ok (if isFresh decisionTime observedAt maximumSampleAgeSeconds then none
        else some "sample_stale")

/-- Whether the reading of the device is of the expected one, and fresh. -/
def deviceTimeValid (sample : PressureSample) (now : Option ℚ) (maximumSampleAgeSeconds : ℚ) :
    Except Exc Bool :=
  match sample.gpuObservedAt with
  | none => .ok false
  | some observedAt => do
    let decisionTime ← requireTime now "Decision time"
    let observed ← requireTime (some observedAt) "GPU observation time"
    .ok (isFresh decisionTime observed maximumSampleAgeSeconds)

/-- The reserve of the device, and whether it is below the floor of its memory. -/
def deviceReserve (gpuPriorityReserveBytes gpuTotal : Option ℤ) :
    Except Exc (Option ℤ × Bool) :=
  match gpuPriorityReserveBytes with
  | none => .ok (none, false)
  | some reserveBytes => do
    let reserve ← requireGpuReserveFloor reserveBytes none "GPU priority reserve"
    match gpuTotal with
    | none => .ok (some reserve, false)
    | some total => do
      let floor ← gpuReserveFloorBytes (some total)
      .ok (some reserve, reserve < floor)

/-- The terms of the device: the bytes it admits if its reading is valid, and whether its
    reserve is below the floor. -/
def deviceAdmission (sample : PressureSample) (gpuTotal gpuFree : Option ℤ)
    (gpuPriorityReserveBytes : Option ℤ) (expectedGpuDevice : Option String) (timely : Bool)
    (now : Option ℚ) (maximumSampleAgeSeconds : ℚ) : Except Exc (Option ℤ × Bool) :=
  match expectedGpuDevice with
  | none => .error (.valueError "GPU admission requires an exact device")
  | some device =>
    if device = "" then
      .error (.valueError "GPU admission requires an exact device")
    else do
      let (reserve, reserveBelowFloor) ← deviceReserve gpuPriorityReserveBytes gpuTotal
      match reserve, gpuTotal, gpuFree with
      | some reserve, some total, some free =>
        if timely ∧ ¬ reserveBelowFloor ∧ sample.gpuDeviceId = some device ∧ free ≤ total then do
          let valid ← deviceTimeValid sample now maximumSampleAgeSeconds
          .ok (if valid then some (max 0 (free - reserve)) else none, reserveBelowFloor)
        else
          .ok (none, reserveBelowFloor)
      | _, _, _ => .ok (none, reserveBelowFloor)

/-- What is left of the host, if that is known. -/
def hostAdmission (hostAvailable : Option ℤ) (hostInconsistent timely : Bool) (reserve : ℤ) :
    Option ℤ :=
  if timely ∧ ¬ hostInconsistent then hostAvailable.map fun available => max 0 (available - reserve)
  else none

/-- What the cgroup has left above its floor. -/
def cgroupAdmission (cgroupLimit cgroupCurrent : Option ℤ) (timely : Bool) :
    Except Exc (Option ℤ) :=
  match cgroupLimit, cgroupCurrent with
  | some limit, some current =>
    if timely then do
      let floor ← cgroupHeadroomFloor (some limit)
      .ok (floor.map fun floor => max 0 (limit - current - floor))
    else
      .ok none
  | _, _ => .ok none

/-- The smaller of the two, where both are known. -/
def effectiveHost (host cgroup : Option ℤ) (requireCgroup : Bool) : Option ℤ :=
  match host, cgroup with
  | none, _ => none
  | some host, none => if requireCgroup then none else some host
  | some host, some cgroup => some (min host cgroup)

/-- Everything that stands against the host. -/
def hostReasons (requirement : ModelLoadRequirement) (time : Option String)
    (hostInconsistent requireCgroup : Bool) (host cgroup effective : Option ℤ) : List String :=
  time.toList ++
    (if hostInconsistent then ["host_inconsistent"]
      else if host = none then ["host_unavailable"] else []) ++
    (if requireCgroup ∧ cgroup = none then ["cgroup_unavailable"] else []) ++
    (if effective.any (· < requirement.requiredHostBytes) then ["insufficient_host"] else [])

/-- Everything that stands against the device. -/
def deviceReasons (requirement : ModelLoadRequirement) (device : Option ℤ)
    (reserveBelowFloor : Bool) : List String :=
  if reserveBelowFloor then
    ["gpu_reserve_below_floor"]
  else
    match device with
    | none => ["gpu_unavailable"]
    | some device =>
      if device < requirement.requiredDeviceBytes then ["insufficient_device"] else []

/-- The check of the maximum sample age. -/
def requireSampleAge (maximumSampleAgeSeconds : ℚ) : Except Exc Unit :=
  if maximumSampleAgeSeconds ≤ 0 then
    .error (.valueError "Maximum sample age must be positive")
  else
    .ok ()

/-- The device is evaluated only where the load needs one. -/
def requiredDevice (requireGpu : Bool) (sample : PressureSample) (gpuTotal gpuFree : Option ℤ)
    (gpuPriorityReserveBytes : Option ℤ) (expectedGpuDevice : Option String) (timely : Bool)
    (now : Option ℚ) (maximumSampleAgeSeconds : ℚ) : Except Exc (Option ℤ × Bool) :=
  if requireGpu then
    deviceAdmission sample gpuTotal gpuFree gpuPriorityReserveBytes expectedGpuDevice timely now
      maximumSampleAgeSeconds
  else
    .ok (none, false)

/-- `evaluate_admission`. -/
def evaluateAdmission (requirement : ModelLoadRequirement) (sample : PressureSample)
    (hostReserve : ℤ) (gpuPriorityReserveBytes : Option ℤ) (requireCgroup requireGpu : Bool)
    (expectedGpuDevice : Option String) (now : Option ℚ) (maximumSampleAgeSeconds : ℚ) :
    Except Exc AdmissionDecision := do
  let reserve ← requireBytes hostReserve "Host reserve" false
  requireSampleAge maximumSampleAgeSeconds
  let hostAvailable ← optionalBytes sample.hostAvailableBytes "Host available" false
  let hostTotal ← optionalBytes sample.hostTotalBytes "Host total" true
  let cgroupCurrent ← optionalBytes sample.cgroupCurrentBytes "Cgroup current" false
  let cgroupLimit ← optionalBytes sample.cgroupLimitBytes "Cgroup limit" false
  let gpuTotal ← optionalBytes sample.gpuTotalBytes "GPU total" true
  let gpuFree ← optionalBytes sample.gpuFreeBytes "GPU free" false
  let time ← timeReason sample.observedAt now maximumSampleAgeSeconds
  let inconsistent := hostAvailable.any fun available => hostTotal.any (· < available)
  let host := hostAdmission hostAvailable inconsistent time.isNone reserve
  let cgroup ← cgroupAdmission cgroupLimit cgroupCurrent time.isNone
  let effective := effectiveHost host cgroup requireCgroup
  let (device, reserveBelowFloor) ← requiredDevice requireGpu sample gpuTotal gpuFree
    gpuPriorityReserveBytes expectedGpuDevice time.isNone now maximumSampleAgeSeconds
  let reasons := hostReasons requirement time inconsistent requireCgroup host cgroup effective ++
    (if requireGpu then deviceReasons requirement device reserveBelowFloor else [])
  .ok ⟨reasons.isEmpty, reasons, host, cgroup, effective, device, requirement⟩

/-! ## Pressure stall information -/

/-- `_normalized_psi_percent`. -/
def normalizedPsiPercent (value : Option ℚ) : Option ℚ :=
  value.filter fun value => 0 ≤ value ∧ value ≤ 100

/-- `_maximum_known`. -/
def maximumKnown (values : List (Option ℚ)) : Option ℚ := (values.filterMap normalizedPsiPercent).max?

end Subgen

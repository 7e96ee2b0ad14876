import Subgen.Lib.OrderedDict
import Subgen.Pressure.Admission

/-!
# Models and what loading them takes

The models of the automatic selection in their order (`ModelSize`), what loading each of them takes
(`modelLoadRequirement`), from an envelope that was measured or from the fallback budgets, and how large a
model may be that a capacity has room for (`nominalSystemModelCeiling`, `vramModelCeiling`).

Byte counts are integers. The ceiling of the system is the largest model whose fallback budget fits what is left
above the reserve, and the ceiling of the device is a table of thresholds, which grows with the memory
(`vramModelCeiling_mono`). A requirement has passed the checks of its fields, so that what is derived from it
is bounded (`derived_le`).
-/

namespace Subgen

/-- `_MODEL_ORDER`. -/
inductive ModelSize
  | tiny
  | base
  | small
  | medium
  | largeV3
  deriving DecidableEq, Repr

namespace ModelSize

/-- The name of a model. -/
def name : ModelSize → String
  | tiny => "tiny"
  | base => "base"
  | small => "small"
  | medium => "medium"
  | largeV3 => "large-v3"

/-- `_MODEL_ORDER.index(model)`. -/
def rank : ModelSize → ℕ
  | tiny => 0
  | base => 1
  | small => 2
  | medium => 3
  | largeV3 => 4

/-- `_FALLBACK_HOST_LOAD_BYTES`. -/
def fallbackHostLoadBytes : ModelSize → ℤ
  | tiny => 3 * gib / 4
  | base => gib
  | small => 2 * gib
  | medium => 5 * gib
  | largeV3 => 9 * gib

/-- `_FALLBACK_DEVICE_LOAD_BYTES`. -/
def fallbackDeviceLoadBytes : ModelSize → ℤ
  | tiny => gib
  | base => 2 * gib
  | small => 3 * gib
  | medium => 7 * gib
  | largeV3 => 12 * gib

/-- `min(..., key=_MODEL_ORDER.index)`. -/
def smaller (a b : ModelSize) : ModelSize := if a.rank ≤ b.rank then a else b

theorem rank_smaller (a b : ModelSize) : (smaller a b).rank = min a.rank b.rank := by
  unfold smaller
  split
  · next h => exact (min_eq_left h).symm
  · next h => exact (min_eq_right (not_le.1 h).le).symm

end ModelSize

/-- `reversed(_MODEL_ORDER)`. -/
def descendingModels : List ModelSize := [.largeV3, .medium, .small, .base, .tiny]

theorem mem_descendingModels (m : ModelSize) : m ∈ descendingModels := by
  cases m <;> decide

theorem descendingModels_sorted : descendingModels.Pairwise fun a b => b.rank < a.rank := by decide

/-- `_FALLBACK_HOST_MARGIN_BYTES`. -/
def fallbackHostMarginBytes : ℤ := 512 * mib

/-- `_FALLBACK_DEVICE_MARGIN_BYTES`. -/
def fallbackDeviceMarginBytes : ℤ := gib

/-! ## Capacities -/

/-- What is looked at of a `CapacityProfile`. -/
structure CapacityProfile where
  effectiveBytes : Option ℤ
  hostTotalBytes : Option ℤ
  cgroupLimitBytes : Option ℤ

/-- `Union[CapacityProfile, int, None]`. -/
inductive Capacity
  | profile (p : CapacityProfile)
  | bytes (n : Option ℤ)

/-- `_capacity_value`. -/
def Capacity.value : Capacity → Except Exc (Option ℤ)
  | profile p => optionalBytes p.effectiveBytes "Effective capacity" false
  | bytes n => optionalBytes n "Effective capacity" false

/-- What `host_reserve_bytes` takes for the size of the host. -/
def Capacity.hostTotal : Capacity → Option ℤ
  | profile p => p.hostTotalBytes
  | bytes n => n

/-- The budgets of the host and of its cgroup. -/
def Capacity.budgets (reserve : ℤ) : Capacity → Except Exc (List ℤ)
  | profile p => do
    let hostTotal ← optionalBytes p.hostTotalBytes "Host total" true
    let cgroupLimit ← optionalBytes p.cgroupLimitBytes "Cgroup limit" true
    let floor ← cgroupHeadroomFloor cgroupLimit
    let budgets := (hostTotal.map fun total => max 0 (total - reserve)).toList ++
      (cgroupLimit.bind fun limit => floor.map fun floor => max 0 (limit - floor)).toList
    .ok (if budgets = [] then (p.effectiveBytes.map fun effective => max 0 (effective - reserve)).toList
      else budgets)
  | bytes n => do
    let value ← (Capacity.bytes n).value
    .ok (value.map fun value => max 0 (value - reserve)).toList

/-- `_nominal_system_model_ceiling`. -/
def nominalSystemModelCeiling (capacity : Capacity) (reserveBytes : ℤ) : Except Exc ModelSize := do
  let reserve ← requireBytes reserveBytes "Host reserve" false
  let budgets ← capacity.budgets reserve
  match budgets.min? with
  | none => .ok .small
  | some budget => .ok ((descendingModels.find? fun model =>
      model.fallbackHostLoadBytes + fallbackHostMarginBytes ≤ budget).getD .tiny)

/-- `_vram_model_ceiling`. -/
def vramModelCeiling : Option ℤ → ModelSize
  | none => .small
  | some vram =>
    if vram < 2 * gib then .tiny
    else if vram < 3 * gib then .base
    else if vram < 7 * gib then .small
    else if vram < 12 * gib then .medium
    else .largeV3

theorem vramModelCeiling_mono {v v' : ℤ} (h : v ≤ v') :
    (vramModelCeiling (some v)).rank ≤ (vramModelCeiling (some v')).rank := by
  unfold vramModelCeiling
  dsimp only
  split_ifs <;> simp only [ModelSize.rank] <;> omega

/-! ## Requirements -/

/-- The envelope of an exact match, as far as it is looked at: positive measurements of a model. -/
structure ModelEnvelope where
  model : ModelSize
  hostIncrementalPeakBytes : ℤ
  cgroupIncrementalPeakBytes : ℤ
  deviceIncrementalPeakBytes : ℤ
  hostMarginBytes : ℤ
  deviceMarginBytes : ℤ
  evidence : String
  peaks_pos : 0 < hostIncrementalPeakBytes ∧ 0 < cgroupIncrementalPeakBytes ∧ 0 < deviceIncrementalPeakBytes
  margins_pos : 0 < hostMarginBytes ∧ 0 < deviceMarginBytes

/-- An `EnvelopeResolution`, with its envelope if it is an exact match. -/
structure EnvelopeResolution where
  envelope : Option ModelEnvelope

/-- `_validated_exact_resolution`. -/
def EnvelopeResolution.validated (r : EnvelopeResolution) : Except Exc ModelEnvelope :=
  match r.envelope with
  | none => .error (.valueError "Only exact matched envelope resolutions are admissible")
  | some envelope => .ok envelope

/-- One round of `_validated_envelopes_by_model`. -/
def addEnvelope (result : OrderedDict ModelSize ModelEnvelope) (r : EnvelopeResolution) :
    Except Exc (OrderedDict ModelSize ModelEnvelope) := do
  let envelope ← r.validated
  if result.contains envelope.model then
    .error (.valueError ("Duplicate envelope model '" ++ envelope.model.name ++ "'"))
  else
    .ok (result.insert envelope.model envelope)

/-- `_validated_envelopes_by_model`. -/
def validatedEnvelopesByModel (values : List EnvelopeResolution) :
    Except Exc (OrderedDict ModelSize ModelEnvelope) :=
  values.foldlM addEnvelope .empty

namespace ModelEnvelope

variable (e : ModelEnvelope)

/-- The numbers that `ModelLoadRequirement` checks, with their names. -/
def checkedBytes : List (ℤ × String × Bool) :=
  [(e.hostIncrementalPeakBytes, "host_incremental_bytes", false),
    (e.cgroupIncrementalPeakBytes, "cgroup_incremental_bytes", false),
    (e.deviceIncrementalPeakBytes, "device_incremental_bytes", false),
    (e.hostMarginBytes, "host_margin_bytes", true), (e.deviceMarginBytes, "device_margin_bytes", true),
    (max e.hostIncrementalPeakBytes e.cgroupIncrementalPeakBytes + e.hostMarginBytes,
      "Derived host requirement", false),
    (e.deviceIncrementalPeakBytes + e.deviceMarginBytes, "Derived device requirement", false)]

theorem derived_le (h : e.checkedBytes.find? (maxBytes < ·.1) = none) :
    max e.hostIncrementalPeakBytes e.cgroupIncrementalPeakBytes + e.hostMarginBytes ≤ maxBytes ∧
      e.deviceIncrementalPeakBytes + e.deviceMarginBytes ≤ maxBytes := by
  have hle : ∀ n name positive, (n, name, positive) ∈ e.checkedBytes → n ≤ maxBytes :=
    fun n name positive hx => by simpa using List.find?_eq_none.1 h (n, name, positive) hx
  exact ⟨hle _ "Derived host requirement" false (by simp [checkedBytes]),
    hle _ "Derived device requirement" false (by simp [checkedBytes])⟩

/-- What loading the model of an envelope takes. -/
def requirement : Except Exc ModelLoadRequirement :=
  match h : e.checkedBytes.find? (maxBytes < ·.1) with
  | some (_, name, positive) => .error (.valueError (name ++ " must be a bounded " ++
      (if positive then "positive" else "non-negative") ++ " integer"))
  | none => .ok
    { model := e.model.name
      hostIncrementalBytes := e.hostIncrementalPeakBytes
      cgroupIncrementalBytes := e.cgroupIncrementalPeakBytes
      deviceIncrementalBytes := e.deviceIncrementalPeakBytes
      hostMarginBytes := e.hostMarginBytes
      deviceMarginBytes := e.deviceMarginBytes
      provenance := .envelope
      evidence := e.evidence
      model_ne := by cases e.model <;> decide
      bytes_nonneg := ⟨e.peaks_pos.1.le, e.peaks_pos.2.1.le, e.peaks_pos.2.2.le⟩
      margins_pos := e.margins_pos
      derived_le := e.derived_le h }

end ModelEnvelope

/-- What loading a model takes by the fallback budgets. -/
def fallbackRequirement (model : ModelSize) : ModelLoadRequirement where
  model := model.name
  hostIncrementalBytes := model.fallbackHostLoadBytes
  cgroupIncrementalBytes := model.fallbackHostLoadBytes
  deviceIncrementalBytes := model.fallbackDeviceLoadBytes
  hostMarginBytes := fallbackHostMarginBytes
  deviceMarginBytes := fallbackDeviceMarginBytes
  provenance := .fallback
  evidence := "generic"
  model_ne := by cases model <;> decide
  bytes_nonneg := by cases model <;> decide
  margins_pos := by decide
  derived_le := by cases model <;> decide

/-- `model_load_requirement`, of a model of the order, with the envelope of that model or without one. -/
def modelLoadRequirement (model : ModelSize) : Option ModelEnvelope → Except Exc ModelLoadRequirement
  | none => .ok (fallbackRequirement model)
  | some envelope =>
    if envelope.model ≠ model then
      .error (.valueError "Envelope model does not match the requested model")
    else envelope.requirement

end Subgen

import Subgen.Lib.JsonTexts
import Subgen.Lib.Procedure

/-!
# Envelope catalogs

The measured envelopes of models, each for one image, one runtime and one policy, and the catalog that holds
them under a hash of its contents. A value of one of the types here has passed the `__post_init__` of its
dataclass, so that nothing else has to be validated again (`_revalidate`).

A field that is checked alone is a subtype (`Digest`, `AsciiString`, `PositiveInt`), and a check between fields
is a field of the structure: the peaks are not below the values before the load, the margins fit, the bounds
of a policy hold. The functions with the names of the dataclasses (`imageIdentity`, `envelopePolicy` and so
on) make such values of unchecked ones, or say which check failed first.
-/

namespace Subgen

namespace Envelopes

/-- `ArtifactValidationError`, by its code. `unreadable` are those that `json.loads` and its hooks lead to:
    `json_syntax`, `json_limits`, `duplicate_key` and `nonfinite_number`. -/
inductive ArtifactValidationError
  | unreadable
  | refused (code : String)

open ArtifactValidationError

/-- A check that raises `ArtifactValidationError` or gives its value. -/
abbrev Checked := Except ArtifactValidationError

/-- `CATALOG_SCHEMA`. -/
def catalogSchema : Text := text "subgen.model-envelope.catalog/v1"

/-- `IDENTITY_SCHEMA`. -/
def identitySchema : Text := text "subgen.model-envelope.identity/v1"

/-- `MAX_CATALOG_ENTRIES`. -/
def maxCatalogEntries : ℕ := 256

/-- `MAX_LAYER_DIFF_IDS`. -/
def maxLayerDiffIds : ℕ := 256

/-- `MAX_STRING_LENGTH`. -/
def maxStringLength : ℕ := 256

/-! ## Fields -/

/-- `[0-9a-f]`. -/
def isHexDigit (c : ℕ) : Bool := (48 ≤ c ∧ c ≤ 57) ∨ (97 ≤ c ∧ c ≤ 102)

/-- The start, and behind it so many hexadecimal digits. -/
def hexAfter (start : Text) (n : ℕ) (t : Text) : Bool :=
  t.take start.length = start ∧ (t.drop start.length).length = n ∧ ∀ c ∈ t.drop start.length, isHexDigit c = true

/-- What `_DIGEST_RE` matches. -/
abbrev Digest := {t : Text // hexAfter (text "sha256:") 64 t = true}

/-- What `_MODEL_REVISION_RE` matches. -/
abbrev ModelRevision := {t : Text // hexAfter (text "hf:") 40 t = true}

/-- A short nonempty text of printable ASCII characters. -/
def isAsciiString (t : Text) : Bool := t ≠ [] ∧ t.length ≤ maxStringLength ∧ ∀ c ∈ t, 32 ≤ c ∧ c ≤ 126

/-- The texts that `_require_ascii_string` lets through. -/
abbrev AsciiString := {t : Text // isAsciiString t = true}

/-- The integers that `_require_positive_int` lets through. -/
abbrev PositiveInt := {n : ℤ // 0 < n}

/-- `_require_positive_int`. -/
def positive (value : ℤ) (name : String) : Checked PositiveInt :=
  if h : 0 < value then .ok ⟨value, h⟩ else .error (refused s!"{name}_positive_integer")

/-- `_require_positive_int`. -/
def requirePositiveInt (value : Json) (name : String) : Checked PositiveInt :=
  match value with
  | .int n => positive n name
  | _ => .error (refused s!"{name}_positive_integer")

/-- `_require_ascii_string`. -/
def requireAsciiString (value : Json) (name : String) : Checked AsciiString :=
  match value with
  | .str t =>
    if h : isAsciiString t = true then .ok ⟨t, h⟩
    else if maxStringLength < t.length then .error (refused s!"{name}_limit")
    else .error (refused s!"{name}_ascii_string")
  | _ => .error (refused s!"{name}_ascii_string")

/-- `_require_digest`. -/
def requireDigest (value : Json) (name : String) : Checked Digest :=
  match value with
  | .str t => if h : hexAfter (text "sha256:") 64 t = true then .ok ⟨t, h⟩ else .error (refused s!"{name}_digest")
  | _ => .error (refused s!"{name}_digest")

/-- `_require_model_revision`. -/
def requireModelRevision (value : Json) : Checked ModelRevision :=
  match value with
  | .str t => if h : hexAfter (text "hf:") 40 t = true then .ok ⟨t, h⟩ else .error (refused "model_revision")
  | _ => .error (refused "model_revision")

/-- `_require_mapping`. -/
def requireMapping (value : Json) (name : String) : Checked (List (Text × Json)) :=
  match value with
  | .object items => .ok items
  | _ => .error (refused s!"{name}_object")

/-- `_require_fields`. -/
def requireFields (value : List (Text × Json)) (expected : List Text) (name : String) : Checked Unit :=
  if (∀ k ∈ value.map Prod.fst, k ∈ expected) ∧ ∀ k ∈ expected, k ∈ value.map Prod.fst then .ok ()
  else .error (refused s!"{name}_fields")

/-! ## Envelopes -/

/-- `ImageIdentity`, with the checks of its `__post_init__`. -/
structure ImageIdentity where
  configDigest : Digest
  layerDiffIds : List Digest
  nonempty : layerDiffIds ≠ []
  bounded : layerDiffIds.length ≤ maxLayerDiffIds
  deriving DecidableEq

/-- `ImageIdentity(...)`. -/
def imageIdentity (configDigest : Digest) (layerDiffIds : List Digest) : Checked ImageIdentity :=
  if hempty : layerDiffIds = [] then .error (refused "layer_diff_ids")
  else if hlimit : maxLayerDiffIds < layerDiffIds.length then .error (refused "layer_diff_ids_limit")
  else .ok ⟨configDigest, layerDiffIds, hempty, not_lt.1 hlimit⟩

/-- `RuntimeIdentity`. -/
structure RuntimeIdentity where
  stableTsVersion : AsciiString
  fasterWhisperVersion : AsciiString
  ctranslate2Version : AsciiString
  cudaRuntimeVersion : AsciiString
  driverVersion : AsciiString
  deviceName : AsciiString
  computeCapability : AsciiString
  totalVramBytes : PositiveInt
  deriving DecidableEq

/-- The models an envelope may be for. -/
def policyModels : List Text := ["tiny", "base", "small", "medium", "large-v3"].map text

/-- The tasks an envelope may be for. -/
def policyTasks : List Text := ["transcribe", "translate"].map text

/-- `EnvelopePolicy`. -/
structure EnvelopePolicy where
  model : AsciiString
  modelRevision : ModelRevision
  computeType : AsciiString
  task : AsciiString
  inferenceConcurrency : PositiveInt
  chunkMinutes : PositiveInt
  decoderOptionsSha256 : Digest
  model_mem : model.1 ∈ policyModels
  task_mem : task.1 ∈ policyTasks
  chunk_range : 5 ≤ chunkMinutes.1 ∧ chunkMinutes.1 ≤ 60
  deriving DecidableEq

/-- `EnvelopePolicy(...)`. -/
def envelopePolicy (model : AsciiString) (modelRevision : ModelRevision) (computeType task : AsciiString)
    (inferenceConcurrency chunkMinutes : PositiveInt) (decoderOptionsSha256 : Digest) : Checked EnvelopePolicy :=
  if hmodel : model.1 ∉ policyModels then .error (refused "model")
  else if htask : task.1 ∉ policyTasks then .error (refused "task")
  else if hchunk : ¬ (5 ≤ chunkMinutes.1 ∧ chunkMinutes.1 ≤ 60) then .error (refused "chunk_minutes")
  else .ok ⟨model, modelRevision, computeType, task, inferenceConcurrency, chunkMinutes, decoderOptionsSha256,
    not_not.1 hmodel, not_not.1 htask, not_not.1 hchunk⟩

/-- The fields of `EnvelopeMeasurements`. -/
structure MeasurementFields (α : Type) where
  runs : α
  hostPreloadUsedBytes : α
  hostPeakUsedBytes : α
  cgroupPreloadUsedBytes : α
  cgroupPeakUsedBytes : α
  devicePreloadUsedBytes : α
  devicePeakUsedBytes : α
  hostIncrementalPeakBytes : α
  cgroupIncrementalPeakBytes : α
  deviceIncrementalPeakBytes : α
  hostMarginBytes : α
  deviceMarginBytes : α
  deriving DecidableEq

/-- What `for name in EnvelopeMeasurements.__dataclass_fields__` does with every field. -/
def MeasurementFields.traverse {α β : Type} (f : α → String → Checked β) (m : MeasurementFields α) :
    Checked (MeasurementFields β) := do
  let runs ← f m.runs "runs"
  let hostPreload ← f m.hostPreloadUsedBytes "host_preload_used_bytes"
  let hostPeak ← f m.hostPeakUsedBytes "host_peak_used_bytes"
  let cgroupPreload ← f m.cgroupPreloadUsedBytes "cgroup_preload_used_bytes"
  let cgroupPeak ← f m.cgroupPeakUsedBytes "cgroup_peak_used_bytes"
  let devicePreload ← f m.devicePreloadUsedBytes "device_preload_used_bytes"
  let devicePeak ← f m.devicePeakUsedBytes "device_peak_used_bytes"
  let hostIncremental ← f m.hostIncrementalPeakBytes "host_incremental_peak_bytes"
  let cgroupIncremental ← f m.cgroupIncrementalPeakBytes "cgroup_incremental_peak_bytes"
  let deviceIncremental ← f m.deviceIncrementalPeakBytes "device_incremental_peak_bytes"
  let hostMargin ← f m.hostMarginBytes "host_margin_bytes"
  let deviceMargin ← f m.deviceMarginBytes "device_margin_bytes"
  .ok ⟨runs, hostPreload, hostPeak, cgroupPreload, cgroupPeak, devicePreload, devicePeak, hostIncremental,
    cgroupIncremental, deviceIncremental, hostMargin, deviceMargin⟩

/-- The increment of a domain is between the difference of its two values and its peak. -/
def Incremental (preload peak incremental : PositiveInt) : Prop :=
  preload.1 ≤ peak.1 ∧ peak.1 - preload.1 ≤ incremental.1 ∧ incremental.1 ≤ peak.1

instance (preload peak incremental : PositiveInt) : Decidable (Incremental preload peak incremental) :=
  inferInstanceAs (Decidable (_ ∧ _ ∧ _))

/-- `EnvelopeMeasurements`, with the checks between its fields. -/
structure EnvelopeMeasurements extends MeasurementFields PositiveInt where
  runs_ge : 3 ≤ runs.1
  host : Incremental hostPreloadUsedBytes hostPeakUsedBytes hostIncrementalPeakBytes
  cgroup : Incremental cgroupPreloadUsedBytes cgroupPeakUsedBytes cgroupIncrementalPeakBytes
  device : Incremental devicePreloadUsedBytes devicePeakUsedBytes deviceIncrementalPeakBytes
  deriving DecidableEq

/-- `EnvelopeMeasurements(...)`, of positive fields. -/
def measurementsOf (m : MeasurementFields PositiveInt) : Checked EnvelopeMeasurements :=
  if hruns : m.runs.1 < 3 then .error (refused "runs")
  else if hhost : ¬ Incremental m.hostPreloadUsedBytes m.hostPeakUsedBytes m.hostIncrementalPeakBytes then
    .error (refused "host_measurements")
  else if hcgroup : ¬ Incremental m.cgroupPreloadUsedBytes m.cgroupPeakUsedBytes m.cgroupIncrementalPeakBytes then
    .error (refused "cgroup_measurements")
  else if hdevice : ¬ Incremental m.devicePreloadUsedBytes m.devicePeakUsedBytes m.deviceIncrementalPeakBytes then
    .error (refused "device_measurements")
  else .ok ⟨m, not_lt.1 hruns, not_not.1 hhost, not_not.1 hcgroup, not_not.1 hdevice⟩

/-- `EnvelopeMeasurements(...)`. -/
def envelopeMeasurements (m : MeasurementFields ℤ) : Checked EnvelopeMeasurements := do
  measurementsOf (← m.traverse positive)

/-- `ModelEnvelope`. -/
structure ModelEnvelope where
  imageIdentity : ImageIdentity
  runtime : RuntimeIdentity
  policy : EnvelopePolicy
  measurements : EnvelopeMeasurements
  deriving DecidableEq

/-- What an envelope is looked up by. -/
structure MatchKey where
  imageIdentity : ImageIdentity
  runtime : RuntimeIdentity
  policy : EnvelopePolicy
  deriving DecidableEq

/-- `_envelope_match_key`. -/
def ModelEnvelope.matchKey (e : ModelEnvelope) : MatchKey := ⟨e.imageIdentity, e.runtime, e.policy⟩

end Envelopes

end Subgen

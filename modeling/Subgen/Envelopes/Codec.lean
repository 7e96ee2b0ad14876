import Subgen.Envelopes.Catalog
import Subgen.Lib.Sha2

/-!
# The catalog as a document

How a catalog is written (`serializeCatalog`), and what is read as one (`parseCatalogBytes`). The writer and
the reader go through the nested fields separately; a catalog that is written is read back
(`parseCatalogBytes_serializeCatalog`).

The document is canonical JSON: ASCII, the keys sorted, nothing between the tokens. The catalog holds the hash
of its own contents, which the reader computes again. A hash is a function from bytes to hexadecimal digits
(`Sha256`); nothing is assumed of it but the length and the alphabet of the digits, and `Sha256.standard` is
the one of the source.

The proof follows the nesting of the fields: an image identity, a runtime, a policy, the measurements, an
envelope, the list of envelopes, and the document. For each of them there is a lemma that it can be written, and
one that the reader gets it back from its dictionary with the keys sorted.
-/

namespace Subgen

namespace Envelopes

open Json ArtifactValidationError

/-! ## Writing -/

/-- `_image_identity_dict`. -/
def imageIdentityDict (i : ImageIdentity) : List (Text × Json) :=
  [(text "config_digest", .str i.configDigest.1),
    (text "layer_diff_ids", .array (i.layerDiffIds.map fun d => .str d.1))]

/-- `_runtime_dict`. -/
def runtimeDict (r : RuntimeIdentity) : List (Text × Json) :=
  [(text "stable_ts_version", .str r.stableTsVersion.1),
    (text "faster_whisper_version", .str r.fasterWhisperVersion.1),
    (text "ctranslate2_version", .str r.ctranslate2Version.1),
    (text "cuda_runtime_version", .str r.cudaRuntimeVersion.1),
    (text "driver_version", .str r.driverVersion.1),
    (text "device_name", .str r.deviceName.1),
    (text "compute_capability", .str r.computeCapability.1),
    (text "total_vram_bytes", .int r.totalVramBytes.1)]

/-- `_policy_dict`. -/
def policyDict (p : EnvelopePolicy) : List (Text × Json) :=
  [(text "model", .str p.model.1),
    (text "model_revision", .str p.modelRevision.1),
    (text "compute_type", .str p.computeType.1),
    (text "task", .str p.task.1),
    (text "inference_concurrency", .int p.inferenceConcurrency.1),
    (text "chunk_minutes", .int p.chunkMinutes.1),
    (text "decoder_options_sha256", .str p.decoderOptionsSha256.1)]

/-- `_measurements_dict`. -/
def measurementsDict (m : MeasurementFields PositiveInt) : List (Text × Json) :=
  [(text "runs", .int m.runs.1),
    (text "host_preload_used_bytes", .int m.hostPreloadUsedBytes.1),
    (text "host_peak_used_bytes", .int m.hostPeakUsedBytes.1),
    (text "cgroup_preload_used_bytes", .int m.cgroupPreloadUsedBytes.1),
    (text "cgroup_peak_used_bytes", .int m.cgroupPeakUsedBytes.1),
    (text "device_preload_used_bytes", .int m.devicePreloadUsedBytes.1),
    (text "device_peak_used_bytes", .int m.devicePeakUsedBytes.1),
    (text "host_incremental_peak_bytes", .int m.hostIncrementalPeakBytes.1),
    (text "cgroup_incremental_peak_bytes", .int m.cgroupIncrementalPeakBytes.1),
    (text "device_incremental_peak_bytes", .int m.deviceIncrementalPeakBytes.1),
    (text "host_margin_bytes", .int m.hostMarginBytes.1),
    (text "device_margin_bytes", .int m.deviceMarginBytes.1)]

/-- `_envelope_dict`. -/
def envelopeDict (e : ModelEnvelope) : List (Text × Json) :=
  [(text "image_identity", .object (imageIdentityDict e.imageIdentity)),
    (text "runtime", .object (runtimeDict e.runtime)),
    (text "policy", .object (policyDict e.policy)),
    (text "measurements", .object (measurementsDict e.measurements.toMeasurementFields))]

/-- The entries of a catalog, in their order. -/
def entriesJson (entries : List ModelEnvelope) : Json := .array (entries.map fun e => .object (envelopeDict e))

/-- `_json_bytes`; what is written here has no floats, so that it does not raise. -/
def jsonBytes (v : Json) : List ℕ := v.dumps.getD []

/-- `_canonical_payload_bytes`. -/
def canonicalPayloadBytes (catalogVersion : PositiveInt) (entries : List ModelEnvelope) : List ℕ :=
  jsonBytes (.object [(text "schema", .str catalogSchema), (text "catalog_version", .int catalogVersion.1),
    (text "entries", entriesJson entries)])

/-- `hashlib.sha256(...).hexdigest()`. -/
structure Sha256 where
  hexdigest : List ℕ → Text
  length_hexdigest : ∀ bytes, (hexdigest bytes).length = 64
  isHexDigit_hexdigest : ∀ bytes, ∀ c ∈ hexdigest bytes, isHexDigit c = true

/-- The function of the standard library. -/
def Sha256.standard : Sha256 where
  hexdigest := Sha2.hexdigest
  length_hexdigest := Sha2.length_hexdigest
  isHexDigit_hexdigest _ _ h := decide_eq_true (Sha2.mem_hexdigest h)

/-- The digest with the name of its algorithm in front. -/
def Sha256.digest (sha256 : Sha256) (bytes : List ℕ) : Digest :=
  ⟨text "sha256:" ++ sha256.hexdigest bytes, by
    rw [hexAfter, decide_eq_true_eq, List.take_left, List.drop_left]
    exact ⟨rfl, sha256.length_hexdigest bytes, sha256.isHexDigit_hexdigest bytes⟩⟩

/-- `ModelEnvelopeCatalog`, with what its checks ensure. -/
structure ModelEnvelopeCatalog (sha256 : Sha256) where
  catalogVersion : PositiveInt
  entries : List ModelEnvelope
  canonicalPayloadSha256 : Digest
  bounded : entries.length ≤ maxCatalogEntries
  nodup : (entries.map ModelEnvelope.matchKey).Nodup
  verified : canonicalPayloadSha256 = sha256.digest (canonicalPayloadBytes catalogVersion entries)

variable {sha256 : Sha256}

/-- `ModelEnvelopeCatalog(...)`: `_reject_duplicate_matches` and `_verify_catalog_integrity` come last. -/
def modelEnvelopeCatalog (sha256 : Sha256) (catalogVersion : PositiveInt) (entries : List ModelEnvelope)
    (canonicalPayloadSha256 : Digest) : Checked (ModelEnvelopeCatalog sha256) :=
  if hlimit : maxCatalogEntries < entries.length then .error (refused "entries_limit")
  else if hnodup : ¬ (entries.map ModelEnvelope.matchKey).Nodup then .error (refused "duplicate_match")
  else if hverified : canonicalPayloadSha256 ≠ sha256.digest (canonicalPayloadBytes catalogVersion entries) then
    .error (refused "integrity_mismatch")
  else .ok ⟨catalogVersion, entries, canonicalPayloadSha256, not_lt.1 hlimit, not_not.1 hnodup,
    not_not.1 hverified⟩

/-- `build_catalog`. -/
def buildCatalog (sha256 : Sha256) (catalogVersion : ℤ) (entries : List ModelEnvelope) :
    Checked (ModelEnvelopeCatalog sha256) := do
  let catalogVersion ← positive catalogVersion "catalog_version"
  if maxCatalogEntries < entries.length then .error (refused "entries_limit")
  else if ¬ (entries.map ModelEnvelope.matchKey).Nodup then .error (refused "duplicate_match")
  else do
    let digest := sha256.digest (canonicalPayloadBytes catalogVersion entries)
    modelEnvelopeCatalog sha256 catalogVersion entries digest

/-- The document of a catalog, with its integrity. -/
def catalogDict (c : ModelEnvelopeCatalog sha256) : List (Text × Json) :=
  [(text "schema", .str catalogSchema), (text "catalog_version", .int c.catalogVersion.1),
    (text "entries", entriesJson c.entries),
    (text "integrity", .object [(text "algorithm", .str (text "sha256")),
      (text "canonical_payload_sha256", .str c.canonicalPayloadSha256.1)])]

/-- `serialize_catalog`. -/
def serializeCatalog (c : ModelEnvelopeCatalog sha256) : List ℕ := jsonBytes (.object (catalogDict c))

/-! ## Reading -/

/-- `_image_identity_from_dict`. -/
def imageIdentityFromDict (value : Json) : Checked ImageIdentity := do
  let fields ← requireMapping value "image_identity"
  requireFields fields [text "config_digest", text "layer_diff_ids"] "image_identity"
  match Json.get fields (text "layer_diff_ids") with
  | .array values =>
    if values = [] then .error (refused "layer_diff_ids")
    else if maxLayerDiffIds < values.length then .error (refused "layer_diff_ids_limit")
    else do
      let configDigest ← requireDigest (Json.get fields (text "config_digest")) "config_digest"
      let layerDiffIds ← values.mapM (requireDigest · "layer_diff_ids")
      imageIdentity configDigest layerDiffIds
  | _ => .error (refused "layer_diff_ids")

/-- The fields of a runtime. -/
def runtimeKeys : List Text := ["stable_ts_version", "faster_whisper_version", "ctranslate2_version",
  "cuda_runtime_version", "driver_version", "device_name", "compute_capability", "total_vram_bytes"].map text

/-- The fields of a policy. -/
def policyKeys : List Text := ["model", "model_revision", "compute_type", "task", "inference_concurrency",
  "chunk_minutes", "decoder_options_sha256"].map text

/-- The fields of the measurements. -/
def measurementKeys : List Text := ["runs", "host_preload_used_bytes", "host_peak_used_bytes",
  "cgroup_preload_used_bytes", "cgroup_peak_used_bytes", "device_preload_used_bytes", "device_peak_used_bytes",
  "host_incremental_peak_bytes", "cgroup_incremental_peak_bytes", "device_incremental_peak_bytes",
  "host_margin_bytes", "device_margin_bytes"].map text

/-- `_runtime_from_dict`, of its fields. -/
def runtimeFromDict (fields : List (Text × Json)) : Checked RuntimeIdentity := do
  let stableTs ← requireAsciiString (Json.get fields (text "stable_ts_version")) "stable_ts_version"
  let fasterWhisper ← requireAsciiString (Json.get fields (text "faster_whisper_version")) "faster_whisper_version"
  let ctranslate2 ← requireAsciiString (Json.get fields (text "ctranslate2_version")) "ctranslate2_version"
  let cudaRuntime ← requireAsciiString (Json.get fields (text "cuda_runtime_version")) "cuda_runtime_version"
  let driver ← requireAsciiString (Json.get fields (text "driver_version")) "driver_version"
  let deviceName ← requireAsciiString (Json.get fields (text "device_name")) "device_name"
  let capability ← requireAsciiString (Json.get fields (text "compute_capability")) "compute_capability"
  let vram ← requirePositiveInt (Json.get fields (text "total_vram_bytes")) "total_vram_bytes"
  .ok ⟨stableTs, fasterWhisper, ctranslate2, cudaRuntime, driver, deviceName, capability, vram⟩

/-- `_policy_from_dict`, of its fields. -/
def policyFromDict (fields : List (Text × Json)) : Checked EnvelopePolicy := do
  let model ← requireAsciiString (Json.get fields (text "model")) "model"
  let revision ← requireModelRevision (Json.get fields (text "model_revision"))
  let computeType ← requireAsciiString (Json.get fields (text "compute_type")) "compute_type"
  let task ← requireAsciiString (Json.get fields (text "task")) "task"
  let concurrency ← requirePositiveInt (Json.get fields (text "inference_concurrency")) "inference_concurrency"
  let chunkMinutes ← requirePositiveInt (Json.get fields (text "chunk_minutes")) "chunk_minutes"
  let options ← requireDigest (Json.get fields (text "decoder_options_sha256")) "decoder_options_sha256"
  envelopePolicy model revision computeType task concurrency chunkMinutes options

/-- The values of the measurements, before they are looked at. -/
def measurementValues (fields : List (Text × Json)) : MeasurementFields Json :=
  ⟨Json.get fields (text "runs"), Json.get fields (text "host_preload_used_bytes"),
    Json.get fields (text "host_peak_used_bytes"), Json.get fields (text "cgroup_preload_used_bytes"),
    Json.get fields (text "cgroup_peak_used_bytes"), Json.get fields (text "device_preload_used_bytes"),
    Json.get fields (text "device_peak_used_bytes"), Json.get fields (text "host_incremental_peak_bytes"),
    Json.get fields (text "cgroup_incremental_peak_bytes"), Json.get fields (text "device_incremental_peak_bytes"),
    Json.get fields (text "host_margin_bytes"), Json.get fields (text "device_margin_bytes")⟩

/-- `_measurements_from_dict`, of its fields. -/
def measurementsFromDict (fields : List (Text × Json)) : Checked EnvelopeMeasurements := do
  measurementsOf (← (measurementValues fields).traverse requirePositiveInt)

/-- `_envelope_from_dict`. -/
def envelopeFromDict (value : Json) : Checked ModelEnvelope := do
  let fields ← requireMapping value "entry"
  requireFields fields [text "image_identity", text "runtime", text "policy", text "measurements"] "entry"
  let runtime ← requireMapping (Json.get fields (text "runtime")) "runtime"
  let policy ← requireMapping (Json.get fields (text "policy")) "policy"
  let measurements ← requireMapping (Json.get fields (text "measurements")) "measurements"
  requireFields runtime runtimeKeys "runtime"
  requireFields policy policyKeys "policy"
  requireFields measurements measurementKeys "measurements"
  let image ← imageIdentityFromDict (Json.get fields (text "image_identity"))
  let runtime ← runtimeFromDict runtime
  let policy ← policyFromDict policy
  let measurements ← measurementsFromDict measurements
  .ok ⟨image, runtime, policy, measurements⟩

/-- `_decode_document`. -/
def decodeDocument (F : FloatReader) (raw : List ℕ) : Checked (List (Text × Json)) :=
  if ∃ b ∈ raw, 127 < b then .error (refused "ascii_document")
  else
    match Json.loads F raw with
    | none => .error unreadable
    | some v => requireMapping v "document"

/-- `CatalogIntegrity(...)`. -/
def catalogIntegrity (algorithm digest : Json) : Checked Digest :=
  match algorithm with
  | .str t =>
    if t = text "sha256" then requireDigest digest "integrity_digest"
    else .error (refused "integrity_algorithm")
  | _ => .error (refused "integrity_algorithm")

/-- The schema is the expected one. -/
def requireSchema (value : Json) (schema : Text) (name : String) : Checked Unit :=
  match value with
  | .str t => if t = schema then .ok () else .error (refused s!"{name}_schema")
  | _ => .error (refused s!"{name}_schema")

/-- The entries are a list. -/
def requireEntries (value : Json) : Checked (List Json) :=
  match value with
  | .array values => if maxCatalogEntries < values.length then .error (refused "entries_limit") else .ok values
  | _ => .error (refused "entries")

/-- `_parse_catalog_bytes`. -/
def parseCatalogBytes (F : FloatReader) (sha256 : Sha256) (raw : List ℕ) :
    Checked (ModelEnvelopeCatalog sha256) := do
  let value ← decodeDocument F raw
  requireFields value [text "schema", text "catalog_version", text "entries", text "integrity"] "catalog"
  requireSchema (Json.get value (text "schema")) catalogSchema "catalog"
  let catalogVersion ← requirePositiveInt (Json.get value (text "catalog_version")) "catalog_version"
  let rawEntries ← requireEntries (Json.get value (text "entries"))
  let entries ← rawEntries.mapM envelopeFromDict
  let integrity ← requireMapping (Json.get value (text "integrity")) "integrity"
  requireFields integrity [text "algorithm", text "canonical_payload_sha256"] "integrity"
  let digest ← catalogIntegrity (Json.get integrity (text "algorithm"))
    (Json.get integrity (text "canonical_payload_sha256"))
  modelEnvelopeCatalog sha256 catalogVersion entries digest

/-- `_parse_identity_bytes`; of the artifact only the identity is looked at later. -/
def parseIdentityBytes (F : FloatReader) (raw : List ℕ) : Checked ImageIdentity := do
  let value ← decodeDocument F raw
  requireFields value [text "schema", text "image_identity"] "identity"
  requireSchema (Json.get value (text "schema")) identitySchema "identity"
  imageIdentityFromDict (Json.get value (text "image_identity"))

/-! ## What is written is read -/

section Fields

variable {v : Json} {name : String}

/-- A positive number passes. -/
theorem requirePositiveInt_eq (n : PositiveInt) (h : v = .int n.1) : requirePositiveInt v name = .ok n := by
  rw [h]
  exact dif_pos n.2

/-- A text of ASCII passes. -/
theorem requireAsciiString_eq (t : AsciiString) (h : v = .str t.1) : requireAsciiString v name = .ok t := by
  rw [h]
  exact dif_pos t.2

/-- A digest passes. -/
theorem requireDigest_eq (d : Digest) (h : v = .str d.1) : requireDigest v name = .ok d := by
  rw [h]
  exact dif_pos d.2

/-- A revision passes. -/
theorem requireModelRevision_eq (r : ModelRevision) (h : v = .str r.1) : requireModelRevision v = .ok r := by
  rw [h]
  exact dif_pos r.2

/-- Hexadecimal digits behind a start of ASCII are encodable. -/
theorem encodable_hexAfter {start t : Text} {n : ℕ} (hstart : ∀ c ∈ start, c ≤ 126)
    (h : hexAfter start n t = true) : Encodable t := by
  refine encodable_ascii fun c hc => ?_
  rw [hexAfter, decide_eq_true_eq] at h
  rw [← List.take_append_drop start.length t, h.1, List.mem_append] at hc
  rcases hc with hc | hc
  · exact hstart c hc
  · have hhex := h.2.2 c hc
    simp only [isHexDigit, decide_eq_true_eq] at hhex
    omega

/-- A digest can be written. -/
theorem writable_digest (d : Digest) : (Json.str d.1).Writable :=
  writable_str (encodable_hexAfter (by decide) d.2)

/-- So can a revision. -/
theorem writable_modelRevision (r : ModelRevision) : (Json.str r.1).Writable :=
  writable_str (encodable_hexAfter (by decide) r.2)

/-- So can a text of ASCII. -/
theorem writable_asciiString (t : AsciiString) : (Json.str t.1).Writable := by
  have h := t.2
  rw [isAsciiString, decide_eq_true_eq] at h
  exact writable_str (encodable_ascii fun c hc => (h.2.2 c hc).2)

end Fields

/-- An object of such fields. -/
structure Fields (keys : List Text) (items : List (Text × Json)) : Prop where
  keys_eq : items.map Prod.fst = keys
  nodup : keys.Nodup
  ascii : ∀ k ∈ keys, ∀ c ∈ k, c ≤ 126
  values : ∀ v ∈ items.map Prod.snd, v.Writable

variable {keys : List Text} {items : List (Text × Json)} {name : String}

/-- The object of some fields can be written. -/
theorem Fields.writable (h : Fields keys items) : (Json.object items).Writable := by
  refine writable_object (h.keys_eq ▸ h.nodup) fun item hitem => ⟨?_, h.values _ (List.mem_map_of_mem hitem)⟩
  exact encodable_ascii (h.ascii _ (h.keys_eq ▸ List.mem_map_of_mem hitem))

/-- The same object with its keys sorted. -/
def sorted (items : List (Text × Json)) : List (Text × Json) := sortItems (sortMembers items)

/-- An object is a mapping when its keys are sorted. -/
theorem requireMapping_sortKeys : requireMapping (Json.object items).sortKeys name = .ok (sorted items) := rfl

/-- Sorted fields are still the expected ones. -/
theorem Fields.requireFields_sorted (h : Fields keys items) : requireFields (sorted items) keys name = .ok () := by
  have hmem : ∀ k, k ∈ (sorted items).map Prod.fst ↔ k ∈ keys := by
    intro k
    rw [sorted, ((sortItems_perm _).map _).mem_iff, map_fst_sortMembers, h.keys_eq]
  exact if_pos ⟨fun k => (hmem k).1, fun k => (hmem k).2⟩

/-- They are found by their keys. -/
theorem Fields.get_sorted (h : Fields keys items) (k : Text) :
    Json.get (sorted items) k = (Json.get items k).sortKeys := by
  rw [sorted, get_sortItems _ k, get_sortMembers]
  rw [map_fst_sortMembers, h.keys_eq]
  exact h.nodup

open Procedure

/-- The document of an image has its fields. -/
theorem fields_imageIdentityDict (i : ImageIdentity) :
    Fields [text "config_digest", text "layer_diff_ids"] (imageIdentityDict i) where
  keys_eq := rfl
  nodup := by decide
  ascii := by decide
  values := by
    refine List.forall_mem_cons.2 ⟨writable_digest _, List.forall_mem_singleton.2 (writable_array fun v hv => ?_)⟩
    obtain ⟨d, -, rfl⟩ := List.mem_map.1 hv
    exact writable_digest d

/-- An image is read back. -/
theorem imageIdentityFromDict_sortKeys (i : ImageIdentity) :
    imageIdentityFromDict (Json.object (imageIdentityDict i)).sortKeys = .ok i := by
  have h := fields_imageIdentityDict i
  have hlayers : Json.get (sorted (imageIdentityDict i)) (text "layer_diff_ids") =
      .array (i.layerDiffIds.map fun d => .str d.1) := by
    rw [h.get_sorted]
    refine (congrArg Json.array (sortElements_eq _)).trans ?_
    rw [List.map_map]
    rfl
  refine bind_eq_ok.2 ⟨_, requireMapping_sortKeys, bind_eq_ok.2 ⟨_, h.requireFields_sorted, ?_⟩⟩
  rw [hlayers]
  dsimp only
  rw [if_neg fun heq => i.nonempty (List.map_eq_nil_iff.1 heq), if_neg (by rw [List.length_map]; exact i.bounded.not_gt)]
  refine bind_eq_ok.2 ⟨_, requireDigest_eq i.configDigest (h.get_sorted _), bind_eq_ok.2
    ⟨_, mapM_map_of_ok fun d _ => requireDigest_eq d rfl, ?_⟩⟩
  exact (dif_neg i.nonempty).trans (dif_neg i.bounded.not_gt)

/-- The document of a runtime has its fields. -/
theorem fields_runtimeDict (r : RuntimeIdentity) : Fields runtimeKeys (runtimeDict r) where
  keys_eq := rfl
  nodup := by decide +kernel
  ascii := by decide +kernel
  values := by
    simp only [runtimeDict, List.map_cons, List.map_nil, List.forall_mem_cons, writable_asciiString, writable_int,
      true_and]
    exact nofun

/-- A runtime is read back. -/
theorem runtimeFromDict_sorted (r : RuntimeIdentity) : runtimeFromDict (sorted (runtimeDict r)) = .ok r := by
  have h := fun k => (fields_runtimeDict r).get_sorted k
  simp only [runtimeFromDict, h]
  exact bind_eq_ok.2 ⟨_, requireAsciiString_eq r.stableTsVersion rfl, bind_eq_ok.2
    ⟨_, requireAsciiString_eq r.fasterWhisperVersion rfl, bind_eq_ok.2
    ⟨_, requireAsciiString_eq r.ctranslate2Version rfl, bind_eq_ok.2
    ⟨_, requireAsciiString_eq r.cudaRuntimeVersion rfl, bind_eq_ok.2
    ⟨_, requireAsciiString_eq r.driverVersion rfl, bind_eq_ok.2
    ⟨_, requireAsciiString_eq r.deviceName rfl, bind_eq_ok.2
    ⟨_, requireAsciiString_eq r.computeCapability rfl, bind_eq_ok.2
    ⟨_, requirePositiveInt_eq r.totalVramBytes rfl, rfl⟩⟩⟩⟩⟩⟩⟩⟩

/-- The document of a policy has its fields. -/
theorem fields_policyDict (p : EnvelopePolicy) : Fields policyKeys (policyDict p) where
  keys_eq := rfl
  nodup := by decide +kernel
  ascii := by decide +kernel
  values := by
    simp only [policyDict, List.map_cons, List.map_nil, List.forall_mem_cons, writable_asciiString, writable_int,
      writable_modelRevision, writable_digest, true_and]
    exact nofun

/-- A policy is read back. -/
theorem policyFromDict_sorted (p : EnvelopePolicy) : policyFromDict (sorted (policyDict p)) = .ok p := by
  have h := fun k => (fields_policyDict p).get_sorted k
  simp only [policyFromDict, h]
  refine bind_eq_ok.2 ⟨_, requireAsciiString_eq p.model rfl, bind_eq_ok.2
    ⟨_, requireModelRevision_eq p.modelRevision rfl, bind_eq_ok.2
    ⟨_, requireAsciiString_eq p.computeType rfl, bind_eq_ok.2
    ⟨_, requireAsciiString_eq p.task rfl, bind_eq_ok.2
    ⟨_, requirePositiveInt_eq p.inferenceConcurrency rfl, bind_eq_ok.2
    ⟨_, requirePositiveInt_eq p.chunkMinutes rfl, bind_eq_ok.2
    ⟨_, requireDigest_eq p.decoderOptionsSha256 rfl, ?_⟩⟩⟩⟩⟩⟩⟩
  exact (dif_neg (not_not.2 p.model_mem)).trans ((dif_neg (not_not.2 p.task_mem)).trans
    (dif_neg (not_not.2 p.chunk_range)))

/-- The document of the measurements has its fields. -/
theorem fields_measurementsDict (m : MeasurementFields PositiveInt) :
    Fields measurementKeys (measurementsDict m) where
  keys_eq := rfl
  nodup := by decide +kernel
  ascii := by decide +kernel
  values := by
    simp only [measurementsDict, List.map_cons, List.map_nil, List.forall_mem_cons, writable_int, true_and]
    exact nofun

/-- Nothing is refused of fields that are as they should be. -/
theorem traverse_eq_ok {α β : Type} {f : α → String → Checked β} {g : β → α} (h : ∀ b s, f (g b) s = .ok b)
    (m : MeasurementFields β) :
    MeasurementFields.traverse f ⟨g m.runs, g m.hostPreloadUsedBytes, g m.hostPeakUsedBytes,
      g m.cgroupPreloadUsedBytes, g m.cgroupPeakUsedBytes, g m.devicePreloadUsedBytes, g m.devicePeakUsedBytes,
      g m.hostIncrementalPeakBytes, g m.cgroupIncrementalPeakBytes, g m.deviceIncrementalPeakBytes,
      g m.hostMarginBytes, g m.deviceMarginBytes⟩ = .ok m := by
  simp only [MeasurementFields.traverse, h, bind, Except.bind]

/-- Measurements pass their own check. -/
theorem measurementsOf_eq_ok (m : EnvelopeMeasurements) : measurementsOf m.toMeasurementFields = .ok m :=
  (dif_neg m.runs_ge.not_gt).trans ((dif_neg (not_not.2 m.host)).trans ((dif_neg (not_not.2 m.cgroup)).trans
    (dif_neg (not_not.2 m.device))))

/-- Measurements are read back. -/
theorem measurementsFromDict_sorted (m : EnvelopeMeasurements) :
    measurementsFromDict (sorted (measurementsDict m.toMeasurementFields)) = .ok m := by
  have h := fun k => (fields_measurementsDict m.toMeasurementFields).get_sorted k
  simp only [measurementsFromDict, measurementValues, h]
  exact bind_eq_ok.2 ⟨m.toMeasurementFields,
    traverse_eq_ok (g := fun n : PositiveInt => .int n.1) (fun n _ => requirePositiveInt_eq n rfl) _,
    measurementsOf_eq_ok m⟩

/-- The document of an envelope has its fields. -/
theorem fields_envelopeDict (e : ModelEnvelope) :
    Fields [text "image_identity", text "runtime", text "policy", text "measurements"] (envelopeDict e) where
  keys_eq := rfl
  nodup := by decide
  ascii := by decide
  values := by
    simp only [envelopeDict, List.map_cons, List.map_nil, List.forall_mem_cons,
      (fields_imageIdentityDict _).writable, (fields_runtimeDict _).writable, (fields_policyDict _).writable,
      (fields_measurementsDict _).writable, true_and]
    exact nofun

/-- An envelope is read back. -/
theorem envelopeFromDict_sortKeys (e : ModelEnvelope) :
    envelopeFromDict (Json.object (envelopeDict e)).sortKeys = .ok e := by
  have h := fields_envelopeDict e
  refine bind_eq_ok.2 ⟨_, requireMapping_sortKeys, bind_eq_ok.2 ⟨_, h.requireFields_sorted, ?_⟩⟩
  simp only [h.get_sorted]
  exact bind_eq_ok.2 ⟨sorted (runtimeDict e.runtime), rfl, bind_eq_ok.2 ⟨sorted (policyDict e.policy), rfl,
    bind_eq_ok.2 ⟨sorted (measurementsDict e.measurements.toMeasurementFields), rfl, bind_eq_ok.2
    ⟨_, (fields_runtimeDict e.runtime).requireFields_sorted, bind_eq_ok.2
    ⟨_, (fields_policyDict e.policy).requireFields_sorted, bind_eq_ok.2
    ⟨_, (fields_measurementsDict e.measurements.toMeasurementFields).requireFields_sorted, bind_eq_ok.2
    ⟨_, imageIdentityFromDict_sortKeys e.imageIdentity, bind_eq_ok.2 ⟨_, runtimeFromDict_sorted e.runtime, bind_eq_ok.2
    ⟨_, policyFromDict_sorted e.policy, bind_eq_ok.2 ⟨_, measurementsFromDict_sorted e.measurements, rfl⟩⟩⟩⟩⟩⟩⟩⟩⟩⟩

variable {F : FloatReader} (c : ModelEnvelopeCatalog sha256)

/-- The entries can be written. -/
theorem writable_entriesJson (entries : List ModelEnvelope) : (entriesJson entries).Writable := by
  refine writable_array fun v hv => ?_
  obtain ⟨e, -, rfl⟩ := List.mem_map.1 hv
  exact (fields_envelopeDict e).writable

/-- The integrity has its fields. -/
theorem fields_integrity (d : Digest) : Fields [text "algorithm", text "canonical_payload_sha256"]
    [(text "algorithm", .str (text "sha256")), (text "canonical_payload_sha256", .str d.1)] where
  keys_eq := rfl
  nodup := by decide
  ascii := by decide
  values := List.forall_mem_cons.2 ⟨writable_str (encodable_ascii (by decide)),
    List.forall_mem_singleton.2 (writable_digest d)⟩

/-- The document of a catalog has its fields. -/
theorem fields_catalogDict :
    Fields [text "schema", text "catalog_version", text "entries", text "integrity"] (catalogDict c) where
  keys_eq := rfl
  nodup := by decide
  ascii := by decide
  values := by
    simp only [catalogDict, List.map_cons, List.map_nil, List.forall_mem_cons, writable_int, writable_entriesJson,
      (fields_integrity _).writable, true_and]
    exact ⟨writable_str (encodable_ascii (by decide)), nofun⟩

/-- What was written is decoded with its keys sorted. -/
theorem decodeDocument_jsonBytes {items : List (Text × Json)} (h : (Json.object items).Writable) :
    decodeDocument F (jsonBytes (.object items)) = .ok (sorted items) := by
  have hsorted := Writable.sortKeys _ h
  have hascii : ¬ ∃ b ∈ (Json.object items).sortKeys.print, 127 < b := by
    rintro ⟨b, hb, hlt⟩
    exact absurd (printable_print _ hsorted.readable b hb).2 (by omega)
  rw [jsonBytes, h.dumps, Option.getD_some, decodeDocument, if_neg hascii, hsorted.loads F]
  rfl

/-- A catalog that is written is read back. -/
theorem parseCatalogBytes_serializeCatalog : parseCatalogBytes F sha256 (serializeCatalog c) = .ok c := by
  have h := fields_catalogDict c
  have hentries : (Json.get (catalogDict c) (text "entries")).sortKeys =
      .array (c.entries.map fun e => (Json.object (envelopeDict e)).sortKeys) := by
    refine (congrArg Json.array (sortElements_eq _)).trans ?_
    rw [List.map_map]
    rfl
  have hlimit : ¬ maxCatalogEntries < (c.entries.map fun e => (Json.object (envelopeDict e)).sortKeys).length := by
    rw [List.length_map]
    exact c.bounded.not_gt
  have hschema : requireSchema (.str catalogSchema) catalogSchema "catalog" = .ok () := by
    rw [requireSchema, if_pos rfl]
  have hdigest : catalogIntegrity (.str (text "sha256")) (.str c.canonicalPayloadSha256.1) =
      .ok c.canonicalPayloadSha256 := by
    rw [catalogIntegrity, if_pos rfl]
    exact requireDigest_eq c.canonicalPayloadSha256 rfl
  refine bind_eq_ok.2 ⟨_, decodeDocument_jsonBytes h.writable, bind_eq_ok.2 ⟨_, h.requireFields_sorted, ?_⟩⟩
  simp only [h.get_sorted, hentries]
  refine bind_eq_ok.2 ⟨_, hschema, bind_eq_ok.2 ⟨_, requirePositiveInt_eq c.catalogVersion rfl, bind_eq_ok.2
    ⟨_, if_neg hlimit, bind_eq_ok.2 ⟨_, mapM_map_of_ok fun e _ => envelopeFromDict_sortKeys e, ?_⟩⟩⟩⟩
  have hintegrity := fields_integrity c.canonicalPayloadSha256
  refine bind_eq_ok.2 ⟨_, requireMapping_sortKeys, bind_eq_ok.2 ⟨_, hintegrity.requireFields_sorted, ?_⟩⟩
  simp only [hintegrity.get_sorted]
  refine bind_eq_ok.2 ⟨_, hdigest, ?_⟩
  exact (dif_neg c.bounded.not_gt).trans ((dif_neg (not_not.2 c.nodup)).trans (dif_neg (not_not.2 c.verified)))

end Envelopes

end Subgen

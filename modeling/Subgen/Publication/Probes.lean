import Subgen.Publication.Intent

/-!
# Probes of the registry

Before it relies on the conditional writes of the registry the publisher tries them on a reference of its
own: the manifests that it puts there are those of the release with a different annotation each, and the
receipt says how far it got (`RegistryProbeReceipt`). Everything about a receipt can be computed from the
intent, its kind and its token, so that a receipt that was read again is checked as a whole
(`validateProbeReceipt`).

There are two kinds. A probe of a tag that is created only once puts a winner there, and then one that has to
be refused; a probe of a tag that is moved puts one there before, moves it to the winner, and then tries to
move it from where it was. What was seen of the reference is compared with the manifests of the labels
(`classifyProbeObservation`).

* `probeMaterials`: the reference, the binding and the manifests of a token, of which no two have one digest;
* `probeVerificationSha256`: what a finished probe is known by;
* `validateProbeReceipt`: a receipt agrees with its intent.
-/

namespace Subgen

/-- The manifests of a probe. -/
inductive ProbeLabel
  | prior
  | winner
  | rejected
  deriving DecidableEq

/-- The text of a label. -/
def ProbeLabel.name : ProbeLabel → Text
  | prior => text "prior"
  | winner => text "winner"
  | rejected => text "rejected"

/-- The manifests that a probe needs. -/
def ProbeKind.labels : ProbeKind → List ProbeLabel
  | create => [.winner, .rejected]
  | cas => [.prior, .winner, .rejected]

/-- `REGISTRY_PROBE_PREFIX`. -/
def registryProbePrefix : Text := text "task12-probe-"

/-- `OCI_INDEX_MEDIA_TYPE`. -/
def ociIndexMediaType : Text := text "application/vnd.oci.image.index.v1+json"

/-- `document[key] = value`. -/
def setMember (items : List (Text × Json)) (key : Text) (value : Json) : List (Text × Json) :=
  if (items.map Prod.fst).contains key then
    items.map fun item => if item.1 = key then (key, value) else item
  else items ++ [(key, value)]

/-- `document.get("annotations", {})`, of which the values have to be strings. -/
def annotationsOf (items : List (Text × Json)) : Except LoadError (List (Text × Json)) :=
  match items.lookup (text "annotations") with
  | none => .ok []
  | some (.object annotations) => do
    blockIf (¬ annotations.all fun item => (textOf item.2).isSome) "registry_probe_annotations_invalid"
    return annotations
  | some _ => .error (.blocked "registry_probe_annotations_invalid")

/-- What a probe publishes. -/
structure ProbeMaterials where
  reference : Text
  bindingSha256 : Text
  manifests : List RegistryManifest

/-- `RegistryProbeObservation`. -/
structure RegistryProbeObservation where
  digest : Option Text
  etag : Option Text
  payload : Option (List ℕ)
  deriving DecidableEq

/-- `RegistryProbeWrite`. -/
structure RegistryProbeWrite where
  status : ℤ
  digest : Option Text

section Materials

variable (I : Interpreter) (hash : List ℕ → Text) (intent : ReleaseIntent)

/-- The manifest of a label. -/
def probeManifest (source annotations : List (Text × Json)) (bindingSha256 : Text) (kind : ProbeKind)
    (label : ProbeLabel) : Except LoadError RegistryManifest := do
  let mark ← canonicalJsonBytes (.object
    [(text "binding_sha256", .str bindingSha256), (text "kind", .str kind.name),
     (text "label", .str label.name)])
  let payload ← canonicalJsonBytes (.object (setMember source (text "annotations")
    (.object (setMember annotations (text "io.github.herbertmt978.subgen.task12.probe") (.str (hash mark))))))
  let manifest : RegistryManifest :=
    ⟨text "sha256:" ++ hash payload, payload.length, ociIndexMediaType, payload⟩
  manifest.validate I hash
  return manifest

/-- The manifests of the labels; `reserved` are the digests that were given before. -/
def probeManifests (source annotations : List (Text × Json)) (bindingSha256 : Text) (kind : ProbeKind) :
    List Text → List ProbeLabel → Except LoadError (List RegistryManifest)
  | _, [] => .ok []
  | reserved, label :: labels => do
    let manifest ← probeManifest I hash source annotations bindingSha256 kind label
    blockIf (manifest.digest ∈ reserved) "registry_probe_manifest_collision"
    let manifests ← probeManifests source annotations bindingSha256 kind (manifest.digest :: reserved) labels
    return manifest :: manifests

/-- `_probe_materials`, with the labels of the kind. -/
def probeMaterials (kind : ProbeKind) (token : Text) : Except LoadError ProbeMaterials := do
  blockIf (¬ isSha256 token) "registry_probe_token_invalid"
  let intentSha256 ← intent.intentSha256 hash
  let binding ← canonicalJsonBytes (.object
    [(text "schema", .str (text "subgen.task12.registry-probe-binding/v1")),
     (text "intent_sha256", .str intentSha256), (text "kind", .str kind.name),
     (text "token_sha256", .str (hash token))])
  let bindingSha256 := hash binding
  let reference := registryProbePrefix ++ kind.name ++ text "-" ++ bindingSha256.take 40
  blockIf (reference ∈ [intent.versionTag, text "latest"] ∨ 128 < reference.length)
    "registry_probe_reference_invalid"
  let source ← I.strictJsonObject "sealed_manifest" intent.sealedManifest
  let annotations ← annotationsOf source
  let reserved := intent.image.ociIndex :: intent.requiredManifests.map (·.digest)
  let manifests ← probeManifests I hash source annotations bindingSha256 kind reserved kind.labels
  return ⟨reference, bindingSha256, manifests⟩

/-- `_probe_verification_sha256`. -/
def probeVerificationSha256 (receipt : RegistryProbeReceipt) (manifests : List RegistryManifest) :
    Except LoadError Text := do
  blockIf (manifests.length ≠ receipt.kind.labels.length) "registry_probe_plan_invalid"
  let intentSha256 ← intent.intentSha256 hash
  let priorEtag ← match receipt.kind with
    | .create => do
      blockIf receipt.priorEtag.isSome "registry_probe_prior_etag_invalid"
      .ok []
    | .cas => do
      let etag ← demand "registry_probe_prior_etag_invalid" (receipt.priorEtag.filter isEtag)
      .ok [(text "prior_etag_sha256", Json.str (hash etag))]
  let winnerEtag ← demand "registry_probe_winner_etag_invalid" (receipt.winnerEtag.filter isEtag)
  let payload ← canonicalJsonBytes (.object
    ([(text "schema", .str (text "subgen.task12.registry-probe-verification/v3")),
      (text "intent_sha256", .str intentSha256), (text "kind", .str receipt.kind.name),
      (text "reference", .str receipt.reference), (text "token_sha256", .str (hash receipt.token)),
      (text "manifests", .object (List.zipWith (fun label (m : RegistryManifest) =>
        (label.name, .str m.digest)) receipt.kind.labels manifests)),
      (text "statuses", .array (match receipt.kind with
        | .create => [.int 201, .int 412]
        | .cas => [.int 201, .int 201, .int 412])),
      (text "retained_for_audit", .bool true)] ++ priorEtag ++
      [(text "winner_etag_sha256", .str (hash winnerEtag))]))
  return hash payload

/-- `_validate_probe_receipt`. -/
def validateProbeReceipt (kind : ProbeKind) (receipt : RegistryProbeReceipt) :
    Except LoadError (List RegistryManifest) := do
  blockIf (receipt.kind ≠ kind ∨ ¬ isSha256 receipt.token ∨ receipt.stage ∉ kind.stages ∨
    ¬ receipt.verificationSha256.all isSha256 ∨ ¬ receipt.winnerEtag.all isEtag)
    "registry_probe_receipt_invalid"
  let materials ← probeMaterials I hash intent kind receipt.token
  blockIf (receipt.reference ≠ materials.reference) "registry_probe_receipt_invalid"
  blockIf (kind = .create ∧ receipt.priorEtag.isSome) "registry_probe_receipt_invalid"
  blockIf (kind = .cas ∧ ¬ receipt.priorEtag.all isEtag) "registry_probe_receipt_invalid"
  blockIf (kind = .cas ∧ receipt.priorEtagRequired ≠ receipt.priorEtag.isSome) "registry_probe_receipt_invalid"
  blockIf (decide (receipt.stage = text "verified") ≠ receipt.verificationSha256.isSome)
    "registry_probe_receipt_invalid"
  blockIf (receipt.winnerEtagRequired ≠ receipt.winnerEtag.isSome) "registry_probe_receipt_invalid"
  if receipt.stage = text "verified" then
    let verification ← probeVerificationSha256 hash intent receipt materials.manifests
    blockIf (receipt.verificationSha256 ≠ some verification) "registry_probe_receipt_invalid"
    return materials.manifests
  else return materials.manifests

end Materials

/-! ## What the registry answers -/

/-- `_assert_probe_exact`, with the entity tag required. -/
def assertProbeExact (observation : RegistryProbeObservation) (manifest : RegistryManifest) :
    Except LoadError Unit :=
  blockIf (observation.digest ≠ some manifest.digest ∨ observation.payload ≠ some manifest.payload ∨
    ¬ observation.etag.any isEtag) "registry_probe_postcondition_failed"

/-- `_assert_probe_write`. -/
def assertProbeWrite (result : RegistryProbeWrite) (expectedStatus : ℤ) (manifest : RegistryManifest) :
    Except LoadError Unit :=
  blockIf (result.status ≠ expectedStatus ∨ (expectedStatus = 201 ∧ result.digest ≠ some manifest.digest) ∨
    (expectedStatus = 412 ∧ result.digest.isSome)) "registry_probe_response_invalid"

/-- `_classify_probe_observation`. -/
def classifyProbeObservation (observation : RegistryProbeObservation)
    (candidates : List (ProbeLabel × RegistryManifest)) : Except LoadError (Option ProbeLabel) :=
  if observation = ⟨none, none, none⟩ then .ok none
  else do
    blockIf (¬ observation.etag.any isEtag) "registry_probe_postcondition_failed"
    match candidates.find? fun candidate =>
        observation.digest = some candidate.2.digest && observation.payload = some candidate.2.payload with
    | some (label, _) => return some label
    | none => throw (.blocked "registry_probe_retained_reference_foreign")

end Subgen

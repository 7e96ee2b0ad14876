import Subgen.Publication.Checkpoint

/-!
# What is to be published

`ReleaseIntent` with the identity of the image and the contents of the registry, and what is seen of the
release in public (`PublicState`). Texts in the documents are those of JSON, and what is hashed is a list
of bytes; the hash is a parameter. The digest of an intent (`intentSha256`) is that of one canonical document,
which binds the sources, the image, the manifests and the blobs together.

The public state is looked at in two ways. `validatePublicComponents` refuses a part that is neither as it was
before nor as it is intended, while `isFinalState` asks whether all of them are as they are intended. Beside
these stand the runs of the workflows that were there before the publication (`ActionsBaseline`), and what the
working copy says of the sources (`LocalSourceProof`).

The checks are those of the source in its order, with its codes, so that the first one that fails names the
error. The check of an intent decompresses the layers of the image, and is left out: it changes nothing.
-/

namespace Subgen

/-! ## Checks -/

/-- `[0-9a-f]{40}`. -/
def isFullSha (t : Text) : Bool := t.length = 40 && t.all isHexDigit

/-- `sha256:[0-9a-f]{64}`. -/
def isDigest (t : Text) : Bool := (text "sha256:").isPrefixOf t && isSha256 (t.drop 7)

/-- `_require_full_sha`. -/
def requireFullSha (value : Text) (label : String) : Except LoadError Unit :=
  blockIf (¬ isFullSha value) ("invalid_" ++ label)

/-- `_require_digest`. -/
def requireDigest (value : Text) (label : String) : Except LoadError Unit :=
  blockIf (¬ isDigest value) ("invalid_" ++ label)

/-! ## The image and the registry -/

/-- `ImageIdentity`. -/
structure ImageIdentity where
  ociIndex : Text
  configDigest : Text
  orderedDiffIds : List Text
  revisionLabel : Text
  deriving DecidableEq

namespace ImageIdentity

variable (image : ImageIdentity)

/-- `validate`. -/
def validate : Except LoadError Unit := do
  requireDigest image.ociIndex "oci_index"
  requireDigest image.configDigest "config_digest"
  blockIf (image.orderedDiffIds = []) "missing_ordered_diff_ids"
  image.orderedDiffIds.forM fun diffId => requireDigest diffId "diff_id"
  requireFullSha image.revisionLabel "revision_label"

/-- `asdict(image)`. -/
def document : Json :=
  .object
    [(text "oci_index", .str image.ociIndex), (text "config_digest", .str image.configDigest),
     (text "ordered_diff_ids", .array (image.orderedDiffIds.map .str)),
     (text "revision_label", .str image.revisionLabel)]

end ImageIdentity

/-- `RegistryBlob`. -/
structure RegistryBlob where
  digest : Text
  size : ℤ
  mediaType : Text
  payload : List ℕ
  deriving DecidableEq

/-- `RegistryManifest`. -/
structure RegistryManifest where
  digest : Text
  size : ℤ
  mediaType : Text
  payload : List ℕ
  deriving DecidableEq

/-- `descriptor()`, of both. -/
def descriptor (digest : Text) (size : ℤ) (mediaType : Text) : Json :=
  .object [(text "digest", .str digest), (text "size", .int size), (text "mediaType", .str mediaType)]

/-- `RegistryManifest.validate`. -/
def RegistryManifest.validate (I : Interpreter) (hash : List ℕ → Text) (m : RegistryManifest) :
    Except LoadError Unit := do
  requireDigest m.digest "registry_manifest_digest"
  blockIf (m.size ≤ 0 ∨ m.size ≠ m.payload.length ∨ m.digest ≠ text "sha256:" ++ hash m.payload ∨
    m.mediaType = [] ∨ 13 ∈ m.mediaType ∨ 10 ∈ m.mediaType) "registry_manifest_descriptor_mismatch"
  let _ ← I.strictJsonObject "registry_manifest" m.payload

/-! ## Intents -/

/-- An `AnnotatedTag`, as far as it is looked at here. -/
structure AnnotatedTag where
  objectSha : Text

/-- `ReleaseIntent`. -/
structure ReleaseIntent where
  repository : Text
  imageRepository : Text
  priorMainCommit : Text
  runtimeCommit : Text
  samplerCommit : Text
  releaseCommit : Text
  annotatedTag : AnnotatedTag
  releaseTitle : Text
  releaseNotes : List ℕ
  releaseNotesBlob : Text
  task11bVerifierReceiptSha256 : Text
  sealedManifest : List ℕ
  image : ImageIdentity
  requiredBlobs : List RegistryBlob
  requiredManifests : List RegistryManifest
  priorLatestDigest : Option Text
  mainRef : Text
  versionTag : Text
  lockRef : Text

/-- A text, or nothing. -/
def optionalStr : Option Text → Json
  | none => .null
  | some t => .str t

namespace ReleaseIntent

variable (hash : List ℕ → Text) (intent : ReleaseIntent)

/-- `binding_document`. -/
def bindingDocument : Json :=
  .object
    [(text "schema", .str (text "subgen.task12.publication-binding/v1")),
     (text "repository", .str intent.repository),
     (text "image_repository", .str intent.imageRepository), (text "main_ref", .str intent.mainRef),
     (text "version_tag", .str intent.versionTag), (text "lock_ref", .str intent.lockRef),
     (text "prior_main_commit", .str intent.priorMainCommit),
     (text "runtime_commit", .str intent.runtimeCommit),
     (text "sampler_commit", .str intent.samplerCommit),
     (text "release_commit", .str intent.releaseCommit),
     (text "annotated_tag_object", .str intent.annotatedTag.objectSha),
     (text "release_title", .str intent.releaseTitle),
     (text "release_notes_blob", .str intent.releaseNotesBlob),
     (text "release_notes_sha256", .str (hash intent.releaseNotes)),
     (text "task11b_verifier_receipt_sha256", .str intent.task11bVerifierReceiptSha256),
     (text "sealed_manifest_sha256", .str (hash intent.sealedManifest)),
     (text "required_blobs",
       .array (intent.requiredBlobs.map fun blob => descriptor blob.digest blob.size blob.mediaType)),
     (text "required_manifests",
       .array (intent.requiredManifests.map fun m => descriptor m.digest m.size m.mediaType)),
     (text "oci_index", .str intent.image.ociIndex),
     (text "config_digest", .str intent.image.configDigest),
     (text "ordered_diff_ids", .array (intent.image.orderedDiffIds.map .str)),
     (text "revision_label", .str intent.image.revisionLabel),
     (text "prior_latest_digest", optionalStr intent.priorLatestDigest)]

/-- `intent_sha256`. -/
def intentSha256 : Except LoadError Text := do
  let payload ← canonicalJsonBytes (intent.bindingDocument hash)
  return hash payload

end ReleaseIntent

/-! ## The runs of the workflows -/

/-- `ActionsBaseline`. -/
structure ActionsBaseline where
  runIds : List ℕ
  sha256 : Text
  deriving DecidableEq

/-- `ActionsBaseline.create`. -/
def ActionsBaseline.create (hash : List ℕ → Text) (runIds : List ℤ) : Except LoadError ActionsBaseline := do
  blockIf (∃ runId ∈ runIds, runId ≤ 0) "actions_run_id_invalid"
  let normalized := (runIds.map Int.toNat).insertionSort (· ≤ ·)
  blockIf (¬ normalized.Nodup) "actions_run_id_duplicate"
  let payload ← canonicalJsonBytes (.object
    [(text "schema", .str (text "subgen.task12.actions-baseline/v1")),
     (text "run_ids", .array (normalized.map fun n : ℕ => .int n))])
  return ⟨normalized, hash payload⟩

/-- `ActionsBaseline.validate`. -/
def ActionsBaseline.validate (hash : List ℕ → Text) (baseline : ActionsBaseline) : Except LoadError Unit := do
  let rebuilt ← ActionsBaseline.create hash (baseline.runIds.map Int.ofNat)
  blockIf (rebuilt ≠ baseline) "actions_baseline_hash_mismatch"

/-- The baseline of a checkpoint. -/
def PublicationCheckpoint.actionsBaseline (c : PublicationCheckpoint) : ActionsBaseline :=
  ⟨c.runIds, c.baselineSha256⟩

/-! ## What is seen of the sources and in public -/

/-- `LocalSourceProof`. -/
structure LocalSourceProof where
  cleanWorktree : Bool
  workflowsManualOnly : Bool
  runtimeCommit : Text
  samplerCommit : Text
  releaseCommit : Text
  runtimeIsAncestorOfSampler : Bool
  samplerIsAncestorOfRelease : Bool
  annotatedTagObject : Text
  annotatedTagTarget : Text
  releaseNotesBlob : Text
  releaseNotes : List ℕ
  task11bVerifierReceiptSha256 : Text
  candidateDockerEngineIdSha256 : Text
  image : ImageIdentity
  gitRemoteUrl : Text

/-- `CANONICAL_GIT_REMOTE_URL`. -/
def canonicalGitRemoteUrl : Text := text "https://github.com/Herbertmt978/Subgen-English-Plex.git"

/-- `LocalSourceProof.verify`. -/
def LocalSourceProof.verify (p : LocalSourceProof) (intent : ReleaseIntent) : Except LoadError Unit := do
  blockIf (¬ p.cleanWorktree) "release_worktree_not_clean"
  blockIf (¬ p.workflowsManualOnly) "hosted_workflow_trigger_present"
  blockIf (p.runtimeCommit ≠ intent.runtimeCommit ∨ p.samplerCommit ≠ intent.samplerCommit ∨
    p.releaseCommit ≠ intent.releaseCommit ∨ ¬ p.runtimeIsAncestorOfSampler ∨
    ¬ p.samplerIsAncestorOfRelease ∨ p.annotatedTagObject ≠ intent.annotatedTag.objectSha ∨
    p.annotatedTagTarget ≠ intent.releaseCommit ∨ p.releaseNotesBlob ≠ intent.releaseNotesBlob ∨
    p.releaseNotes ≠ intent.releaseNotes ∨
    p.task11bVerifierReceiptSha256 ≠ intent.task11bVerifierReceiptSha256 ∨
    ¬ isSha256 p.candidateDockerEngineIdSha256 ∨ p.image ≠ intent.image ∨
    p.gitRemoteUrl ≠ canonicalGitRemoteUrl) "local_source_proof_mismatch"

/-- `ReleaseView`. -/
structure ReleaseView where
  tag : Text
  title : Text
  draft : Bool
  prerelease : Bool
  body : List ℕ
  deriving DecidableEq

/-- The release is the one of the intent. -/
def ReleaseView.isExact (v : ReleaseView) (intent : ReleaseIntent) : Bool :=
  v.tag = intent.versionTag && v.title = intent.releaseTitle && !v.draft && !v.prerelease &&
    v.body = intent.releaseNotes

/-- `LockObservation`. -/
structure LockObservation where
  objectSha : Text
  documentSha256 : Text
  deriving DecidableEq

/-- `PublicState`. -/
structure PublicState where
  mainCommit : Text
  versionTagObject : Option Text
  release : Option ReleaseView
  versionDigest : Option Text
  latestDigest : Option Text
  lock : Option LockObservation
  deriving DecidableEq

/-- `_validate_public_components`. -/
def validatePublicComponents (state : PublicState) (intent : ReleaseIntent) : Except LoadError Unit := do
  blockIf (state.mainCommit ∉ [intent.priorMainCommit, intent.releaseCommit]) "remote_main_diverged"
  blockIf (state.versionTagObject ∉ [none, some intent.annotatedTag.objectSha]) "remote_version_tag_foreign"
  blockIf (state.release.any fun v => !v.isExact intent) "github_release_foreign"
  blockIf (state.versionDigest ∉ [none, some intent.image.ociIndex]) "registry_version_foreign"
  blockIf (state.latestDigest ∉ [intent.priorLatestDigest, some intent.image.ociIndex]) "registry_latest_foreign"

/-- `_is_final_state`. -/
def isFinalState (state : PublicState) (intent : ReleaseIntent) : Bool :=
  state.mainCommit = intent.releaseCommit && state.versionTagObject = some intent.annotatedTag.objectSha &&
    state.release.any (·.isExact intent) && state.versionDigest = some intent.image.ociIndex &&
    state.latestDigest = some intent.image.ociIndex && state.lock = none

end Subgen

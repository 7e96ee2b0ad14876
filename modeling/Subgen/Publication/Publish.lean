import Subgen.Publication.Publisher

/-!
# A publication

The steps of `publish` in their order: the lock, `main`, the tag, the contents of the registry, the image
under its version, an anonymous pull, the release, the image under `latest`, and the lock again. What is
public already is not written a second time. Before the two writes of images that cannot be taken back, the
conditional writes of the registry are tried on a probe (`runVersionCreateProbe`, `runLatestCasProbe`).

Every call to an adapter is recorded with its answer, and every receipt with the checkpoint that it has
written; the adapters may answer anything and raise at any call. A receipt that cannot be appended ends the run.
A run that was recovered starts with the checkpoint of the journal and goes through the same steps again, each
of which looks at the public state before it writes.
-/

namespace Subgen

open Procedure

namespace Publisher

variable (P : Publisher) (intent : ReleaseIntent)

/-! ## Evidence -/

/-- `_verify_retained_probe`. -/
def verifyRetainedProbe (kind : ProbeKind) : Publish Unit := do
  let s ← get
  match s.checkpoint.probe kind with
  | none => throw (.blocked (text "registry_" ++ kind.name ++ text "_probe_evidence_missing"))
  | some receipt => do
    let manifests ← lift (validateProbeReceipt P.interpreter P.hash intent kind receipt)
    (if receipt.verificationSha256.isNone then
      throw (.blocked (text "registry_" ++ kind.name ++ text "_probe_evidence_missing"))
    else pure ())
    match kind, manifests with
    | .create, winner :: _ | .cas, _ :: winner :: _ => do
      let observation ← P.ask (.readRegistryProbe receipt.reference)
      lift (assertProbeExact observation winner)
      stopIf (observation.etag ≠ receipt.winnerEtag) "registry_probe_winner_etag_changed"
      stopIf (kind = .cas ∧ observation.etag = receipt.priorEtag) "registry_probe_etag_not_changed"
    | _, _ => throw .other

/-- `_verify_completion_evidence`. -/
def verifyCompletionEvidence : Publish Unit := do
  let expected ← lift (canonicalJsonBytes intent.image.document)
  let s ← get
  stopIf (textOf s.checkpoint.anonymousSmokeSha256 ≠ some (P.hash expected))
    "anonymous_pull_smoke_evidence_missing"
  P.verifyRetainedProbe intent .create
  P.verifyRetainedProbe intent .cas

/-! ## Probes -/

/-- Puts the receipt into the checkpoint and records it. -/
def recordProbe (kind : ProbeKind) (receipt : RegistryProbeReceipt) (phase : Text) : Publish Unit := do
  update fun c => { c.setProbe receipt kind with phase := phase }
  P.record

/-- `_prepare_probe_receipt`. -/
def prepareProbeReceipt (kind : ProbeKind) : Publish (RegistryProbeReceipt × List RegistryManifest) := do
  let s ← get
  match s.checkpoint.probe kind with
  | none => do
    let token ← fresh P.probeTokenFactory
    let materials ← lift (probeMaterials P.interpreter P.hash intent kind token)
    let receipt : RegistryProbeReceipt :=
      ⟨kind, token, materials.reference, text "planned", none, none, none⟩
    P.recordProbe kind receipt (text "registry_" ++ kind.name ++ text "_probe_planned")
    return (receipt, materials.manifests)
  | some receipt => do
    let manifests ← lift (validateProbeReceipt P.interpreter P.hash intent kind receipt)
    return (receipt, manifests)

/-- What the registry has under the reference of a probe. -/
def observeProbe (receipt : RegistryProbeReceipt) (candidates : List (ProbeLabel × RegistryManifest)) :
    Publish (RegistryProbeObservation × Option ProbeLabel) := do
  let observation ← P.ask (.readRegistryProbe receipt.reference)
  let observed ← lift (classifyProbeObservation observation candidates)
  return (observation, observed)

/-- The first stage of a probe: nothing is there yet. -/
def armSeed (kind : ProbeKind) (receipt : RegistryProbeReceipt) (observed : Option ProbeLabel) (phase : Text)
    (code : String) : Publish RegistryProbeReceipt :=
  if receipt.stage = text "planned" then do
    stopIf observed.isSome code
    let armed := { receipt with stage := text "seed_armed" }
    P.recordProbe kind armed phase
    return armed
  else return receipt

/-- A conditional write of a probe that the registry has to accept, and what it has afterwards. -/
def winProbe (operation : Text) (receipt : RegistryProbeReceipt) (manifest : RegistryManifest)
    (ifNoneMatch : Bool) (ifMatch : Option Text) (candidates : List (ProbeLabel × RegistryManifest)) :
    Publish (RegistryProbeObservation × Option ProbeLabel) := do
  P.requireLock
  let written ← P.publicWrite operation
    (.putRegistryProbe operation receipt.reference manifest ifNoneMatch ifMatch)
  lift (assertProbeWrite written 201 manifest)
  P.observeProbe receipt candidates

/-- The last stage of a probe: a conditional write that the registry has to reject. -/
def rejectProbe (kind : ProbeKind) (operation phase : Text) (receipt : RegistryProbeReceipt)
    (manifests : List RegistryManifest) (winner rejected : RegistryManifest) (ifNoneMatch : Bool)
    (ifMatch : Option Text) : Publish Unit := do
  let observation ← P.ask (.readRegistryProbe receipt.reference)
  lift (assertProbeExact observation winner)
  stopIf (kind = .cas ∧ observation.etag = receipt.priorEtag) "registry_probe_etag_not_changed"
  stopIf (observation.etag ≠ receipt.winnerEtag) "registry_probe_winner_etag_changed"
  P.requireLock
  let result ← P.publicWrite operation
    (.putRegistryProbe operation receipt.reference rejected ifNoneMatch ifMatch)
  lift (assertProbeWrite result 412 rejected)
  let retained ← P.ask (.readRegistryProbe receipt.reference)
  lift (assertProbeExact retained winner)
  stopIf (retained.etag ≠ receipt.winnerEtag) "registry_probe_winner_etag_changed"
  -- The verification is of the receipt at its last stage.
  let verified := { receipt with stage := text "verified" }
  let verification ← lift (probeVerificationSha256 P.hash intent verified manifests)
  P.recordProbe kind { verified with verificationSha256 := some verification } phase

/-- `_run_version_create_probe`. -/
def runVersionCreateProbe : Publish Unit := do
  let (receipt, manifests) ← P.prepareProbeReceipt intent .create
  match manifests with
  | [winner, rejected] =>
    if receipt.stage = text "verified" then P.verifyRetainedProbe intent .create
    else do
      let candidates := [(ProbeLabel.winner, winner), (ProbeLabel.rejected, rejected)]
      let seen ← P.observeProbe receipt candidates
      let receipt ← P.armSeed .create receipt seen.2 (text "registry_version_probe_seed_armed")
        "registry_create_probe_unowned_progress"
      let seen ← (if receipt.stage = text "seed_armed" ∧ seen.2 = none then
          P.winProbe (text "registry_version_probe_seed") receipt winner true none candidates
        else pure seen)
      let receipt ← (if receipt.stage = text "seed_armed" then do
          stopIf (seen.2 ≠ some .winner) "registry_create_probe_retained_state_invalid"
          lift (assertProbeExact seen.1 winner)
          let armed := { receipt with winnerEtag := seen.1.etag, stage := text "reject_armed" }
          P.recordProbe .create armed (text "registry_version_probe_reject_armed")
          return armed
        else pure receipt)
      stopIf (receipt.stage ≠ text "reject_armed" ∨ seen.2 ≠ some .winner)
        "registry_create_probe_retained_state_invalid"
      P.rejectProbe intent .create (text "registry_version_probe_reject")
        (text "registry_version_probe_verified") receipt manifests winner rejected true none
  | _ => throw .other

/-- The probe replaces the prior manifest by the winner. -/
def swapProbe (receipt : RegistryProbeReceipt) (prior winner : RegistryManifest)
    (candidates : List (ProbeLabel × RegistryManifest)) :
    Publish (RegistryProbeObservation × Option ProbeLabel) := do
  let observation ← P.ask (.readRegistryProbe receipt.reference)
  lift (assertProbeExact observation prior)
  stopIf (receipt.priorEtag ≠ observation.etag) "registry_probe_prior_etag_changed"
  P.winProbe (text "registry_latest_probe_cas") receipt winner false receipt.priorEtag candidates

/-- `_run_latest_cas_probe`. -/
def runLatestCasProbe : Publish Unit := do
  let (receipt, manifests) ← P.prepareProbeReceipt intent .cas
  match manifests with
  | [prior, winner, rejected] =>
    if receipt.stage = text "verified" then P.verifyRetainedProbe intent .cas
    else do
      let candidates :=
        [(ProbeLabel.prior, prior), (ProbeLabel.winner, winner), (ProbeLabel.rejected, rejected)]
      let seen ← P.observeProbe receipt candidates
      let receipt ← P.armSeed .cas receipt seen.2 (text "registry_latest_probe_seed_armed")
        "registry_cas_probe_unowned_progress"
      let seen ← (if receipt.stage = text "seed_armed" ∧ seen.2 = none then
          P.winProbe (text "registry_latest_probe_seed") receipt prior true none candidates
        else pure seen)
      let receipt ← (if receipt.stage = text "seed_armed" then do
          stopIf (seen.2 ≠ some .prior) "registry_cas_probe_retained_state_invalid"
          let observation ← P.ask (.readRegistryProbe receipt.reference)
          lift (assertProbeExact observation prior)
          stopIf receipt.priorEtag.isSome "registry_probe_prior_etag_already_set"
          let armed := { receipt with priorEtag := observation.etag, stage := text "cas_armed" }
          P.recordProbe .cas armed (text "registry_latest_probe_cas_armed")
          return armed
        else pure receipt)
      let (receipt, seen) ← (if receipt.stage = text "cas_armed" then do
          let seen ← (if seen.2 = some .prior then P.swapProbe receipt prior winner candidates else pure seen)
          stopIf (seen.2 ≠ some .winner) "registry_cas_probe_retained_state_invalid"
          lift (assertProbeExact seen.1 winner)
          stopIf (seen.1.etag = receipt.priorEtag) "registry_probe_etag_not_changed"
          let armed := { receipt with winnerEtag := seen.1.etag, stage := text "stale_armed" }
          P.recordProbe .cas armed (text "registry_latest_probe_stale_armed")
          return (armed, seen)
        else pure (receipt, seen))
      stopIf (receipt.stage ≠ text "stale_armed" ∨ seen.2 ≠ some .winner)
        "registry_cas_probe_retained_state_invalid"
      stopIf receipt.priorEtag.isNone "registry_probe_prior_etag_missing"
      P.rejectProbe intent .cas (text "registry_latest_probe_stale") (text "registry_latest_probe_verified")
        receipt manifests winner rejected false receipt.priorEtag
  | _ => throw .other

/-! ## The start of a run -/

/-- The start of a run that has no checkpoint; its lock document. -/
def startFresh : Publish Text := do
  let first ← P.actionsSnapshot
  let second ← P.actionsSnapshot
  stopIf (first ≠ second) "actions_baseline_unstable"
  let runToken ← fresh P.tokenFactory
  let document ← lift (lockDocument P.hash intent first (.str runToken))
  let intentSha256 ← lift (intent.intentSha256 P.hash)
  update fun _ => .prepared intentSha256 runToken (P.hash document) first
  let state ← P.readState intent
  stopIf state.lock.isSome "publication_lock_preexisting"
  stopIf (state.mainCommit ≠ intent.priorMainCommit ∨ state.versionTagObject.isSome ∨ state.release.isSome ∨
    state.versionDigest.isSome ∨ state.latestDigest ≠ intent.priorLatestDigest) "unowned_partial_publication"
  P.record
  return document

/-- A recovery that finds everything published. -/
def recordRecovered : Publish Unit := do
  P.verifyCompletionEvidence intent
  update fun c => { c with lockRemoved := true, phase := text "complete", failureCode := .null }
  P.record

/-- A recovery that finds the lock in `state`, or none. -/
def reconcileLock (state : PublicState) : Publish Unit := do
  let s ← get
  if s.checkpoint.lockAcquired then
    stopIf (¬ state.lock.any fun lock => lock.isOf s.checkpoint) "publication_lock_missing_or_replaced"
  else
    match state.lock with
    | none => pure ()
    | some lock => do
      stopIf (¬ (s.checkpoint.phase ∈ [text "lock_ref_create_pending", text "lock_ref_create_ambiguous",
          text "lock_ref_create_written"] ∧ lock.isOf s.checkpoint))
        "publication_lock_replaced_during_acquisition"
      update fun c => { c with lockAcquired := true, phase := text "lock_ref_create_reconciled", failureCode := .null }
      P.record

/-- The start of a run from a checkpoint; its lock document, unless everything is published. -/
def startRecovered (recovery : PublicationCheckpoint) : Publish (Option Text) := do
  update fun _ => recovery
  lift (validateCheckpoint P.interpreter P.hash intent recovery)
  P.assertActionsUnchanged
  let document ← lift (lockDocument P.hash intent recovery.actionsBaseline recovery.runToken)
  let state ← P.readState intent
  if recovery.lockRemoved then do
    stopIf state.lock.isSome "removed_lock_reappeared"
    stopIf (¬ isFinalState state intent) "recovery_lock_missing_before_completion"
    P.recordRecovered intent
    return none
  else if state.lock = none ∧ recovery.phase ∈ [text "lock_ref_remove_pending",
      text "lock_ref_remove_ambiguous", text "lock_ref_remove_written"] ∧ isFinalState state intent then do
    P.recordRecovered intent
    return none
  else do
    P.reconcileLock state
    return some document

/-- A run starts, afresh or from a checkpoint. -/
def start : Option PublicationCheckpoint → Publish (Option Text)
  | none => some <$> P.startFresh intent
  | some recovery => P.startRecovered intent recovery

/-! ## The steps -/

/-- The object of the lock is created before its reference. -/
def createLockObject (document : Text) : Publish Unit := do
  let objectSha ← P.publicWrite (text "lock_object_create") (.createLockObject document)
  stopIf (¬ (textOf objectSha).any isFullSha) "invalid_lock_object"
  update fun c => { c with lockObjectSha := objectSha }
  P.record

/-- The lock is acquired, unless the checkpoint has it. -/
def acquireLock (document : Text) : Publish Unit := do
  let s ← get
  if s.checkpoint.lockAcquired then pure ()
  else do
    (if isNone s.checkpoint.lockObjectSha then P.createLockObject document else pure ())
    let state ← P.readState intent
    stopIf state.lock.isSome "publication_lock_replaced_during_acquisition"
    let s ← get
    let _ ← P.publicWrite (text "lock_ref_create")
      (.createLockRef (P.interpreter.orEmpty s.checkpoint.lockObjectSha))
    update fun c => { c with lockAcquired := true }
    P.requireLock
    P.record

/-- `main` is moved. -/
def publishMain : Publish PublicState := do
  let state ← P.readState intent
  P.requireLock
  let state ← (if state.mainCommit = intent.priorMainCommit then do
      let _ ← P.publicWrite (text "main_fast_forward") .advanceMain
      P.readState intent
    else pure state)
  stopIf (state.mainCommit ≠ intent.releaseCommit) "remote_main_not_release_commit"
  return state

/-- The tag is created. -/
def publishTag (state : PublicState) : Publish PublicState := do
  P.requireLock
  let state ← (if state.versionTagObject = none then do
      let tagObject ← P.publicWrite (text "version_tag_object_create") .createVersionTagObject
      stopIf (textOf tagObject ≠ some intent.annotatedTag.objectSha) "annotated_tag_object_response_mismatch"
      let _ ← P.publicWrite (text "version_tag_ref_create") .createVersionTagRef
      P.readState intent
    else pure state)
  stopIf (state.versionTagObject ≠ some intent.annotatedTag.objectSha) "remote_version_tag_not_exact"
  return state

/-- The URL that a blob is uploaded to. -/
def startUpload (index : ℕ) (blob : RegistryBlob) : Publish Text := do
  let s ← get
  match s.checkpoint.blobUploadUrls.lookup blob.digest with
  | some uploadUrl => return uploadUrl
  | none => do
    let uploadUrl ← P.publicWrite (text "registry_blob_" ++ threeDigits index ++ text "_upload_start")
      (.startRegistryBlobUpload blob)
    match (textOf uploadUrl).filter (· ≠ []) with
    | none => throw (.blocked (text "registry_blob_upload_location_invalid"))
    | some uploadUrl => do
      update fun c => { c with blobUploadUrls := c.blobUploadUrls ++ [(blob.digest, uploadUrl)] }
      P.record
      return uploadUrl

/-- One blob is uploaded. -/
def publishBlob (index : ℕ) (blob : RegistryBlob) : Publish Unit := do
  P.requireLock
  let present ← P.ask (.registryBlobPresent blob)
  if present then pure ()
  else do
    let uploadUrl ← P.startUpload index blob
    let _ ← P.publicWrite (text "registry_blob_" ++ threeDigits index ++ text "_upload_finish")
      (.finishRegistryBlobUpload blob uploadUrl)
    let present ← P.ask (.registryBlobPresent blob)
    stopIf (¬ present) "registry_blob_upload_not_exact"

/-- One manifest is uploaded. -/
def publishManifest (index : ℕ) (manifest : RegistryManifest) : Publish Unit := do
  P.requireLock
  let present ← P.ask (.registryManifestPresent manifest)
  if present then pure ()
  else do
    let _ ← P.publicWrite (text "registry_manifest_" ++ threeDigits index ++ text "_put")
      (.putRegistryManifest manifest)
    let present ← P.ask (.registryManifestPresent manifest)
    stopIf (¬ present) "registry_manifest_upload_not_exact"

/-- The version is created. -/
def publishVersion (state : PublicState) : Publish Unit := do
  P.requireLock
  let state ← (if state.versionDigest = none then do
      P.runVersionCreateProbe intent
      P.requireLock
      let _ ← P.publicWrite (text "registry_version_conditional_create") .conditionalCreateVersion
      P.readState intent
    else pure state)
  stopIf (state.versionDigest ≠ some intent.image.ociIndex) "registry_version_not_exact"
  P.verifyRetainedProbe intent .create

/-- The image is pulled anonymously. -/
def smoke (proof : LocalSourceProof) : Publish Unit := do
  P.requireLock
  let identity ← P.ask (.anonymousPullSmoke proof.candidateDockerEngineIdSha256)
  lift identity.validate
  stopIf (identity ≠ intent.image) "anonymous_pull_smoke_identity_mismatch"
  let document ← lift (canonicalJsonBytes identity.document)
  update fun c =>
    { c with anonymousSmokeSha256 := .str (P.hash document), phase := text "anonymous_pull_smoke_verified" }
  P.record

/-- The release is created. -/
def publishRelease : Publish PublicState := do
  P.requireLock
  let state ← P.readState intent
  let state ← (if state.release = none then do
      let _ ← P.publicWrite (text "github_release_create") .createRelease
      P.readState intent
    else pure state)
  stopIf (¬ state.release.any (·.isExact intent)) "github_release_not_exact"
  return state

/-- A write of `latest` that was attempted by an earlier run, and of which nothing is seen. -/
def recordUnresolved : Publish Unit := do
  P.verifyCompletionEvidence intent
  P.recordFailure (text "registry_latest_outcome_unresolved") (text "registry_latest_outcome_unresolved")
  throw (.blocked (text "registry_latest_outcome_unresolved"))

/-- `latest` is moved. -/
def publishLatest (state : PublicState) : Publish Unit := do
  P.requireLock
  let s ← get
  (if s.checkpoint.latestWriteAttempted ∧ state.latestDigest = intent.priorLatestDigest then
    P.recordUnresolved intent
  else pure ())
  let state ← (if state.latestDigest = intent.priorLatestDigest then do
      let again ← P.readState intent
      stopIf (again.latestDigest ≠ intent.priorLatestDigest) "registry_latest_changed_before_compare_and_set"
      P.runLatestCasProbe intent
      P.requireLock
      update fun c => { c with latestWriteAttempted := true, phase := text "registry_latest_update_armed" }
      P.record
      let _ ← P.publicWrite (text "registry_latest_update") (.updateLatest intent.priorLatestDigest)
      P.readState intent
    else pure state)
  stopIf (state.latestDigest ≠ some intent.image.ociIndex) "registry_latest_not_exact"

/-- The lock is removed and the publication is recorded as complete, and then the state is looked at. -/
def removeLock : Publish Unit := do
  P.requireLock
  let s ← get
  let _ ← P.publicWrite (text "lock_ref_remove")
    (.removeLockExact (P.interpreter.orEmpty s.checkpoint.lockObjectSha))
  let state ← P.readState intent
  stopIf state.lock.isSome "publication_lock_removal_unverified"
  update fun c => { c with lockRemoved := true, phase := text "complete", failureCode := .null }
  P.record
  stopIf (¬ isFinalState state intent) "final_publication_state_not_exact"

/-- All steps up to the removal of the lock. -/
def publishAll (proof : LocalSourceProof) (document : Text) : Publish Unit := do
  P.acquireLock intent document
  let state ← P.publishMain intent
  let state ← P.publishTag intent state
  intent.requiredBlobs.zipIdx.forM fun entry => P.publishBlob entry.2 entry.1
  intent.requiredManifests.zipIdx.forM fun entry => P.publishManifest entry.2 entry.1
  P.publishVersion intent state
  P.smoke intent proof
  let state ← P.publishRelease intent
  P.publishLatest intent state
  P.verifyCompletionEvidence intent

/-- The intent is validated. -/
def validated : Publish Unit :=
  match P.validateIntent intent with
  | .ok _ => pure ()
  | .error e => throw e

/-- `publish`; the checkpoint that it returns is that of the session. -/
def publish (recovery : Option PublicationCheckpoint) : Publish Unit := do
  P.validated intent
  let proof ← P.ask .verifyLocalSources
  lift (proof.verify intent)
  let started ← P.start intent recovery
  match started with
  | none => pure ()
  | some document => do
    P.publishAll intent proof document
    P.removeLock intent

end Publisher

end Subgen

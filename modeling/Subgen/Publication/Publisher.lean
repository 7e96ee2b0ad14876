import Subgen.Publication.Probes

/-!
# The publisher

`Task12Publisher`, which publishes a release in one fixed order of public writes and appends a checkpoint to
a journal around each of them, so that another run can go on from where this one was interrupted.

Nothing is known of the adapter, the journal and the source of the tokens: each of their answers may depend
on all that happened before, the *history* of the run, and may be an exception. Others may change what
is public at any time. An exception of `_strict_json_object` counts as the first one of its three codes.

* `publicWrite`: one public write, between two checkpoints;
* `verifyCompletionEvidence`: what is read again before the lock is given up;
* `publish`: a run, from the start or from a checkpoint.
-/

namespace Subgen

open Procedure

/-- `PublicationBlocked`, or another exception. -/
inductive PublicationRaised
  | blocked (code : Text)
  | other
  deriving DecidableEq

/-- The exception that a failed load becomes. -/
def LoadError.raised : LoadError → PublicationRaised
  | .blocked code => .blocked (text code)
  | .unreadable label => .blocked (text label ++ text "_invalid_json")
  | .uncaught => .other

/-- The code of a `PublicationBlocked`. -/
def PublicationRaised.code : PublicationRaised → Option Text
  | .blocked code => some code
  | .other => none

/-! ## The adapter -/

/-- The calls of a `PublicationAdapter`. -/
inductive AdapterCall
  | verifyLocalSources
  | fetchAllActionsRunIds
  | readPublicState (lockDocumentSha256 : Json)
  | createLockObject (lockDocument : Text)
  | createLockRef (objectSha : Json)
  | assertLock (objectSha lockDocumentSha256 : Json)
  | advanceMain
  | createVersionTagObject
  | createVersionTagRef
  | registryBlobPresent (blob : RegistryBlob)
  | startRegistryBlobUpload (blob : RegistryBlob)
  | finishRegistryBlobUpload (blob : RegistryBlob) (uploadUrl : Text)
  | registryManifestPresent (manifest : RegistryManifest)
  | putRegistryManifest (manifest : RegistryManifest)
  | readRegistryProbe (reference : Text)
  | putRegistryProbe (operation reference : Text) (manifest : RegistryManifest) (ifNoneMatch : Bool)
      (ifMatch : Option Text)
  | conditionalCreateVersion
  | anonymousPullSmoke (candidateDockerEngineIdSha256 : Text)
  | createRelease
  | updateLatest (expectedPriorDigest : Option Text)
  | removeLockExact (objectSha : Json)

/-- What a call returns; any value where it is checked. -/
abbrev AdapterCall.Answer : AdapterCall → Type
  | verifyLocalSources => LocalSourceProof
  | fetchAllActionsRunIds => List ℤ
  | readPublicState _ => PublicState
  | createLockObject _ | createVersionTagObject | startRegistryBlobUpload _ => Json
  | registryBlobPresent _ | registryManifestPresent _ => Bool
  | readRegistryProbe _ => RegistryProbeObservation
  | putRegistryProbe .. => RegistryProbeWrite
  | anonymousPullSmoke _ => ImageIdentity
  | createLockRef _ | assertLock .. | advanceMain | createVersionTagRef | finishRegistryBlobUpload ..
  | putRegistryManifest _ | conditionalCreateVersion | createRelease | updateLatest _ | removeLockExact _ => Unit

/-- A call of the adapter with what came of it, or a checkpoint that was appended, unless the journal raised. -/
inductive PublicationEvent
  | called (call : AdapterCall) (result : Except PublicationRaised call.Answer)
  | appended (checkpoint : PublicationCheckpoint) (durable : Bool)

/-- A run so far: its checkpoint, and what happened, the last event first. -/
structure PublicationRun where
  checkpoint : PublicationCheckpoint
  history : List PublicationEvent

/-- A publisher with all that it meets. -/
structure Publisher where
  interpreter : Interpreter
  hash : List ℕ → Text
  answer : List PublicationEvent → (call : AdapterCall) → Except PublicationRaised call.Answer
  append : List PublicationEvent → PublicationCheckpoint → Except PublicationRaised (ℕ × Option Text)
  tokenFactory : List PublicationEvent → Except PublicationRaised Text
  probeTokenFactory : List PublicationEvent → Except PublicationRaised Text
  validateIntent : ReleaseIntent → Except PublicationRaised Unit

/-- A run of the publisher, over what has happened. -/
abbrev Publish := EStateM PublicationRaised PublicationRun

/-- `a or ""`. -/
def Interpreter.orEmpty (I : Interpreter) (v : Json) : Json :=
  match v with
  | .null | .str [] | .array [] | .object [] => .str []
  | v => if I.number v = some 0 then .str [] else v

/-- `f"{n:03d}"`. -/
def threeDigits (n : ℕ) : Text := List.replicate (3 - (Json.printNat n).length) 48 ++ Json.printNat n

/-- Whether the lock is the one of a checkpoint. -/
def LockObservation.isOf (lock : LockObservation) (c : PublicationCheckpoint) : Bool :=
  textOf c.lockObjectSha = some lock.objectSha && textOf c.lockDocumentSha256 = some lock.documentSha256

namespace PublicationCheckpoint

/-- The field of a probe. -/
def probe (c : PublicationCheckpoint) : ProbeKind → Option RegistryProbeReceipt
  | .create => c.versionCreateProbe
  | .cas => c.latestCasProbe

/-- The checkpoint with another probe receipt. -/
def setProbe (c : PublicationCheckpoint) (receipt : RegistryProbeReceipt) : ProbeKind → PublicationCheckpoint
  | .create => { c with versionCreateProbe := some receipt }
  | .cas => { c with latestCasProbe := some receipt }

/-- The checkpoint that a run starts with. -/
def prepared (intentSha256 runToken lockDocumentSha256 : Text) (baseline : ActionsBaseline) :
    PublicationCheckpoint where
  intentSha256 := .str intentSha256
  runToken := .str runToken
  runIds := baseline.runIds
  baselineSha256 := baseline.sha256
  lockDocumentSha256 := .str lockDocumentSha256
  phase := text "prepared"
  lockObjectSha := .null
  lockAcquired := false
  lockRemoved := false
  completedWrites := []
  anonymousSmokeSha256 := .null
  versionCreateProbe := none
  latestCasProbe := none
  latestWriteAttempted := false
  blobUploadUrls := []
  failureCode := .null
  receiptSequence := 0
  previousReceiptSha256 := none

end PublicationCheckpoint

/-! ## Documents -/

section Documents

variable (I : Interpreter) (hash : List ℕ → Text) (intent : ReleaseIntent)

/-- `_lock_document`. -/
def lockDocument (baseline : ActionsBaseline) (runToken : Json) : Except LoadError Text := do
  let token ← demand "publication_run_token_invalid" ((textOf runToken).filter isSha256)
  let intentSha256 ← intent.intentSha256 hash
  canonicalJsonBytes (.object
    [(text "schema", .str (text "subgen.task12.publication-lock/v1")),
     (text "intent_sha256", .str intentSha256), (text "release_commit", .str intent.releaseCommit),
     (text "candidate_oci_index", .str intent.image.ociIndex),
     (text "release_notes_sha256", .str (hash intent.releaseNotes)),
     (text "actions_baseline_sha256", .str baseline.sha256), (text "run_token_sha256", .str (hash token))])

/-- `re.fullmatch` of a digest, which raises a `TypeError` if the value is no string. -/
def matchesSha256 (v : Json) : Except LoadError Bool :=
  match textOf v with
  | some t => .ok (isSha256 t)
  | none => .error .uncaught

/-- The first check of `_validate_checkpoint`. -/
def checkpointIdentityValid (c : PublicationCheckpoint) : Except LoadError Bool := do
  let intentSha256 ← intent.intentSha256 hash
  if textOf c.intentSha256 ≠ some intentSha256 then return false
  else do
    let runToken ← matchesSha256 c.runToken
    if !runToken then return false
    else do
      let smoke ← if isNone c.anonymousSmokeSha256 then .ok true else matchesSha256 c.anonymousSmokeSha256
      return smoke && c.previousReceiptSha256.all isSha256

/-- `_validate_checkpoint`. -/
def validateCheckpoint (c : PublicationCheckpoint) : Except LoadError Unit := do
  let valid ← checkpointIdentityValid hash intent c
  blockIf (¬ valid) "recovery_checkpoint_identity_mismatch"
  c.actionsBaseline.validate hash
  let expectedLock ← lockDocument hash intent c.actionsBaseline c.runToken
  blockIf (textOf c.lockDocumentSha256 ≠ some (hash expectedLock)) "recovery_checkpoint_lock_mismatch"
  [ProbeKind.create, ProbeKind.cas].forM fun kind =>
    match c.probe kind with
    | none => .ok ()
    | some receipt => do
      let _ ← validateProbeReceipt I hash intent kind receipt

end Documents

namespace Publisher

variable (P : Publisher) (intent : ReleaseIntent)

/-! ## Primitives -/

/-- A call to an adapter, which is recorded with its answer. -/
def ask (call : AdapterCall) : Publish call.Answer := fun s =>
  match P.answer s.history call with
  | .ok a => .ok a { s with history := .called call (.ok a) :: s.history }
  | .error e => .error e { s with history := .called call (.error e) :: s.history }

/-- `_record`. The journal numbers the checkpoint and links it to the one before. -/
def record : Publish Unit := fun s =>
  match P.append s.history s.checkpoint with
  | .ok (sequence, previous) => .ok ()
      { checkpoint := { s.checkpoint with receiptSequence := sequence, previousReceiptSha256 := previous }
        history := .appended s.checkpoint true :: s.history }
  | .error e => .error e { s with history := .appended s.checkpoint false :: s.history }

/-- The checkpoint is replaced. -/
def update (f : PublicationCheckpoint → PublicationCheckpoint) : Publish Unit :=
  modify fun s => { s with checkpoint := f s.checkpoint }

/-- A pure step that may fail. -/
def lift {α : Type} (x : Except LoadError α) : Publish α :=
  match x with
  | .ok a => pure a
  | .error e => throw e.raised

/-- A factory makes a new text. -/
def fresh (factory : List PublicationEvent → Except PublicationRaised Text) : Publish Text := fun s =>
  match factory s.history with
  | .ok t => .ok t s
  | .error e => .error e s

/-- Raises if the condition holds. -/
def stopIf (p : Prop) [Decidable p] (code : String) : Publish Unit := lift (blockIf p code)

/-- `_actions_snapshot`. -/
def actionsSnapshot : Publish ActionsBaseline := do
  let runIds ← P.ask .fetchAllActionsRunIds
  lift (ActionsBaseline.create P.hash runIds)

/-- `_assert_actions_unchanged`, for the baseline of the checkpoint. -/
def assertActionsUnchanged : Publish Unit := do
  let observed ← P.actionsSnapshot
  let s ← get
  stopIf (observed ≠ s.checkpoint.actionsBaseline) "hosted_actions_run_set_changed"

/-- `_read_state`. -/
def readState : Publish PublicState := do
  let s ← get
  let state ← P.ask (.readPublicState s.checkpoint.lockDocumentSha256)
  lift (validatePublicComponents state intent)
  return state

/-- `_require_lock`. -/
def requireLock : Publish Unit := do
  let s ← get
  stopIf (¬ s.checkpoint.lockAcquired ∨ isNone s.checkpoint.lockObjectSha) "publication_lock_not_held"
  P.ask (.assertLock s.checkpoint.lockObjectSha s.checkpoint.lockDocumentSha256)

/-! ## One public write -/

/-- Records the failure of an operation. -/
def recordFailure (phase failureCode : Text) : Publish Unit := do
  update fun c => { c with phase := phase, failureCode := .str failureCode }
  P.record

/-- What has to hold before an operation. -/
def precondition (operation : Text) : Publish Unit := do
  P.assertActionsUnchanged
  if operation ∈ [text "lock_object_create", text "lock_ref_create"] then pure () else P.requireLock

/-- `_public_write`, of one call of the adapter. -/
def publicWrite (operation : Text) (call : AdapterCall) : Publish call.Answer := do
  update fun c => { c with phase := operation ++ text "_pending", failureCode := .null }
  P.record
  tryCatch (P.precondition operation) fun e => do
    P.recordFailure (operation ++ text "_blocked_before_write")
      (e.code.getD (operation ++ text "_precondition_failed"))
    throw e
  let result ← attempt (P.ask call)
  let actions ← attempt P.assertActionsUnchanged
  match actions, result with
  | .error _, _ => do
    P.recordFailure (operation ++ text "_ambiguous") (text "hosted_actions_run_set_changed")
    throw (.blocked (text "hosted_actions_run_set_changed"))
  | .ok _, .error _ => do
    P.recordFailure (operation ++ text "_ambiguous") (operation ++ text "_response_ambiguous")
    throw (.blocked (operation ++ text "_response_ambiguous"))
  | .ok _, .ok answer => do
    update fun c =>
      { c with completedWrites := c.completedWrites ++ [operation], phase := operation ++ text "_written" }
    P.record
    return answer

end Publisher

end Subgen

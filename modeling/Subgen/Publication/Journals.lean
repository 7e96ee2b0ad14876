import Subgen.Publication.Completion
import Subgen.Lib.Occurrences

/-!
# Publications that are interrupted

The history of one journal: runs of the publisher, one after the other, each from what is loaded of the
journal, and each broken off at any time (`JournalHistory`). What is loaded is the last checkpoint that was
appended, or one of which the append had raised after all (`loadableCheckpoints`).

* `Announced`: a public write is issued behind the checkpoint that announces it, and under the lock;
* `Proven`: a write of an image is issued behind the evidence that the registry refuses to overwrite one;
* `Reverified`: what was read again before the lock is removed;
* `PublicWorld`: the state that is public, if nobody else changes more of it than the lock.
-/

namespace Subgen

open Procedure Occurrences

/-! ## Public writes -/

/-- The public writes. -/
def AdapterCall.isWrite : AdapterCall → Bool
  | verifyLocalSources | fetchAllActionsRunIds | readPublicState _ | assertLock .. | registryBlobPresent _
  | registryManifestPresent _ | readRegistryProbe _ | anonymousPullSmoke _ => false
  | _ => true

/-- The call every run begins with. -/
def AdapterCall.isStart : AdapterCall → Bool
  | verifyLocalSources => true
  | _ => false

/-- What only asks, in the middle of a run, for other things than the public state. -/
def AdapterCall.isQuery : AdapterCall → Bool
  | fetchAllActionsRunIds | assertLock .. | registryBlobPresent _ | registryManifestPresent _
  | readRegistryProbe _ | anonymousPullSmoke _ => true
  | _ => false

/-- The writes that cannot be taken back. -/
def AdapterCall.isFinal : AdapterCall → Bool
  | conditionalCreateVersion | updateLatest _ | removeLockExact _ => true
  | _ => false

/-- The operations of the two probes. -/
def probeOperations : List Text :=
  [text "registry_version_probe_seed", text "registry_version_probe_reject",
   text "registry_latest_probe_seed", text "registry_latest_probe_cas", text "registry_latest_probe_stale"]

/-- The names of a public write. -/
def AdapterCall.Operation (intent : ReleaseIntent) : AdapterCall → Text → Prop
  | createLockObject _, operation => operation = text "lock_object_create"
  | createLockRef _, operation => operation = text "lock_ref_create"
  | advanceMain, operation => operation = text "main_fast_forward"
  | createVersionTagObject, operation => operation = text "version_tag_object_create"
  | createVersionTagRef, operation => operation = text "version_tag_ref_create"
  | startRegistryBlobUpload blob, operation => ∃ index, intent.requiredBlobs[index]? = some blob ∧
      operation = text "registry_blob_" ++ threeDigits index ++ text "_upload_start"
  | finishRegistryBlobUpload blob _, operation => ∃ index, intent.requiredBlobs[index]? = some blob ∧
      operation = text "registry_blob_" ++ threeDigits index ++ text "_upload_finish"
  | putRegistryManifest manifest, operation => ∃ index, intent.requiredManifests[index]? = some manifest ∧
      operation = text "registry_manifest_" ++ threeDigits index ++ text "_put"
  | putRegistryProbe name .., operation => operation = name ∧ name ∈ probeOperations
  | conditionalCreateVersion, operation => operation = text "registry_version_conditional_create"
  | createRelease, operation => operation = text "github_release_create"
  | updateLatest _, operation => operation = text "registry_latest_update"
  | removeLockExact _, operation => operation = text "lock_ref_remove"
  | _, _ => False

namespace PublicationEvent

/-- The event is a write that others see. -/
def isWrite : PublicationEvent → Bool
  | called call _ => call.isWrite
  | appended .. => false

/-- The event is an append to the journal. -/
def isAppend : PublicationEvent → Bool
  | called .. => false
  | appended .. => true

/-- The event is a read of the public state. -/
def isQuery : PublicationEvent → Bool
  | called call _ => call.isQuery
  | appended .. => false

/-- The event starts a run. -/
def isStart : PublicationEvent → Bool
  | called call _ => call.isStart
  | appended .. => false

/-- The event creates the version. -/
def createsVersion : PublicationEvent → Bool
  | called .conditionalCreateVersion _ => true
  | _ => false

/-- The event moves `latest`. -/
def updatesLatest : PublicationEvent → Bool
  | called (.updateLatest _) _ => true
  | _ => false

/-- The event removes the lock. -/
def removesLock : PublicationEvent → Bool
  | called (.removeLockExact _) _ => true
  | _ => false

/-- The state that was read. -/
def reads : PublicationEvent → Option PublicState
  | called (.readPublicState _) (.ok state) => some state
  | _ => none

end PublicationEvent

/-- What the last run has done so far: every run begins with the same call, and never repeats it. -/
def thisRun (history : List PublicationEvent) : List PublicationEvent := history.takeWhile (!·.isStart)

/-! ## Evidence -/

/-- The operations that come before there is a lock. -/
def lockCreations : List Text := [text "lock_object_create", text "lock_ref_create"]

/-- A public write comes behind the checkpoint that announces it, and behind the lock since then. -/
def Announced (intent : ReleaseIntent) (e : PublicationEvent) (before : List PublicationEvent) : Prop :=
  ∃ call result operation c since earlier, e = .called call result ∧ call.Operation intent operation ∧
    before = since ++ .appended c true :: earlier ∧ (∀ e ∈ since, e.isAppend = false) ∧
    c.phase = operation ++ text "_pending" ∧ (operation ∉ lockCreations →
      ∃ objectSha documentSha256, .called (.assertLock objectSha documentSha256) (.ok ()) ∈ since)

/-- The probe of a kind is verified. -/
def PublicationCheckpoint.Verified (c : PublicationCheckpoint) (kind : ProbeKind) : Prop :=
  ∃ receipt, c.probe kind = some receipt ∧ receipt.stage = text "verified" ∧
    receipt.verificationSha256.isSome = true

/-- A durable checkpoint of a kind. -/
def Proven (p : PublicationCheckpoint → Prop) (before : List PublicationEvent) : Prop :=
  ∃ c, .appended c true ∈ before ∧ p c

/-- The manifest that a probe leaves. -/
def winnerOf : ProbeKind → List RegistryManifest → Option RegistryManifest
  | .create, winner :: _ | .cas, _ :: winner :: _ => some winner
  | _, _ => none

/-- What the registry has under the reference of a probe is what its receipt says. -/
def Retained (I : Interpreter) (hash : List ℕ → Text) (intent : ReleaseIntent) (kind : ProbeKind)
    (receipt : RegistryProbeReceipt) (observation : RegistryProbeObservation) : Prop :=
  ∃ manifests winner, validateProbeReceipt I hash intent kind receipt = .ok manifests ∧
    receipt.verificationSha256.isSome = true ∧ winnerOf kind manifests = some winner ∧
    assertProbeExact observation winner = .ok () ∧ observation.etag = receipt.winnerEtag ∧
    (kind = .cas → observation.etag ≠ receipt.priorEtag)

/-- Since the last public write the registry was read under the references of both probes of a checkpoint. -/
def ReverifiedOf (I : Interpreter) (hash : List ℕ → Text) (intent : ReleaseIntent) (c : PublicationCheckpoint)
    (before : List PublicationEvent) : Prop :=
  ∀ kind, ∃ receipt observation, c.probe kind = some receipt ∧
    .called (.readRegistryProbe receipt.reference) (.ok observation) ∈ before.takeWhile (!·.isWrite) ∧
    Retained I hash intent kind receipt observation

/-- The probes of the last checkpoint were verified again. -/
def Reverified (I : Interpreter) (hash : List ℕ → Text) (intent : ReleaseIntent)
    (before : List PublicationEvent) : Prop :=
  ∃ c, lastAppended before = some c ∧ ReverifiedOf I hash intent c before

/-! ## Histories of a journal -/

/-- The checkpoints that may be the last one of the journal after a recovery: the last one that was appended
    durably, and those of which the append raised later. -/
def loadableCheckpoints : List PublicationEvent → List (Option PublicationCheckpoint)
  | [] => [none]
  | .called _ _ :: before => loadableCheckpoints before
  | .appended c true :: _ => [some c]
  | .appended c false :: before => some c :: loadableCheckpoints before

/-- What `load_latest` may return. Only the attempt to update `latest` is asked of the checkpoint: the publisher
    validates the rest of it again. -/
def LoadsLatest (history : List PublicationEvent) : Option PublicationCheckpoint → Prop
  | none => none ∈ loadableCheckpoints history
  | some loaded => ∃ c, some c ∈ loadableCheckpoints history ∧ loaded.latestWriteAttempted = c.latestWriteAttempted

/-- The histories of a journal: any number of runs, each interrupted at any time. -/
inductive JournalHistory (I : Interpreter) (hash : List ℕ → Text) (intent : ReleaseIntent) :
    List PublicationEvent → Prop
  | nil : JournalHistory I hash intent []
  | run {history history' : List PublicationEvent} {recovery : Option PublicationCheckpoint} (P : Publisher)
      (c₀ : PublicationCheckpoint) (h : JournalHistory I hash intent history)
      (hinterpreter : P.interpreter = I) (hhash : P.hash = hash) (hloads : LoadsLatest history recovery)
      (hmore : history <:+ history')
      (hrun : history' <:+ (Procedure.after (P.publish intent recovery) ⟨c₀, history⟩).history) :
      JournalHistory I hash intent history'

/-! ## What is public -/

/-- The release as it is created. -/
def ReleaseIntent.releaseView (intent : ReleaseIntent) : ReleaseView :=
  ⟨intent.versionTag, intent.releaseTitle, false, false, intent.releaseNotes⟩

/-- The state with the effect of a call, which may come late. The lock is looked at apart. -/
def AdapterCall.effect (intent : ReleaseIntent) (state : PublicState) : AdapterCall → PublicState
  | advanceMain => { state with mainCommit := intent.releaseCommit }
  | createVersionTagRef => { state with versionTagObject := some intent.annotatedTag.objectSha }
  | conditionalCreateVersion =>
    if state.versionDigest = none then { state with versionDigest := some intent.image.ociIndex } else state
  | createRelease => { state with release := some intent.releaseView }
  | updateLatest expectedPriorDigest =>
    if state.latestDigest = expectedPriorDigest then
      { state with latestDigest := some intent.image.ociIndex }
    else state
  | _ => state

/-- The state behind a history, when what was read was public, and only the calls change it: each of
    them at any time after it was issued, or not at all. Anybody may take and give back the lock. -/
inductive PublicWorld (intent : ReleaseIntent) : List PublicationEvent → PublicState → Prop
  | start (state : PublicState) : PublicWorld intent [] state
  | event {history : List PublicationEvent} {state : PublicState} (e : PublicationEvent)
      (h : PublicWorld intent history state) (hread : ∀ seen, e.reads = some seen → seen = state) :
      PublicWorld intent (e :: history) state
  | effect {history : List PublicationEvent} {state : PublicState} {call : AdapterCall}
      {result : Except PublicationRaised call.Answer} (h : PublicWorld intent history state)
      (hissued : .called call result ∈ history) : PublicWorld intent history (call.effect intent state)
  | lock {history : List PublicationEvent} {state : PublicState} (lock : Option LockObservation)
      (h : PublicWorld intent history state) : PublicWorld intent history { state with lock := lock }

/-- Everything is published. -/
def FullyPublished (intent : ReleaseIntent) (state : PublicState) : Prop :=
  isFinalState { state with lock := none } intent = true

end Subgen

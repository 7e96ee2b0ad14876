import Subgen.Publication.Documents

/-!
# Checkpoints of a publication

`PublicationCheckpoint` with `_decode`, which makes one of a document, and what
`FileReceiptJournal` demands of the first checkpoint of a run and of one that follows another one.
Fields whose type is not checked are any JSON value.

A document is decoded field by field, each with its own error code. Some checks of the source put a value into
a set or compare it with texts, and raise a `TypeError` that nobody expects where the value is a list or an
object (`unhashable`); this is the error `uncaught` here. The lemmas say which parts can end so: the probes,
by their stage or their kind, and nothing else (`decodeProbe_eq_uncaught`, `decode_eq_uncaught`).

* `decode`: a document as a checkpoint, or the code of what is wrong;
* `validateInitialCheckpoint`, `validateCheckpointTransition`: which checkpoints may come first, and next.
-/

namespace Subgen

open Procedure

/-- The stages of the two kinds of probes, in their order. -/
inductive ProbeKind
  | create
  | cas
  deriving DecidableEq

/-- The text of a kind. -/
def ProbeKind.name : ProbeKind → Text
  | create => text "create"
  | cas => text "cas"

/-- The stages of a probe, in their order. -/
def ProbeKind.stages : ProbeKind → List Text
  | create => [text "planned", text "seed_armed", text "reject_armed", text "verified"]
  | cas => [text "planned", text "seed_armed", text "cas_armed", text "stale_armed", text "verified"]

/-- `RegistryProbeReceipt`. -/
structure RegistryProbeReceipt where
  kind : ProbeKind
  token : Text
  reference : Text
  stage : Text
  priorEtag : Option Text
  winnerEtag : Option Text
  verificationSha256 : Option Text
  deriving DecidableEq

/-- `PublicationCheckpoint`. -/
structure PublicationCheckpoint where
  intentSha256 : Json
  runToken : Json
  runIds : List ℕ
  baselineSha256 : Text
  lockDocumentSha256 : Json
  phase : Text
  lockObjectSha : Json
  lockAcquired : Bool
  lockRemoved : Bool
  completedWrites : List Text
  anonymousSmokeSha256 : Json
  versionCreateProbe : Option RegistryProbeReceipt
  latestCasProbe : Option RegistryProbeReceipt
  latestWriteAttempted : Bool
  blobUploadUrls : List (Text × Text)
  failureCode : Json
  receiptSequence : ℕ
  previousReceiptSha256 : Option Text

/-! ## Decoding -/

/-- `set(document) == expected`. -/
def hasKeys (items : List (Text × Json)) (expected : List Text) : Bool :=
  (items.map Prod.fst).isPerm expected

/-- `[0-9a-f]`. -/
def isHexDigit (c : ℕ) : Bool := Json.isDigit c || (97 ≤ c && c ≤ 102)

/-- `[0-9a-f]{64}`. -/
def isSha256 (t : Text) : Bool := t.length = 64 && t.all isHexDigit

/-- `[A-Za-z0-9_]`. -/
def isWordChar (c : ℕ) : Bool :=
  Json.isDigit c || (65 ≤ c && c ≤ 90) || (97 ≤ c && c ≤ 122) || c = 95

/-- `[A-Za-z0-9_][A-Za-z0-9_.-]{0,127}`. -/
def isReference : Text → Bool
  | [] => false
  | c :: t => isWordChar c && t.length ≤ 127 && t.all fun c => isWordChar c || c = 46 || c = 45

/-- `"[\x21\x23-\x7e]*"`. -/
def isEtag (t : Text) : Bool :=
  2 ≤ t.length && t.head? = some 34 && t.getLast? = some 34 &&
    t.tail.dropLast.all fun c => c = 33 || (35 ≤ c && c ≤ 126)

/-- A string or nothing. -/
def optionalText : Json → Option (Option Text)
  | .null => some none
  | .str s => some (some s)
  | _ => none

/-- The keys of a probe receipt. -/
def probeKeys : List Text :=
  [text "kind", text "token", text "reference", text "stage", text "prior_etag", text "winner_etag",
   text "verification_sha256"]

/-- A value that is in no set: asking whether it is raises a `TypeError`. -/
def unhashable : Json → Bool
  | .array _ | .object _ => true
  | _ => false

namespace RegistryProbeReceipt

variable (r : RegistryProbeReceipt)

/-- The stages at which a probe has the entity tag that it found, that of the winner, or its
    verification. -/
def priorEtagRequired : Bool :=
  r.kind = .cas && r.stage ∈ [text "cas_armed", text "stale_armed", text "verified"]

/-- In this stage the winner has an ETag. -/
def winnerEtagRequired : Bool :=
  match r.kind with
  | .create => r.stage ∈ [text "reject_armed", text "verified"]
  | .cas => r.stage ∈ [text "stale_armed", text "verified"]

/-- The checks of a probe receipt. -/
def valid : Bool :=
  isSha256 r.token && isReference r.reference && r.stage ∈ r.kind.stages &&
    r.priorEtag.all isEtag && r.winnerEtag.all isEtag && r.verificationSha256.all isSha256 &&
    r.priorEtag.isSome = r.priorEtagRequired && r.winnerEtag.isSome = r.winnerEtagRequired &&
    r.verificationSha256.isSome = (r.stage = text "verified")

end RegistryProbeReceipt

/-- The probe of a document, if its fields have the types that a probe has. -/
def probeOf (items : List (Text × Json)) (kind : ProbeKind) : Option RegistryProbeReceipt :=
  match Json.get items (text "kind"), Json.get items (text "token"),
      Json.get items (text "reference"), Json.get items (text "stage"),
      optionalText (Json.get items (text "prior_etag")),
      optionalText (Json.get items (text "winner_etag")),
      optionalText (Json.get items (text "verification_sha256")) with
  | .str k, .str token, .str reference, .str stage, some prior, some winner, some verification =>
    if k = kind.name then some ⟨kind, token, reference, stage, prior, winner, verification⟩ else none
  | _, _, _, _, _, _, _ => none

/-- `decode_probe`. -/
def decodeProbe (v : Json) (kind : ProbeKind) : Except LoadError (Option RegistryProbeReceipt) :=
  match v with
  | .null => .ok none
  | .object items =>
    if !hasKeys items probeKeys then .error (.blocked "receipt_probe_invalid")
    -- The stage is looked up in a set before its type is known.
    else if unhashable (Json.get items (text "stage")) then .error .uncaught
    else
      match probeOf items kind with
      | some r => if r.valid then .ok (some r) else .error (.blocked "receipt_probe_invalid")
      | none => .error (.blocked "receipt_probe_invalid")
  | _ => .error (.blocked "receipt_probe_invalid")

/-- The schema of a checkpoint. -/
def checkpointSchema : Text := text "subgen.task12.publication-checkpoint/v3"

/-- The keys of a checkpoint. -/
def checkpointKeys : List Text :=
  [text "schema", text "intent_sha256", text "run_token", text "actions_baseline",
   text "lock_document_sha256", text "phase", text "lock_object_sha", text "lock_acquired",
   text "lock_removed", text "completed_writes", text "anonymous_smoke_sha256",
   text "version_create_probe", text "latest_cas_probe", text "latest_write_attempted",
   text "blob_upload_urls", text "failure_code", text "receipt_sequence",
   text "previous_receipt_sha256"]

/-- `is None`. -/
def isNone : Json → Bool
  | .null => true
  | _ => false

/-- The text, where the value is one. -/
def textOf : Json → Option Text
  | .str s => some s
  | _ => none

/-- The elements of a list of strings. -/
def textsOf : Json → Option (List Text)
  | .array items => items.mapM textOf
  | _ => none

/-- The members of an object of strings. -/
def textMembersOf : Json → Option (List (Text × Text))
  | .object items => items.mapM fun item => (textOf item.2).map (item.1, ·)
  | _ => none

/-- The Boolean, where the value is one. -/
def boolOf : Json → Option Bool
  | .bool b => some b
  | _ => none

/-- A positive integer that is no boolean. -/
def positiveOf : Json → Option ℕ
  | .int (.ofNat (n + 1)) => some (n + 1)
  | _ => none

/-- A digest or nothing. -/
def optionalSha256 (v : Json) : Option (Option Text) := do
  let t ← optionalText v
  if t.all isSha256 then some t else none

/-- Raises if the condition holds. -/
def blockIf (p : Prop) [Decidable p] (code : String) : Except LoadError Unit :=
  if p then .error (.blocked code) else .ok ()

/-- Raises if there is no value. -/
def demand {α : Type} (code : String) : Option α → Except LoadError α
  | some a => .ok a
  | none => .error (.blocked code)

/-- `ActionsBaseline.validate`, on the members of the document. -/
def validateBaseline (digest : List ℕ → Text) (runIds : List Json) (sha256 : Json) :
    Except LoadError (List ℕ × Text) := do
  let ids ← demand "actions_run_id_invalid" (runIds.mapM positiveOf)
  let sorted := ids.insertionSort (· ≤ ·)
  blockIf (¬ sorted.Nodup) "actions_run_id_duplicate"
  let payload ← canonicalJsonBytes (.object
    [(text "schema", .str (text "subgen.task12.actions-baseline/v1")),
     (text "run_ids", .array (sorted.map fun n : ℕ => .int n))])
  blockIf (sorted ≠ ids ∨ textOf sha256 ≠ some (digest payload)) "actions_baseline_hash_mismatch"
  return (ids, digest payload)

/-- The checkpoint of a document but for its baseline, if the fields have the types that it demands. -/
def checkpointOf (items : List (Text × Json)) (create cas : Option RegistryProbeReceipt) :
    Option (List ℕ → Text → PublicationCheckpoint) := do
  let phase ← textOf (Json.get items (text "phase"))
  let acquired ← boolOf (Json.get items (text "lock_acquired"))
  let removed ← boolOf (Json.get items (text "lock_removed"))
  let writes ← textsOf (Json.get items (text "completed_writes"))
  let attempted ← boolOf (Json.get items (text "latest_write_attempted"))
  let uploads ← textMembersOf (Json.get items (text "blob_upload_urls"))
  let sequence ← positiveOf (Json.get items (text "receipt_sequence"))
  let previous ← optionalSha256 (Json.get items (text "previous_receipt_sha256"))
  some fun runIds baselineSha256 =>
    { intentSha256 := Json.get items (text "intent_sha256")
      runToken := Json.get items (text "run_token")
      runIds := runIds
      baselineSha256 := baselineSha256
      lockDocumentSha256 := Json.get items (text "lock_document_sha256")
      phase := phase
      lockObjectSha := Json.get items (text "lock_object_sha")
      lockAcquired := acquired
      lockRemoved := removed
      completedWrites := writes
      anonymousSmokeSha256 := Json.get items (text "anonymous_smoke_sha256")
      versionCreateProbe := create
      latestCasProbe := cas
      latestWriteAttempted := attempted
      blobUploadUrls := uploads
      failureCode := Json.get items (text "failure_code")
      receiptSequence := sequence
      previousReceiptSha256 := previous }

/-- The list of run ids and the digest of a baseline. -/
def baselineOf (v : Json) : Except LoadError (List Json × Json) :=
  match v with
  | .object items =>
    if hasKeys items [text "run_ids", text "sha256"] then
      match Json.get items (text "run_ids") with
      | .array runIds => .ok (runIds, Json.get items (text "sha256"))
      | _ => .error (.blocked "receipt_baseline_invalid")
    else .error (.blocked "receipt_baseline_invalid")
  | _ => .error (.blocked "receipt_baseline_invalid")

/-- `_decode`, of an object. -/
def PublicationCheckpoint.decode (digest : List ℕ → Text) (items : List (Text × Json)) :
    Except LoadError PublicationCheckpoint := do
  blockIf (¬ hasKeys items checkpointKeys) "receipt_schema_invalid"
  let (runIds, sha256) ← baselineOf (Json.get items (text "actions_baseline"))
  let create ← decodeProbe (Json.get items (text "version_create_probe")) .create
  let cas ← decodeProbe (Json.get items (text "latest_cas_probe")) .cas
  blockIf (textOf (Json.get items (text "schema")) ≠ some checkpointSchema) "receipt_schema_invalid"
  let checkpoint ← demand "receipt_field_invalid" (checkpointOf items create cas)
  let (runIds, sha256) ← validateBaseline digest runIds sha256
  return checkpoint runIds sha256

/-! ## The order of checkpoints -/

/-- `_validate_initial_checkpoint`. -/
def validateInitialCheckpoint (c : PublicationCheckpoint) : Except LoadError Unit :=
  if c.phase ≠ text "prepared" ∨ ¬ isNone c.lockObjectSha ∨ c.lockAcquired ∨ c.lockRemoved ∨
      c.completedWrites ≠ [] ∨ ¬ isNone c.anonymousSmokeSha256 ∨
      c.versionCreateProbe.isSome ∨ c.latestCasProbe.isSome ∨ c.latestWriteAttempted ∨
      c.blobUploadUrls ≠ [] ∨ ¬ isNone c.failureCode then
    .error (.blocked "receipt_initial_checkpoint_invalid")
  else .ok ()

/-- The only two steps that may add the entity tag of the winner. -/
def addsWinner (kind : ProbeKind) (stage stage' : Text) : Bool :=
  match kind with
  | .create => stage = text "seed_armed" && stage' = text "reject_armed"
  | .cas => stage = text "cas_armed" && stage' = text "stale_armed"

/-- `_validate_probe_transition`, of two probes. -/
def validateProbeStep (kind : ProbeKind) (r r' : RegistryProbeReceipt) : Except LoadError Unit := do
  let stage := kind.stages.idxOf r.stage
  let stage' := kind.stages.idxOf r'.stage
  blockIf (r.kind ≠ r'.kind ∨ r.kind ≠ kind ∨ r.token ≠ r'.token ∨ r.reference ≠ r'.reference)
    "receipt_probe_identity_changed"
  blockIf (stage' ≠ stage ∧ stage' ≠ stage + 1) "receipt_probe_transition_invalid"
  blockIf (r.priorEtag ≠ none ∧ r'.priorEtag ≠ r.priorEtag) "receipt_probe_etag_changed"
  blockIf (r.verificationSha256 ≠ none ∧ r'.verificationSha256 ≠ r.verificationSha256)
    "receipt_probe_verification_changed"
  blockIf (r.winnerEtag ≠ none ∧ r'.winnerEtag ≠ r.winnerEtag) "receipt_probe_winner_etag_changed"
  blockIf (kind = .cas ∧ r.priorEtag = none ∧ r'.priorEtag ≠ none ∧
      ¬ (r.stage = text "seed_armed" ∧ r'.stage = text "cas_armed"))
    "receipt_probe_etag_transition_invalid"
  blockIf (r.winnerEtag = none ∧ r'.winnerEtag ≠ none ∧
      (stage' ≠ stage + 1 ∨ ¬ addsWinner kind r.stage r'.stage))
    "receipt_probe_winner_etag_transition_invalid"

/-- `_validate_probe_transition`. -/
def validateProbeTransition (kind : ProbeKind) :
    Option RegistryProbeReceipt → Option RegistryProbeReceipt → Except LoadError Unit
  | none, none => .ok ()
  | none, some r' => blockIf (r'.stage ≠ text "planned") "receipt_probe_transition_invalid"
  | some _, none => .error (.blocked "receipt_probe_transition_invalid")
  | some r, some r' => validateProbeStep kind r r'

namespace Interpreter

variable (I : Interpreter)

/-- `_validate_checkpoint_transition`. -/
def validateCheckpointTransition (c c' : PublicationCheckpoint) : Except LoadError Unit := do
  validateProbeTransition .create c.versionCreateProbe c'.versionCreateProbe
  validateProbeTransition .cas c.latestCasProbe c'.latestCasProbe
  blockIf (¬ isNone c.anonymousSmokeSha256 ∧ ¬ I.same c'.anonymousSmokeSha256 c.anonymousSmokeSha256)
    "receipt_anonymous_smoke_changed"
  blockIf (¬ isNone c.lockObjectSha ∧ ¬ I.same c'.lockObjectSha c.lockObjectSha)
    "receipt_lock_object_changed"
  blockIf (c.lockAcquired ∧ ¬ c'.lockAcquired) "receipt_lock_acquired_regressed"
  blockIf (c.lockRemoved ∧ ¬ c'.lockRemoved) "receipt_lock_removed_regressed"
  blockIf (c.latestWriteAttempted ∧ ¬ c'.latestWriteAttempted)
    "receipt_latest_write_attempted_regressed"
  blockIf (¬ c.completedWrites <+: c'.completedWrites) "receipt_completed_writes_regressed"
  blockIf (¬ ∀ upload ∈ c.blobUploadUrls, c'.blobUploadUrls.lookup upload.1 = some upload.2)
    "receipt_blob_upload_changed"
  blockIf (c'.lockRemoved ∧ ¬ c'.lockAcquired) "receipt_lock_state_invalid"
  blockIf (c'.lockAcquired ∧ isNone c'.lockObjectSha) "receipt_lock_state_invalid"

/-- Whether two checkpoints are of the same run. -/
def sameRun (c c' : PublicationCheckpoint) : Bool :=
  I.same c.intentSha256 c'.intentSha256 && I.same c.runToken c'.runToken &&
    I.same c.lockDocumentSha256 c'.lockDocumentSha256 && c.runIds = c'.runIds &&
    c.baselineSha256 = c'.baselineSha256

end Interpreter

/-! ## What is raised -/

@[simp] theorem blockIf_eq_ok {p : Prop} [Decidable p] {code : String} {u : Unit} :
    blockIf p code = .ok u ↔ ¬ p := by
  by_cases hp : p <;> simp [blockIf, hp]

@[simp] theorem blockIf_ne_uncaught {p : Prop} [Decidable p] {code : String} :
    blockIf p code ≠ .error .uncaught := by
  by_cases hp : p <;> simp [blockIf, hp]

theorem validateInitialCheckpoint_ne_uncaught (c : PublicationCheckpoint) :
    validateInitialCheckpoint c ≠ .error .uncaught := by
  rw [validateInitialCheckpoint]
  split <;> simp

theorem validateProbeTransition_ne_uncaught (kind : ProbeKind) (r r' : Option RegistryProbeReceipt) :
    validateProbeTransition kind r r' ≠ .error .uncaught := by
  rcases r with _ | r <;> rcases r' with _ | r' <;>
    simp [validateProbeTransition, validateProbeStep, bind_eq_error]

theorem validateCheckpointTransition_ne_uncaught (I : Interpreter) (c c' : PublicationCheckpoint) :
    I.validateCheckpointTransition c c' ≠ .error .uncaught := by
  simp [Interpreter.validateCheckpointTransition, bind_eq_error, validateProbeTransition_ne_uncaught]

@[simp] theorem demand_ne_uncaught {α : Type} {code : String} {a : Option α} :
    demand code a ≠ .error .uncaught := by
  cases a <;> simp [demand]

@[simp] theorem canonicalJsonBytes_ne_uncaught (v : Json) : canonicalJsonBytes v ≠ .error .uncaught := by
  rw [canonicalJsonBytes]
  cases v.dumps <;> simp

theorem validateBaseline_ne_uncaught (digest : List ℕ → Text) (runIds : List Json) (sha256 : Json) :
    validateBaseline digest runIds sha256 ≠ .error .uncaught := by
  simp [validateBaseline, bind_eq_error, map_eq_error]

theorem baselineOf_ne_uncaught (v : Json) : baselineOf v ≠ .error .uncaught := by
  unfold baselineOf
  split
  · split
    · split <;> simp
    · simp
  · simp

/-- A probe whose stage is looked up although it is a list or an object. -/
def unforeseenProbe : Json → Bool
  | .object items => hasKeys items probeKeys && unhashable (Json.get items (text "stage"))
  | _ => false

theorem decodeProbe_eq_uncaught {v : Json} {kind : ProbeKind} :
    decodeProbe v kind = .error .uncaught ↔ unforeseenProbe v = true := by
  cases v with
  | object items =>
    rw [decodeProbe, unforeseenProbe]
    cases hkeys : hasKeys items probeKeys
    · simp
    cases hstage : unhashable (Json.get items (text "stage"))
    · cases probeOf items kind with
      | none => simp
      | some r => cases hvalid : r.valid <;> simp [hvalid]
    · simp
  | _ => simp [decodeProbe, unforeseenProbe]

/-- A document with such a probe, behind everything that is checked before. -/
def UnforeseenStage (items : List (Text × Json)) : Prop :=
  hasKeys items checkpointKeys = true ∧
    (∃ baseline, baselineOf (Json.get items (text "actions_baseline")) = .ok baseline) ∧
    (unforeseenProbe (Json.get items (text "version_create_probe")) = true ∨
      (∃ probe, decodeProbe (Json.get items (text "version_create_probe")) .create = .ok probe) ∧
        unforeseenProbe (Json.get items (text "latest_cas_probe")) = true)

theorem decode_eq_uncaught {digest : List ℕ → Text} {items : List (Text × Json)} :
    PublicationCheckpoint.decode digest items = .error .uncaught ↔ UnforeseenStage items := by
  simp [PublicationCheckpoint.decode, UnforeseenStage, bind_eq_error, map_eq_error, baselineOf_ne_uncaught,
    decodeProbe_eq_uncaught, validateBaseline_ne_uncaught]

end Subgen

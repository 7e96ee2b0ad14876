import Subgen.Publication.JournalFiles

/-!
# The appends of the publication journal

`FileReceiptJournal.append` and `load_latest`, call by call, under the lock. A receipt is written beside
a transaction that has it too: the transaction is published first, under its final name by a link, then
the receipt, then the head. What stands in the directory is recovered first, by the next append or load.

An operation is a script of system calls, so that a process can be stopped between any two of them and a call
can fail in any way. A file is published in three steps, staged, linked under its name and unlinked under its
staging name, and each of the three files may be found in any of these steps by a recovery. The error codes of
the two kinds of files differ and are parameters (`PublicationCodes`).

* `append`: a checkpoint is appended, or the reason why not is raised;
* `loadLatest`: the last checkpoint of the directory, behind its recovery.
-/

namespace Subgen

/-- `OSError`, or what `_load_all` raises otherwise. -/
inductive JournalError
  | os
  | load (e : LoadError)

/-- An operation of the journal, as the calls that it makes one after the other. -/
abbrev JournalScript (α : Type) := Script JournalCall JournalCall.Answer JournalError α

/-! ## Documents -/

/-- The schema of a transaction. -/
def transactionSchema : Text := text "subgen.task12.publication-journal-transaction/v1"

/-- `_head_document`. -/
def headDocument (head : ℕ × Text) : Json :=
  .object
    [(text "schema", .str headSchema), (text "receipt_sequence", .int head.1),
     (text "receipt_sha256", .str head.2)]

/-- A probe receipt as it is written. -/
def probeDocument : Option RegistryProbeReceipt → Json
  | none => .null
  | some r =>
    .object
      [(text "kind", .str r.kind.name), (text "token", .str r.token), (text "reference", .str r.reference),
       (text "stage", .str r.stage), (text "prior_etag", r.priorEtag.elim .null .str),
       (text "winner_etag", r.winnerEtag.elim .null .str),
       (text "verification_sha256", r.verificationSha256.elim .null .str)]

/-- `snapshot`. -/
def PublicationCheckpoint.snapshot (c : PublicationCheckpoint) : Json :=
  .object
    [(text "intent_sha256", c.intentSha256), (text "run_token", c.runToken),
     (text "actions_baseline",
       .object [(text "run_ids", .array (c.runIds.map fun n : ℕ => .int n)), (text "sha256", .str c.baselineSha256)]),
     (text "lock_document_sha256", c.lockDocumentSha256), (text "phase", .str c.phase),
     (text "lock_object_sha", c.lockObjectSha), (text "lock_acquired", .bool c.lockAcquired),
     (text "lock_removed", .bool c.lockRemoved),
     (text "completed_writes", .array (c.completedWrites.map .str)),
     (text "anonymous_smoke_sha256", c.anonymousSmokeSha256),
     (text "version_create_probe", probeDocument c.versionCreateProbe),
     (text "latest_cas_probe", probeDocument c.latestCasProbe),
     (text "latest_write_attempted", .bool c.latestWriteAttempted),
     (text "blob_upload_urls", .object (c.blobUploadUrls.map fun upload => (upload.1, .str upload.2))),
     (text "failure_code", c.failureCode), (text "receipt_sequence", .int c.receiptSequence),
     (text "previous_receipt_sha256", c.previousReceiptSha256.elim .null .str),
     (text "schema", .str checkpointSchema)]

/-- A transaction as it is written. -/
def transactionDocument (previousHead : Option (ℕ × Text)) (nextHead : ℕ × Text) (receipt : Json) : Json :=
  .object
    [(text "schema", .str transactionSchema), (text "previous_head", previousHead.elim .null headDocument),
     (text "next_head", headDocument nextHead), (text "receipt", receipt)]

/-- What a transaction says, with the canonical payloads of its documents. -/
structure JournalTransaction where
  previousHead : Option (ℕ × Text)
  previousPayload : Option (List ℕ)
  nextHead : ℕ × Text
  nextPayload : List ℕ
  checkpoint : PublicationCheckpoint
  receiptPayload : List ℕ

/-- `_decode_head`. -/
def decodeHeadDocument : Json → Except LoadError (ℕ × Text)
  | .object items => decodeHead items
  | _ => .error (.blocked "receipt_head_schema_invalid")

/-- A head or nothing. -/
def decodeOptionalHead : Json → Except LoadError (Option (ℕ × Text))
  | .null => .ok none
  | v => (decodeHeadDocument v).map some

/-- `_canonical_head_payload`, of a head that may be missing. -/
def optionalHeadPayload : Json → Except LoadError (Option (List ℕ))
  | .null => .ok none
  | v => (canonicalJsonBytes v).map some

namespace Interpreter

variable (I : Interpreter) (digest : List ℕ → Text)

/-- `_decode`. -/
def decodeDocument : Json → Except LoadError PublicationCheckpoint
  | .object items => PublicationCheckpoint.decode digest items
  | _ => .error (.blocked "receipt_schema_invalid")

/-- What `_recover_transaction` reads of a transaction. -/
def decodeTransaction (payload : List ℕ) : Except LoadError JournalTransaction := do
  let items ← I.canonicalObject "receipt_head_transaction" payload
  blockIf (¬ hasKeys items [text "schema", text "previous_head", text "next_head", text "receipt"] ∨
    textOf (Json.get items (text "schema")) ≠ some transactionSchema) "receipt_head_transaction_invalid"
  let previousHead ← decodeOptionalHead (Json.get items (text "previous_head"))
  let nextHead ← decodeHeadDocument (Json.get items (text "next_head"))
  let receiptPayload ← canonicalJsonBytes (Json.get items (text "receipt"))
  let checkpoint ← decodeDocument digest (Json.get items (text "receipt"))
  blockIf (checkpoint.receiptSequence ≠ nextHead.1 ∨ digest receiptPayload ≠ nextHead.2)
    "receipt_head_transaction_invalid"
  let previousPayload ← optionalHeadPayload (Json.get items (text "previous_head"))
  let nextPayload ← canonicalJsonBytes (Json.get items (text "next_head"))
  blockIf (nextHead.1 ≠ (previousHead.elim 0 Prod.fst) + 1 ∨
    checkpoint.previousReceiptSha256 ≠ previousHead.map Prod.snd) "receipt_head_transaction_invalid"
  return ⟨previousHead, previousPayload, nextHead, nextPayload, checkpoint, receiptPayload⟩

/-- `_validate_next_checkpoint`. -/
def validateNextCheckpoint (records : List Receipt) (c : PublicationCheckpoint) : Except LoadError Unit := do
  I.validateRun records.getLast? c
  I.validateStep records.getLast? c

end Interpreter

namespace FileReceiptJournal

/-! ## Calls -/

/-- A call whose `OSError` goes through. -/
def attempt (o : JournalCall) : JournalScript o.Reply := do
  match ← Script.ask o with
  | .ok reply => pure reply
  | .error _ => throw .os

/-- A pure step that may fail. -/
def lift {α : Type} (x : Except LoadError α) : JournalScript α :=
  match x with
  | .ok a => pure a
  | .error e => throw (.load e)

/-- `_blocked`. -/
def blocked {α : Type} (code : String) : JournalScript α := throw (.load (.blocked code))

/-- A call whose `OSError` is a `PublicationBlocked`. -/
def guarded (code : String) (o : JournalCall) : JournalScript o.Reply := do
  match ← Script.ask o with
  | .ok reply => pure reply
  | .error _ => blocked code

/-- The same, where an error of one kind has a code of its own. -/
def guardedExists (existsCode code : String) (o : JournalCall) : JournalScript o.Reply := do
  match ← Script.ask o with
  | .ok reply => pure reply
  | .error .exists => blocked existsCode
  | .error _ => blocked code

/-- `lstat` of a file that may be missing. -/
def look (code : String) (name : JournalName) : JournalScript (Option (ℕ × Inode)) := do
  match ← Script.ask (.lstat name) with
  | .ok found => pure (some found)
  | .error .notFound => pure none
  | .error _ => blocked code

/-- `_read_owner_file`. -/
def readOwner (invalidCode aliasCode : String) (name : JournalName) : JournalScript (List ℕ) := do
  let f ← guarded invalidCode (.read name)
  lift (readOwnerFile invalidCode aliasCode f)

/-- `_read_optional_owner_file` and `_read_optional_control_file`. -/
def readOptional (invalidCode aliasCode : String) (name : JournalName) : JournalScript (Option (List ℕ)) := do
  match ← look invalidCode name with
  | none => pure none
  | some _ => do
    let payload ← readOwner invalidCode aliasCode name
    pure (some payload)

/-- `_read_optional_control_file`. -/
def readControl (name : JournalName) : JournalScript (Option (List ℕ)) :=
  readOptional "receipt_head_invalid" "receipt_head_aliased" name

/-! ## Files that are published -/

/-- `_write_staged_file`. -/
def writeStagedFile (name : JournalName) (payload : List ℕ) (collisionCode writeCode changedCode : String) :
    JournalScript Unit := do
  guardedExists collisionCode writeCode (.create name)
  guarded writeCode (.chmod name)
  guarded writeCode (.write name payload)
  guarded writeCode (.sync name)
  let written ← guarded writeCode (.lstat name)
  let found ← guarded writeCode (.lstat name)
  lift (blockIf (¬ written.2.regular ∨ written.2.links ≠ 1 ∨ ¬ written.2.ownerOnly ∨ ¬ written.2.owned ∨
    written.1 ≠ found.1) changedCode)
  guarded writeCode .fsync

/-- `_unlink_file`. -/
def unlinkFile (name : JournalName) (writeCode : String) : JournalScript Unit := do
  guarded writeCode (.unlink name)
  guarded writeCode .fsync

/-- `_complete_link_publication`. -/
def completeLinkPublication (staged target : JournalName) (mismatchCode writeCode : String) :
    JournalScript Unit := do
  match ← look writeCode staged with
  | none => pure ()
  | some stagedInfo =>
    match ← look writeCode target with
    | none => pure ()
    | some targetInfo => do
      lift (blockIf (¬ stagedInfo.2.regular ∨ ¬ targetInfo.2.regular ∨ stagedInfo.2.links ≠ 2 ∨
        targetInfo.2.links ≠ 2 ∨ stagedInfo.1 ≠ targetInfo.1 ∨ ¬ stagedInfo.2.ownerOnly ∨
        ¬ stagedInfo.2.owned) mismatchCode)
      unlinkFile staged writeCode

/-- `_publish_staged_no_replace`. -/
def publishStagedNoReplace (staged target : JournalName) (collisionCode writeCode : String) :
    JournalScript Unit := do
  guardedExists collisionCode writeCode (.link staged target)
  guarded writeCode .fsync
  unlinkFile staged writeCode

/-- A shorter beginning of a payload, or the payload itself. -/
def partly (payload expected : List ℕ) : Bool :=
  payload = expected || (payload.length < expected.length && payload.isPrefixOf expected)

/-- The codes of a file that is published. -/
structure PublicationCodes where
  collision : String
  mismatch : String
  write : String
  changed : String

/-- `_ensure_transaction_bound_file`, when the target is not there as it should be. -/
def publishBoundFile (staged target : JournalName) (expected : List ℕ) (codes : PublicationCodes)
    (stagedPayload targetPayload : Option (List ℕ)) : JournalScript Unit := do
  match targetPayload with
  | some payload => do
    lift (blockIf (¬ partly payload expected) codes.mismatch)
    unlinkFile target codes.write
  | none => pure ()
  match stagedPayload with
  | some payload =>
    if payload = expected then pure ()
    else do
      lift (blockIf (¬ partly payload expected) codes.mismatch)
      unlinkFile staged codes.write
      writeStagedFile staged expected codes.collision codes.write codes.changed
  | none => writeStagedFile staged expected codes.collision codes.write codes.changed
  publishStagedNoReplace staged target codes.collision codes.write
  let published ← readOptional codes.write codes.changed target
  lift (blockIf (published ≠ some expected) codes.mismatch)

/-- `_ensure_transaction_bound_file`. -/
def ensureTransactionBoundFile (staged target : JournalName) (expected : List ℕ) (codes : PublicationCodes) :
    JournalScript Unit := do
  completeLinkPublication staged target codes.mismatch codes.write
  let stagedPayload ← readOptional codes.write codes.changed staged
  let targetPayload ← readOptional codes.write codes.changed target
  lift (blockIf (stagedPayload.isSome ∧ targetPayload.isSome) codes.mismatch)
  if targetPayload = some expected then pure ()
  else publishBoundFile staged target expected codes stagedPayload targetPayload

/-- The error codes of a receipt that is published. -/
def receiptCodes : PublicationCodes where
  collision := "receipt_writer_collision"
  mismatch := "receipt_head_transaction_mismatch"
  write := "receipt_write_failed"
  changed := "receipt_changed_while_writing"

/-- The error codes of a head that is published. -/
def headCodes : PublicationCodes where
  collision := "receipt_head_writer_collision"
  mismatch := "receipt_head_transaction_mismatch"
  write := "receipt_head_write_failed"
  changed := "receipt_head_changed_while_writing"

section Documents

variable (I : Interpreter) (digest : List ℕ → Text)

/-! ## The head and the chain -/

/-- `_read_head`. -/
def readHead : JournalScript (Option ((ℕ × Text) × List ℕ)) := do
  match ← readControl .head with
  | none => pure none
  | some payload => do
    let items ← lift (I.canonicalObject "receipt_head" payload)
    let head ← lift (decodeHead items)
    pure (some (head, payload))

/-- `_receipt_paths`: the files are looked at. -/
def checkReceiptPaths : List ℕ → JournalScript Unit
  | [] => pure ()
  | n :: numbers => do
    let found ← attempt (.lstat (.receipt n))
    lift (blockIf (¬ found.2.regular ∨ found.2.links ≠ 1) "receipt_file_aliased")
    checkReceiptPaths numbers

/-- `_receipt_paths`. -/
def receiptPaths : JournalScript (List ℕ) := do
  let numbers ← attempt .receipts
  lift (blockIf (numbers ≠ List.range' 1 numbers.length) "receipt_sequence_invalid")
  checkReceiptPaths numbers
  pure numbers

/-- `_load_record_chain`, behind records that are loaded. -/
def loadRecordChain : List Receipt → List ℕ → JournalScript (List Receipt)
  | records, [] => pure records
  | records, n :: numbers => do
    let f ← guarded "receipt_invalid" (.read (.receipt n))
    let r ← lift (I.nextRecord digest records f)
    loadRecordChain (records ++ [r]) numbers

/-- `_install_head`. -/
def installHead (nextPayload : List ℕ) (expectedCurrentPayload : Option (List ℕ)) : JournalScript Unit := do
  let current ← readHead I
  lift (blockIf (current.map Prod.snd ≠ expectedCurrentPayload) "receipt_head_changed")
  ensureTransactionBoundFile .headNextStaged .headNext nextPayload headCodes
  let current ← readHead I
  lift (blockIf (current.map Prod.snd ≠ expectedCurrentPayload) "receipt_head_changed")
  guarded "receipt_head_write_failed" (.replace .headNext .head)
  guarded "receipt_head_write_failed" .fsync

/-! ## Transactions -/

/-- `_recover_transaction_staging`. -/
def recoverTransactionStaging : JournalScript Unit := do
  completeLinkPublication .transactionStaged .transaction "receipt_head_transaction_mismatch"
    "receipt_head_write_failed"
  match ← readControl .transactionStaged with
  | none => pure ()
  | some _ => do
    let target ← readControl .transaction
    lift (blockIf (target ≠ none) "receipt_head_transaction_mismatch")
    unlinkFile .transactionStaged "receipt_head_write_failed"

/-- `_publish_transaction`. -/
def publishTransaction (payload : List ℕ) : JournalScript Unit := do
  let staged ← readControl .transactionStaged
  lift (blockIf (staged ≠ none) "receipt_head_transaction_exists")
  let target ← readControl .transaction
  lift (blockIf (target ≠ none) "receipt_head_transaction_exists")
  writeStagedFile .transactionStaged payload "receipt_head_transaction_exists" "receipt_head_write_failed"
    "receipt_head_changed_while_writing"
  publishStagedNoReplace .transactionStaged .transaction "receipt_head_transaction_exists"
    "receipt_head_write_failed"

/-- `_clear_transaction`. -/
def clearTransaction (expectedPayload : List ℕ) : JournalScript Unit := do
  let current ← readControl .transaction
  lift (blockIf (current ≠ some expectedPayload) "receipt_head_transaction_mismatch")
  guarded "receipt_head_write_failed" (.unlink .transaction)
  guarded "receipt_head_write_failed" .fsync

/-- `_recover_transaction`, where there is no transaction. -/
def demandNoTransaction : JournalScript Unit := do
  let next ← readControl .headNext
  lift (blockIf (next ≠ none) "receipt_head_transaction_missing")
  let staged ← readControl .headNextStaged
  lift (blockIf (staged ≠ none) "receipt_head_transaction_missing")
  let receipts ← attempt .stagedReceipts
  lift (blockIf (receipts ≠ []) "receipt_head_transaction_missing")

/-- `_recover_transaction`: the receipt is published. -/
def recoverReceipt (t : JournalTransaction) : JournalScript Unit := do
  let stagedReceipts ← attempt .stagedReceipts
  lift (blockIf (stagedReceipts ≠ [] ∧ stagedReceipts ≠ [t.nextHead.1]) "receipt_head_transaction_mismatch")
  completeLinkPublication (.receiptStaged t.nextHead.1) (.receipt t.nextHead.1)
    "receipt_head_transaction_mismatch" "receipt_write_failed"
  let paths ← receiptPaths
  let previousSequence := t.previousHead.elim 0 Prod.fst
  lift (blockIf (paths.length ≠ previousSequence ∧ paths.length ≠ t.nextHead.1)
    "receipt_head_transaction_mismatch")
  let records ← loadRecordChain I digest [] (paths.take previousSequence)
  lift (Interpreter.validateRecordsHead digest records t.previousHead)
  lift (I.validateNextCheckpoint records t.checkpoint)
  ensureTransactionBoundFile (.receiptStaged t.nextHead.1) (.receipt t.nextHead.1) t.receiptPayload receiptCodes

/-- `_recover_transaction`, of a transaction that is read. -/
def finishDecoded (payload : List ℕ) (t : JournalTransaction) : JournalScript Unit := do
  let current ← readHead I
  let currentPayload := current.map Prod.snd
  lift (blockIf (currentPayload ≠ t.previousPayload ∧ currentPayload ≠ some t.nextPayload)
    "receipt_head_transaction_mismatch")
  lift (blockIf (t.previousPayload ≠ none ∧ currentPayload = none) "receipt_head_transaction_mismatch")
  recoverReceipt I digest t
  if currentPayload = t.previousPayload then installHead I t.nextPayload t.previousPayload
  else do
    let next ← readControl .headNext
    lift (blockIf (next ≠ none) "receipt_head_transaction_mismatch")
    let staged ← readControl .headNextStaged
    lift (blockIf (staged ≠ none) "receipt_head_transaction_mismatch")
  clearTransaction payload

/-- `_recover_transaction`, of a transaction. -/
def finishTransaction (payload : List ℕ) : JournalScript Unit := do
  let t ← lift (I.decodeTransaction digest payload)
  finishDecoded I digest payload t

/-- `_recover_transaction`. -/
def recoverTransaction : JournalScript Unit := do
  recoverTransactionStaging
  match ← readControl .transaction with
  | none => demandNoTransaction
  | some payload => finishTransaction I digest payload

/-- `_load_all`. -/
def loadAll : JournalScript (List Receipt) := do
  recoverTransaction I digest
  let paths ← receiptPaths
  let records ← loadRecordChain I digest [] paths
  let head ← readHead I
  lift (Interpreter.validateRecordsHead digest records (head.map Prod.fst))
  pure records

/-- The head of a journal with these records. -/
def headOf (records : List Receipt) : Option (ℕ × Text) :=
  (lastDigest (Interpreter.recordDigest digest) records).map fun sha256 => (records.length, sha256)

/-- The checkpoint as it is appended to the records. -/
def appended (records : List Receipt) (c : PublicationCheckpoint) : PublicationCheckpoint :=
  { c with
    receiptSequence := records.length + 1
    previousReceiptSha256 := lastDigest (Interpreter.recordDigest digest) records }

/-- `append`, behind the recovery. -/
def publish (records : List Receipt) (paths : List ℕ) (c : PublicationCheckpoint) : JournalScript Unit := do
  let payload ← lift (canonicalJsonBytes (appended digest records c).snapshot)
  let nextHead := (records.length + 1, digest payload)
  let transaction ← lift (canonicalJsonBytes
    (transactionDocument (headOf digest records) nextHead (appended digest records c).snapshot))
  publishTransaction transaction
  ensureTransactionBoundFile (.receiptStaged (records.length + 1)) (.receipt (paths.length + 1)) payload
    receiptCodes
  let previousPayload ← lift ((headOf digest records).mapM fun head => canonicalJsonBytes (headDocument head))
  let nextPayload ← lift (canonicalJsonBytes (headDocument nextHead))
  installHead I nextPayload previousPayload
  clearTransaction transaction

/-- `append`. -/
def append (c : PublicationCheckpoint) : JournalScript Unit := do
  let records ← loadAll I digest
  let paths ← receiptPaths
  lift (I.validateNextCheckpoint records c)
  publish I digest records paths c

/-- `load_latest`. -/
def loadLatest : JournalScript (Option PublicationCheckpoint) := do
  let records ← loadAll I digest
  pure (records.getLast?.map Prod.fst)

end Documents

end FileReceiptJournal

end Subgen

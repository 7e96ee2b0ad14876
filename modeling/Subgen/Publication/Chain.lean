import Subgen.Lib.HashChain
import Subgen.Publication.Checkpoint

/-!
# The receipts of the publication journal

What `FileReceiptJournal._load_all` makes of a directory without an append in flight. The newest receipt
is anchored by the head of the journal, and every other one by the receipt behind it.

* `Records.Loaded`: what a loaded chain is, from the receipts that it was loaded from;
* `loadRecordChain_eq_uncaught`: the loader raises something else than `PublicationBlocked` exactly if
  it gets to a receipt that is `Unforeseen`;
* `tampering_detected`: a directory with the same head has the same receipts, or is refused.
-/

namespace Subgen

open Procedure

/-! ## Directories -/

/-- A file as `lstat`, `open` and `read` show it. -/
structure Inode where
  regular : Bool
  links : ℕ
  ownerOnly : Bool
  owned : Bool
  readable : Bool
  content : List ℕ
  deriving DecidableEq

/-- The journal directory, with distinct names. -/
structure Directory where
  entries : List (Text × Inode)
  nodup : (entries.map Prod.fst).Nodup

/-- A checkpoint, with the bytes it was read from. -/
abbrev Receipt := PublicationCheckpoint × List ℕ

/-- The file of the head. -/
def headName : Text := text ".journal-head.json"

/-- The file that becomes the head. -/
def headNextName : Text := text ".journal-head.next.json"

/-- The file in which that one is staged. -/
def headNextStagedName : Text := text ".journal-head.next.staged.json"

/-- The file of the transaction. -/
def transactionName : Text := text ".journal-append-transaction.json"

/-- The file in which the transaction is staged. -/
def transactionStagedName : Text := text ".journal-append-transaction.staged.json"

/-- `f"{n:08d}"`. -/
def eightDigits (n : ℕ) : Text :=
  List.replicate (8 - (Json.printNat n).length) 48 ++ Json.printNat n

/-- The file of a receipt. -/
def receiptName (n : ℕ) : Text := text "checkpoint-" ++ eightDigits n ++ text ".json"

/-- The names of a pattern `before*behind`. -/
def matchesGlob (before behind name : Text) : Bool :=
  before.isPrefixOf name && behind.isSuffixOf name && before.length + behind.length ≤ name.length

/-- The name of a receipt. -/
def isReceiptName : Text → Bool := matchesGlob (text "checkpoint-") (text ".json")

/-- The name of a staged receipt. -/
def isStagedReceiptName : Text → Bool := matchesGlob (text ".checkpoint-") (text ".staged.json")

/-- `_read_owner_file`. -/
def readOwnerFile (invalidCode aliasCode : String) (f : Inode) : Except LoadError (List ℕ) := do
  blockIf (¬ f.readable) invalidCode
  blockIf (¬ f.regular ∨ f.links ≠ 1 ∨ ¬ f.ownerOnly ∨ ¬ f.owned) aliasCode
  return f.content

/-- A receipt file is read. -/
def readReceipt : Inode → Except LoadError (List ℕ) := readOwnerFile "receipt_invalid" "receipt_file_aliased"

/-- The head or a transaction is read. -/
def readControlFile : Inode → Except LoadError (List ℕ) :=
  readOwnerFile "receipt_head_invalid" "receipt_head_aliased"

namespace Directory

variable (D : Directory)

/-- `_read_optional_control_file`. -/
def readOptionalControlFile (name : Text) : Except LoadError (Option (List ℕ)) :=
  match D.entries.lookup name with
  | none => .ok none
  | some f => (readControlFile f).map some

/-- `_receipt_paths`, with the files that they lead to. -/
def receiptPaths : Except LoadError (List (Text × Inode)) := do
  let paths := (D.entries.filter fun e => isReceiptName e.1).insertionSort fun e e' => e.1 ≤ e'.1
  blockIf (paths.map Prod.fst ≠ (List.range paths.length).map fun i => receiptName (i + 1))
    "receipt_sequence_invalid"
  blockIf (¬ ∀ e ∈ paths, e.2.regular ∧ e.2.links = 1) "receipt_file_aliased"
  return paths

/-- No append is in flight. -/
def Settled : Prop :=
  D.entries.lookup transactionName = none ∧ D.entries.lookup transactionStagedName = none ∧
    D.entries.lookup headNextName = none ∧ D.entries.lookup headNextStagedName = none ∧
      ∀ e ∈ D.entries, isStagedReceiptName e.1 = false

/-- `_recover_transaction`, where there is no transaction. -/
def recoverTransaction : Except LoadError Unit := do
  let next ← D.readOptionalControlFile headNextName
  blockIf (next ≠ none) "receipt_head_transaction_missing"
  let staged ← D.readOptionalControlFile headNextStagedName
  blockIf (staged ≠ none) "receipt_head_transaction_missing"
  blockIf (∃ e ∈ D.entries, isStagedReceiptName e.1) "receipt_head_transaction_missing"

end Directory

/-! ## The head -/

/-- The schema of a head. -/
def headSchema : Text := text "subgen.task12.publication-journal-head/v1"

/-- `_decode_head`, of an object. -/
def decodeHead (items : List (Text × Json)) : Except LoadError (ℕ × Text) := do
  blockIf (¬ hasKeys items [text "schema", text "receipt_sequence", text "receipt_sha256"])
    "receipt_head_schema_invalid"
  match textOf (Json.get items (text "schema")), positiveOf (Json.get items (text "receipt_sequence")),
      textOf (Json.get items (text "receipt_sha256")) with
  | some schema, some sequence, some sha256 =>
    if schema = headSchema ∧ isSha256 sha256 then return (sequence, sha256)
    else throw (.blocked "receipt_head_schema_invalid")
  | _, _, _ => throw (.blocked "receipt_head_schema_invalid")

namespace Interpreter

variable (I : Interpreter) (digest : List ℕ → Text)

/-- `_read_head`, with the members that `_decode_head` gives. -/
def readHead (D : Directory) : Except LoadError (Option (ℕ × Text)) := do
  match ← D.readOptionalControlFile headName with
  | none => return none
  | some payload =>
    let items ← I.canonicalObject "receipt_head" payload
    return some (← decodeHead items)

/-! ## The chain -/

/-- The checkpoint of a receipt. -/
def decodeReceipt (payload : List ℕ) : Except LoadError PublicationCheckpoint := do
  let items ← I.canonicalObject "receipt" payload
  PublicationCheckpoint.decode digest items

/-- The digest of a record. -/
def recordDigest (r : Receipt) : Text := digest r.2

/-- The checkpoint begins a run, or belongs to that of the first record. -/
def validateRun (first : Option Receipt) (c : PublicationCheckpoint) : Except LoadError Unit :=
  match first with
  | none => validateInitialCheckpoint c
  | some r => blockIf (¬ I.sameRun c r.1) "receipt_run_identity_changed"

/-- The checkpoint may follow the last record. -/
def validateStep (last : Option Receipt) (c : PublicationCheckpoint) : Except LoadError Unit :=
  match last with
  | none => .ok ()
  | some r => I.validateCheckpointTransition r.1 c

/-- A step of `_load_record_chain`. -/
def nextRecord (records : List Receipt) (f : Inode) : Except LoadError Receipt := do
  let payload ← readReceipt f
  let c ← I.decodeReceipt digest payload
  blockIf (c.receiptSequence ≠ records.length + 1 ∨
      c.previousReceiptSha256 ≠ lastDigest (recordDigest digest) records) "receipt_chain_invalid"
  I.validateRun records.head? c
  I.validateStep records.getLast? c
  return (c, payload)

/-- `_load_record_chain`, behind records that are loaded. -/
def loadRecordChain : List Receipt → List Inode → Except LoadError (List Receipt)
  | records, [] => .ok records
  | records, f :: files => do
    let r ← I.nextRecord digest records f
    loadRecordChain (records ++ [r]) files

/-- `_validate_records_head`. -/
def validateRecordsHead (records : List Receipt) (head : Option (ℕ × Text)) : Except LoadError Unit :=
  match lastDigest (recordDigest digest) records, head with
  | none, none => .ok ()
  | none, some _ => .error (.blocked "receipt_head_state_invalid")
  | some _, none => .error (.blocked "receipt_head_missing")
  | some sha256, some (sequence, headSha256) =>
    blockIf (sequence ≠ records.length ∨ headSha256 ≠ sha256) "receipt_head_mismatch"

/-- `_load_all`, where there is no transaction. -/
def loadAll (D : Directory) : Except LoadError (List Receipt) := do
  D.recoverTransaction
  let paths ← D.receiptPaths
  let records ← I.loadRecordChain digest [] (paths.map Prod.snd)
  let head ← I.readHead D
  validateRecordsHead digest records head
  return records

/-! ## What is raised -/

/-- A receipt for which something else than `PublicationBlocked` is raised: a text that the interpreter
    refuses, or a document with a probe whose stage is no scalar. -/
def Unforeseen (payload : List ℕ) : Prop :=
  (¬ (payload = [] ∨ [0xef, 0xbb, 0xbf] <+: payload ∨ 13 ∈ payload) ∧
      ∃ t, decodeUtf8 payload = some t ∧ I.refuses t = true) ∨
    ∃ items, I.canonicalObject "receipt" payload = .ok items ∧ UnforeseenStage items

variable {I digest}

theorem strictJsonObject_eq_uncaught {label : String} {payload : List ℕ} :
    I.strictJsonObject label payload = .error .uncaught ↔
      ¬ (payload = [] ∨ [0xef, 0xbb, 0xbf] <+: payload ∨ 13 ∈ payload) ∧
        ∃ t, decodeUtf8 payload = some t ∧ I.refuses t = true := by
  rw [strictJsonObject]
  split
  · simp [*]
  rename_i hencoding
  rw [and_iff_right hencoding]
  cases decodeUtf8 payload with
  | none => simp
  | some t =>
    cases hrefuses : I.refuses t
    · simp only [Bool.false_eq_true, if_false, Option.some.injEq, exists_eq_left', hrefuses, iff_false]
      split <;> simp
    · simp [hrefuses]

theorem canonicalObject_eq_uncaught {label : String} {payload : List ℕ} :
    I.canonicalObject label payload = .error .uncaught ↔
      I.strictJsonObject label payload = .error .uncaught := by
  simp only [canonicalObject, bind_eq_error, canonicalJsonBytes_ne_uncaught, false_or, or_iff_left_iff_imp]
  rintro ⟨items, -, canonical, -, h⟩
  split at h <;> cases h

theorem decodeReceipt_eq_uncaught {payload : List ℕ} :
    I.decodeReceipt digest payload = .error .uncaught ↔ I.Unforeseen payload := by
  simp [decodeReceipt, Unforeseen, bind_eq_error, canonicalObject_eq_uncaught,
    strictJsonObject_eq_uncaught, decode_eq_uncaught]

theorem validateRun_ne_uncaught (first : Option Receipt) (c : PublicationCheckpoint) :
    I.validateRun first c ≠ .error .uncaught := by
  cases first with
  | none => exact validateInitialCheckpoint_ne_uncaught c
  | some r => exact blockIf_ne_uncaught

theorem validateStep_ne_uncaught (last : Option Receipt) (c : PublicationCheckpoint) :
    I.validateStep last c ≠ .error .uncaught := by
  cases last with
  | none => simp [validateStep]
  | some r => exact validateCheckpointTransition_ne_uncaught I r.1 c

theorem readOwnerFile_ne_uncaught {invalidCode aliasCode : String} (f : Inode) :
    readOwnerFile invalidCode aliasCode f ≠ .error .uncaught := by
  simp [readOwnerFile, bind_eq_error, map_eq_error]

theorem nextRecord_eq_uncaught {records : List Receipt} {f : Inode} :
    I.nextRecord digest records f = .error .uncaught ↔
      ∃ payload, readReceipt f = .ok payload ∧ I.Unforeseen payload := by
  simp [nextRecord, bind_eq_error, map_eq_error, readReceipt, readOwnerFile_ne_uncaught,
    decodeReceipt_eq_uncaught, validateRun_ne_uncaught, validateStep_ne_uncaught]

/-- Something else is raised exactly at the first receipt that is unforeseen. -/
theorem loadRecordChain_eq_uncaught {records : List Receipt} {files : List Inode} :
    I.loadRecordChain digest records files = .error .uncaught ↔
      ∃ before f after records' payload, files = before ++ f :: after ∧
        I.loadRecordChain digest records before = .ok records' ∧ readReceipt f = .ok payload ∧
          I.Unforeseen payload := by
  induction files generalizing records with
  | nil => simp [loadRecordChain]
  | cons f files ih =>
    rw [loadRecordChain, bind_eq_error, nextRecord_eq_uncaught]
    constructor
    · rintro (⟨payload, hread, hpayload⟩ | ⟨r, hr, h⟩)
      · exact ⟨[], f, files, records, payload, rfl, rfl, hread, hpayload⟩
      · obtain ⟨before, g, after, records', payload, rfl, hload, h⟩ := ih.1 h
        refine ⟨f :: before, g, after, records', payload, rfl, ?_, h⟩
        rw [loadRecordChain, bind_eq_ok]
        exact ⟨r, hr, hload⟩
    · rintro ⟨before, g, after, records', payload, hfiles, hload, hread, hpayload⟩
      cases before with
      | nil =>
        obtain ⟨rfl, -⟩ := List.cons_eq_cons.1 hfiles
        exact .inl ⟨payload, hread, hpayload⟩
      | cons f' before =>
        obtain ⟨rfl, hrest⟩ := List.cons_eq_cons.1 hfiles
        rw [loadRecordChain, bind_eq_ok] at hload
        obtain ⟨r, hr, hload⟩ := hload
        exact .inr ⟨r, hr, ih.2 ⟨before, g, after, records', payload, hrest, hload, hread, hpayload⟩⟩

/-! ## What is loaded -/

/-- Records that are linked, with the receipts that they were read from. -/
structure Loaded (I : Interpreter) (digest : List ℕ → Text) (files : List Inode) (records : List Receipt) :
    Prop where
  linked : Linked (recordDigest digest) (fun r => r.1.previousReceiptSha256) records
  decoded : ∀ r ∈ records, I.decodeReceipt digest r.2 = .ok r.1
  contents : records.map Prod.snd = files.map Inode.content

theorem Loaded.nil : Loaded I digest [] [] := ⟨.nil, fun _ h => absurd h List.not_mem_nil, rfl⟩

/-- What a receipt adds. -/
theorem Loaded.snoc {files : List Inode} {records : List Receipt} {f : Inode} {r : Receipt}
    (h : Loaded I digest files records) (hr : I.nextRecord digest records f = .ok r) :
    Loaded I digest (files ++ [f]) (records ++ [r]) := by
  simp only [nextRecord, bind_eq_ok, blockIf_eq_ok] at hr
  obtain ⟨payload, hread, c, hdecode, -, hchain, -, -, -, -, heq⟩ := hr
  cases heq
  have hcontent : payload = f.content := by
    simp only [readReceipt, readOwnerFile, bind_eq_ok] at hread
    obtain ⟨-, -, -, -, heq⟩ := hread
    exact (Except.ok.inj heq).symm
  rw [not_or, not_not, not_not] at hchain
  refine ⟨h.linked.snoc hchain.2, fun r hr => ?_, by simp [h.contents, hcontent]⟩
  rcases List.mem_append.1 hr with hr | hr
  · exact h.decoded r hr
  · rwa [List.mem_singleton.1 hr]

theorem Loaded.of_loadRecordChain {before files : List Inode} {records records' : List Receipt}
    (h : Loaded I digest before records) (hload : I.loadRecordChain digest records files = .ok records') :
    Loaded I digest (before ++ files) records' := by
  induction files generalizing before records with
  | nil =>
    cases hload
    rwa [List.append_nil]
  | cons f files ih =>
    rw [loadRecordChain, bind_eq_ok] at hload
    obtain ⟨r, hr, hload⟩ := hload
    rw [List.append_cons]
    exact ih (h.snoc hr) hload

/-! ## Tampering -/

theorem recoverTransaction_settled {D : Directory} (h : D.Settled) : D.recoverTransaction = .ok () := by
  obtain ⟨-, -, hnext, hstaged, hreceipts⟩ := h
  have hnone : ¬ ∃ e ∈ D.entries, isStagedReceiptName e.1 = true := by
    rintro ⟨e, he, hname⟩
    exact absurd hname (by simp [hreceipts e he])
  simp only [Directory.recoverTransaction, Directory.readOptionalControlFile, hnext, hstaged, blockIf]
  rw [if_neg hnone]
  rfl

theorem receiptPaths_ne_uncaught (D : Directory) : D.receiptPaths ≠ .error .uncaught := by
  simp [Directory.receiptPaths, bind_eq_error, map_eq_error]

/-- The files of the receipts are files of the directory. -/
theorem mem_of_receiptPaths {D : Directory} {paths : List (Text × Inode)} (h : D.receiptPaths = .ok paths) :
    ∀ e ∈ paths, e ∈ D.entries ∧ isReceiptName e.1 = true := by
  simp only [Directory.receiptPaths, bind_eq_ok] at h
  obtain ⟨-, -, -, -, heq⟩ := h
  cases heq
  intro e he
  simpa using he

/-- A loaded record is a receipt of the directory. -/
theorem Loaded.exists_receipt {D : Directory} {paths : List (Text × Inode)} {records : List Receipt}
    (h : Loaded I digest (paths.map Prod.snd) records) (hpaths : D.receiptPaths = .ok paths) {r : Receipt}
    (hr : r ∈ records) : ∃ e ∈ D.entries, isReceiptName e.1 = true ∧ e.2.content = r.2 := by
  have hmem : r.2 ∈ (paths.map Prod.snd).map Inode.content := h.contents ▸ List.mem_map_of_mem hr
  rw [List.map_map, List.mem_map] at hmem
  obtain ⟨e, he, hcontent⟩ := hmem
  exact ⟨e, (mem_of_receiptPaths hpaths e he).1, (mem_of_receiptPaths hpaths e he).2, hcontent⟩

/-- A receipt that is reached, and for which something else than `PublicationBlocked` is raised. -/
def MeetsUnforeseen (I : Interpreter) (digest : List ℕ → Text) (D : Directory) : Prop :=
  ∃ paths before f after records payload, D.receiptPaths = .ok paths ∧
    paths.map Prod.snd = before ++ f :: after ∧ I.loadRecordChain digest [] before = .ok records ∧
      readReceipt f = .ok payload ∧ I.Unforeseen payload

theorem loadAll_eq_ok {D : Directory} {records : List Receipt} (h : I.loadAll digest D = .ok records) :
    ∃ paths head, D.receiptPaths = .ok paths ∧ Loaded I digest (paths.map Prod.snd) records ∧
      I.readHead D = .ok head ∧ validateRecordsHead digest records head = .ok () := by
  simp only [loadAll, bind_eq_ok] at h
  obtain ⟨-, -, paths, hpaths, records', hload, head, hhead, _, hvalidate, heq⟩ := h
  cases heq
  exact ⟨paths, head, hpaths, Loaded.nil.of_loadRecordChain hload, hhead, hvalidate⟩

/-- The head names the digest of the newest record. -/
theorem lastDigest_of_validateRecordsHead {records : List Receipt} {head : Option (ℕ × Text)}
    (h : validateRecordsHead digest records head = .ok ()) :
    lastDigest (recordDigest digest) records = head.map Prod.snd := by
  unfold validateRecordsHead at h
  split at h
  · simpa using ‹lastDigest _ _ = none›
  · cases h
  · cases h
  · rw [blockIf_eq_ok, not_or, not_not, not_not] at h
    simpa [h.2] using ‹lastDigest _ _ = some _›

theorem validateRecordsHead_ne_uncaught (records : List Receipt) (head : Option (ℕ × Text)) :
    validateRecordsHead digest records head ≠ .error .uncaught := by
  unfold validateRecordsHead
  split <;> simp

/-- Every change to the receipts behind the back of the head is noticed: the directory is refused, or it
    has the receipts that it had, unless a receipt is reached that is unforeseen. -/
theorem tampering_detected {D D' : Directory} {records : List Receipt} (hsettled' : D'.Settled)
    (hload : I.loadAll digest D = .ok records)
    (hhead : D'.entries.lookup headName = D.entries.lookup headName)
    (hinj : ∀ e ∈ D.entries, ∀ e' ∈ D'.entries, isReceiptName e.1 → isReceiptName e'.1 →
      digest e.2.content = digest e'.2.content → e.2.content = e'.2.content) :
    ((∃ e, I.loadAll digest D' = .error e ∧ e.isBlocked = true) ∨
        ∃ records', I.loadAll digest D' = .ok records' ∧ records'.map Prod.snd = records.map Prod.snd) ↔
      ¬ MeetsUnforeseen I digest D' := by
  obtain ⟨paths, head, hpaths, hloaded, hread, hvalidate⟩ := loadAll_eq_ok hload
  have hread' : I.readHead D' = .ok head := by
    rw [← hread, readHead, readHead, Directory.readOptionalControlFile, hhead,
      Directory.readOptionalControlFile]
  -- Whatever is loaded has the same newest digest, and is the same chain.
  have hsame : ∀ records', I.loadAll digest D' = .ok records' → records' = records := by
    intro records' hload'
    obtain ⟨paths', head', hpaths', hloaded', hread'', hvalidate'⟩ := loadAll_eq_ok hload'
    obtain rfl : head' = head := Except.ok.inj (hread''.symm.trans hread')
    refine hloaded'.linked.unique hloaded.linked (fun r' hr' r hr hdigest => ?_)
      ((lastDigest_of_validateRecordsHead hvalidate').trans (lastDigest_of_validateRecordsHead hvalidate).symm)
    obtain ⟨e', he', hname', hcontent'⟩ := hloaded'.exists_receipt hpaths' hr'
    obtain ⟨e, he, hname, hcontent⟩ := hloaded.exists_receipt hpaths hr
    have hpayload : r.2 = r'.2 := by
      rw [← hcontent, ← hcontent']
      refine hinj e he e' he' hname hname' ?_
      rw [hcontent, hcontent']
      exact hdigest.symm
    have hcheckpoint : r.1 = r'.1 := by
      have hdecoded := hloaded.decoded r hr
      rw [hpayload, hloaded'.decoded r' hr'] at hdecoded
      exact (Except.ok.inj hdecoded).symm
    exact Prod.ext hcheckpoint.symm hpayload.symm
  -- So the only other outcome is an exception of another kind.
  have huncaught : I.loadAll digest D' = .error .uncaught ↔ MeetsUnforeseen I digest D' := by
    simp only [loadAll, bind_eq_error, recoverTransaction_settled hsettled', receiptPaths_ne_uncaught,
      loadRecordChain_eq_uncaught, hread', validateRecordsHead_ne_uncaught]
    simp only [reduceCtorEq, false_or, true_and, Except.ok.injEq, exists_const]
    constructor
    · rintro ⟨paths, hpaths, ⟨before, f, after, records', payload, h⟩ | ⟨_, -, _, rfl, _, -, h⟩⟩
      · exact ⟨paths, before, f, after, records', payload, hpaths, h⟩
      · cases h
    · rintro ⟨paths, before, f, after, records', payload, hpaths, h⟩
      exact ⟨paths, hpaths, .inl ⟨before, f, after, records', payload, h⟩⟩
  rw [← huncaught]
  cases hresult : I.loadAll digest D' with
  | ok records' => simp [hsame records' hresult]
  | error e => cases e <;> simp [LoadError.isBlocked]

end Interpreter

/-! ## A stage that is a list -/

namespace StageList

/-- An interpreter, on texts without fractions. -/
def interpreter : Interpreter where
  floats := ⟨fun t => if t = text "1.0" then some t else none, reads_one⟩
  floatValue _ := 1
  refuses _ := false

/-- SHA-256 of the baseline. -/
def baselineSha256 : Text := text "6db5fed15bc1ea44497f83267f80bbc68c9d9de0fc45c05e550d9c1a3b333239"

/-- The first receipt of a run, with a probe. -/
def receipt (probe : Json) : List ℕ :=
  (Json.object
    [(text "schema", .str checkpointSchema), (text "intent_sha256", .str (List.replicate 64 48)),
     (text "run_token", .str (List.replicate 64 49)),
     (text "actions_baseline",
       .object [(text "run_ids", .array []), (text "sha256", .str baselineSha256)]),
     (text "lock_document_sha256", .str (List.replicate 64 50)),
     (text "phase", .str (text "prepared")), (text "lock_object_sha", .null),
     (text "lock_acquired", .bool false), (text "lock_removed", .bool false),
     (text "completed_writes", .array []), (text "anonymous_smoke_sha256", .null),
     (text "version_create_probe", probe), (text "latest_cas_probe", .null),
     (text "latest_write_attempted", .bool false), (text "blob_upload_urls", .object []),
     (text "failure_code", .null), (text "receipt_sequence", .int 1),
     (text "previous_receipt_sha256", .null)]).dumps.getD [] ++ [10]

/-- A probe whose stage is a list. -/
def probe : Json :=
  .object
    [(text "kind", .str (text "create")), (text "token", .str (List.replicate 64 51)),
     (text "reference", .str (text "probe")), (text "stage", .array []), (text "prior_etag", .null),
     (text "winner_etag", .null), (text "verification_sha256", .null)]

/-- SHA-256 of the receipt. -/
def receiptSha256 : Text := text "ec9d97ab62ccb1a4bc03f298613b5c5573900ac8d9c7c360acee908562342cfd"

/-- SHA-256, of the baseline and of the two receipts, by their lengths. -/
def digest (payload : List ℕ) : Text :=
  if payload.length = 729 then receiptSha256
  else if payload.length = 912 then
    text "87587dc96b2ac85b9a79914b65c996c952bb0691d8777953e1a4f4ea02923429"
  else baselineSha256

/-- The head of the journal with this receipt. -/
def head : List ℕ :=
  (Json.object
    [(text "schema", .str headSchema), (text "receipt_sequence", .int 1),
     (text "receipt_sha256", .str receiptSha256)]).dumps.getD [] ++ [10]

/-- A regular file of the owner with this content. -/
def file (content : List ℕ) : Inode := ⟨true, 1, true, true, true, content⟩

/-- The journal of a run with one receipt. -/
def journal (content : List ℕ) : Directory where
  entries := [(headName, file head), (receiptName 1, file content)]
  nodup := show [headName, receiptName 1].Nodup by decide +kernel

theorem settled (content : List ℕ) : (journal content).Settled := by
  refine ⟨rfl, rfl, rfl, rfl, fun e he => ?_⟩
  rcases List.mem_cons.1 he with rfl | he
  · rfl
  · rw [List.mem_singleton.1 he]
    rfl

theorem lookup_headName (content : List ℕ) :
    (journal content).entries.lookup headName = some (file head) :=
  List.lookup_cons_self

/-- Whether something else than `PublicationBlocked` is raised. -/
def escapes {α : Type} : Except LoadError α → Bool
  | .ok _ => false
  | .error e => !e.isBlocked

theorem eq_uncaught {α : Type} {x : Except LoadError α} (h : escapes x = true) : x = .error .uncaught := by
  rcases x with (_ | _ | _) | a
  · cases h
  · cases h
  · rfl
  · cases h

theorem length_loaded :
    (interpreter.loadAll digest (journal (receipt .null))).toOption.map List.length = some 1 := by
  decide +kernel

theorem exists_loaded : ∃ records, interpreter.loadAll digest (journal (receipt .null)) = .ok records ∧
    records ≠ [] := by
  have hlength := length_loaded
  cases hload : interpreter.loadAll digest (journal (receipt .null)) with
  | error e => simp [hload, Except.toOption] at hlength
  | ok records =>
    refine ⟨records, rfl, fun hnil => ?_⟩
    simp [hload, hnil, Except.toOption] at hlength

theorem uncaught : interpreter.loadAll digest (journal (receipt probe)) = .error .uncaught :=
  eq_uncaught (by decide +kernel)

theorem distinct : digest (receipt .null) ≠ digest (receipt probe) := by decide +kernel

/-- The digests of the two receipts are distinct, so that no two receipts have the same one. -/
theorem content_eq : ∀ e ∈ (journal (receipt .null)).entries, ∀ e' ∈ (journal (receipt probe)).entries,
    isReceiptName e.1 → isReceiptName e'.1 → digest e.2.content = digest e'.2.content →
      e.2.content = e'.2.content := by
  have hhead : isReceiptName headName = false := by decide +kernel
  intro e he e' he' hname hname' hdigest
  simp only [journal, List.mem_cons, List.not_mem_nil, or_false] at he he'
  rcases he with rfl | rfl
  · rw [hhead] at hname
    cases hname
  rcases he' with rfl | rfl
  · rw [hhead] at hname'
    cases hname'
  exact absurd hdigest distinct

end StageList

open StageList in
/-- A receipt that is replaced by one with a probe whose stage is a list raises a `TypeError`. -/
theorem tampering_uncaught :
    ∃ records, interpreter.loadAll digest (journal (receipt .null)) = .ok records ∧ records ≠ [] ∧
      (journal (receipt .null)).Settled ∧ (journal (receipt probe)).Settled ∧
        (journal (receipt probe)).entries.lookup headName =
          (journal (receipt .null)).entries.lookup headName ∧
        (∀ e ∈ (journal (receipt .null)).entries, ∀ e' ∈ (journal (receipt probe)).entries,
          isReceiptName e.1 → isReceiptName e'.1 → digest e.2.content = digest e'.2.content →
            e.2.content = e'.2.content) ∧
        ¬ ((∃ e, interpreter.loadAll digest (journal (receipt probe)) = .error e ∧ e.isBlocked = true) ∨
          ∃ records', interpreter.loadAll digest (journal (receipt probe)) = .ok records' ∧
            records'.map Prod.snd = records.map Prod.snd) := by
  obtain ⟨records, hload, hne⟩ := exists_loaded
  refine ⟨records, hload, hne, settled _, settled _, ?_, content_eq, ?_⟩
  · rw [lookup_headName, lookup_headName]
  rw [uncaught]
  rintro (⟨e, he, hblocked⟩ | ⟨records', hrecords, -⟩)
  · cases he
    cases hblocked
  · cases hrecords

open StageList in
theorem tampering_detected_stage_list :
    ∃ records, interpreter.loadAll digest (journal (receipt .null)) = .ok records ∧
      (((∃ e, interpreter.loadAll digest (journal (receipt probe)) = .error e ∧ e.isBlocked = true) ∨
          ∃ records', interpreter.loadAll digest (journal (receipt probe)) = .ok records' ∧
            records'.map Prod.snd = records.map Prod.snd) ↔
        ¬ Interpreter.MeetsUnforeseen interpreter digest (journal (receipt probe))) := by
  obtain ⟨records, hload, -⟩ := exists_loaded
  exact ⟨records, hload, Interpreter.tampering_detected (settled _) hload
    ((lookup_headName _).trans (lookup_headName _).symm) content_eq⟩

end Subgen

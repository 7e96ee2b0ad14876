import Subgen.Lib.JsonTexts
import Subgen.Publication.ReceiptJournal

/-!
# The snapshots of checkpoints

What is written canonically is read back as the same document with its keys sorted
(`canonicalObject_payload`). So a checkpoint is read back of its receipt as it was, but for the order of
its uploads (`decodeDocument_snapshot`).

The writer does not check what it writes: it takes the checkpoint as it stands, and the reader refuses what a
run cannot have left there. A checkpoint that is read back is therefore one whose values pass the checks of the
reader (`Recordable`): its two probes are receipts that pass their own checks, its baseline has the digest
of its own runs, the runs are positive and ascending, its uploads have distinct keys, and every text can be
encoded. The lemmas here follow the fields of the document: for each kind of field there is one that it can
be written, and one that it is the same when it is read. What is sorted on the way are the keys of the
document and those of the uploads.

* `Recordable`: the checkpoints that a later load reads back;
* `decodeDocument_snapshot`: the document of one of them, with its keys sorted;
* `receipt_readBack`: the bytes of its receipt.
-/

namespace Subgen

open Json Procedure

/-- The canonical payload of a document. -/
def canonicalPayload (v : Json) : List ℕ := v.sortKeys.print ++ [10]

/-- The members of an object, with all keys sorted. -/
def sortedItems (items : List (Text × Json)) : List (Text × Json) := sortItems (sortMembers items)

/-- What can be written is written as the canonical payload. -/
theorem canonicalJsonBytes_writable {v : Json} (h : v.Writable) :
    canonicalJsonBytes v = .ok (canonicalPayload v) := by
  rw [canonicalJsonBytes, h.dumps]
  rfl

/-- The payload is the same whether the keys are sorted before or not. -/
theorem canonicalPayload_sortKeys (v : Json) : canonicalPayload v.sortKeys = canonicalPayload v := by
  rw [canonicalPayload, sortKeys_sortKeys, canonicalPayload]

/-- A payload is never empty. -/
theorem canonicalPayload_ne_nil (v : Json) : canonicalPayload v ≠ [] := by
  rw [canonicalPayload]
  exact List.append_ne_nil_of_right_ne_nil _ (List.cons_ne_nil _ _)

/-- A value with sorted keys is written as the same payload. -/
theorem canonicalJsonBytes_sortKeys {v : Json} (h : v.Writable) :
    canonicalJsonBytes v.sortKeys = .ok (canonicalPayload v) := by
  rw [canonicalJsonBytes_writable (Writable.sortKeys v h), canonicalPayload_sortKeys]

/-- A payload has printable characters of ASCII, and the newline at its end. -/
theorem mem_canonicalPayload {v : Json} (h : v.Writable) :
    ∀ c ∈ canonicalPayload v, c = 10 ∨ 32 ≤ c ∧ c ≤ 126 := by
  intro c hc
  rcases List.mem_append.1 hc with hc | hc
  · exact .inr (printable_print _ (Writable.sortKeys v h).readable c hc)
  · exact .inl (List.mem_singleton.1 hc)

namespace Interpreter

variable {I : Interpreter} {label : String} {items : List (Text × Json)}

/-- What is written canonically is read back. -/
theorem canonicalObject_payload (h : (Json.object items).Writable)
    (hreads : I.refuses (canonicalPayload (.object items)) = false) :
    I.canonicalObject label (canonicalPayload (.object items)) = .ok (sortedItems items) := by
  have hsorted := Writable.sortKeys _ h
  have hchars := mem_canonicalPayload h
  have hencoding : ¬ (canonicalPayload (.object items) = [] ∨
      [0xef, 0xbb, 0xbf] <+: canonicalPayload (.object items) ∨ 13 ∈ canonicalPayload (.object items)) := by
    rintro (hnil | hbegins | hmem)
    · exact canonicalPayload_ne_nil _ hnil
    · have := hchars 0xef (hbegins.subset List.mem_cons_self)
      omega
    · have := hchars 13 hmem
      omega
  have hdecode : decodeUtf8 (canonicalPayload (.object items)) = some (canonicalPayload (.object items)) := by
    refine decodeUtf8_ascii fun c hc => ?_
    have := hchars c hc
    omega
  have hload : Json.loads I.floats (canonicalPayload (.object items)) = some (.object (sortedItems items)) := by
    have hread := readText_print (t := [10]) (R := I.floats.strict) hsorted.readable (by simp [isSpace])
    rwa [norm_eq_self _ hsorted.encodable] at hread
  have hstrict : I.strictJsonObject label (canonicalPayload (.object items)) = .ok (sortedItems items) := by
    rw [strictJsonObject, if_neg hencoding, hdecode]
    simp only [hreads, Bool.false_eq_true, if_false, hload]
  rw [canonicalObject, hstrict]
  exact bind_eq_ok.2 ⟨_, rfl, bind_eq_ok.2 ⟨_, canonicalJsonBytes_sortKeys h, if_pos rfl⟩⟩

/-- A member is found among the sorted ones, with its own keys sorted. -/
theorem get_sortedItems (items : List (Text × Json)) (hnodup : (items.map Prod.fst).Nodup) (k : Text) :
    Json.get (sortedItems items) k = (Json.get items k).sortKeys := by
  rw [sortedItems, get_sortItems _ k, get_sortMembers]
  rwa [map_fst_sortMembers]

/-- The sorted members have the keys that are expected, if the members have. -/
theorem hasKeys_sortedItems {keys : List Text} (h : (items.map Prod.fst).Perm keys) :
    hasKeys (sortedItems items) keys = true := by
  rw [hasKeys, List.isPerm_iff, sortedItems]
  exact ((sortItems_perm _).map _).trans (by rwa [map_fst_sortMembers])

end Interpreter

/-! ## Fields -/

/-- A text of ASCII can be written. -/
theorem encodable_text {t : Text} (h : ∀ c ∈ t, c ≤ 126) : (Json.str t).Writable := writable_str (encodable_ascii h)

/-- A digest can be written. -/
theorem writable_sha256 {t : Text} (h : isSha256 t = true) : (Json.str t).Writable := by
  rw [isSha256, Bool.and_eq_true] at h
  refine encodable_text fun c hc => ?_
  have hdigit := List.all_eq_true.1 h.2 c hc
  simp only [isHexDigit, isDigit, Bool.or_eq_true, Bool.and_eq_true, decide_eq_true_eq] at hdigit
  omega

/-- A field that is a string, or missing. -/
def IsText (v : Json) : Prop := v = .null ∨ ∃ s, v = .str s ∧ Encodable s

/-- A text or a null can be written. -/
theorem IsText.writable {v : Json} (h : IsText v) : v.Writable := by
  rcases h with rfl | ⟨s, rfl, hs⟩
  · exact ⟨trivial, fun _ hs => absurd hs List.not_mem_nil⟩
  · exact writable_str hs

/-- There are no keys in it. -/
theorem IsText.sortKeys {v : Json} (h : IsText v) : v.sortKeys = v := by
  rcases h with rfl | ⟨s, rfl, _⟩ <;> rfl

/-- A list of texts is read back from its document. -/
theorem textsOf_array (l : List Text) : textsOf (Json.array (l.map .str)).sortKeys = some l := by
  change (sortElements (l.map .str)).mapM textOf = some l
  rw [sortElements_eq, List.map_map]
  induction l with
  | nil => rfl
  | cons s l ih =>
    rw [List.map_cons, List.mapM_cons, ih]
    rfl

/-- A list of positive numbers is read back from its document. -/
theorem positivesOf_array {l : List ℕ} (h : ∀ n ∈ l, 0 < n) :
    (sortElements (l.map fun n : ℕ => Json.int n)).mapM positiveOf = some l := by
  rw [sortElements_eq, List.map_map]
  induction l with
  | nil => rfl
  | cons n l ih =>
    obtain ⟨hn, hl⟩ := List.forall_mem_cons.1 h
    obtain ⟨m, rfl⟩ : ∃ m, n = m + 1 := ⟨n - 1, by omega⟩
    rw [List.map_cons, List.mapM_cons, ih hl]
    rfl

/-- An object of strings. -/
def textMembers (l : List (Text × Text)) : List (Text × Json) := l.map fun item => (item.1, .str item.2)

/-- The uploads in the order in which they are written. -/
def sortUploads (l : List (Text × Text)) : List (Text × Text) := l.insertionSort fun a b => a.1 ≤ b.1

/-- The members of the uploads are sorted by their keys. -/
theorem sortItems_textMembers (l : List (Text × Text)) :
    sortItems (sortMembers (textMembers l)) = textMembers (sortUploads l) := by
  have hmembers : sortMembers (textMembers l) = textMembers l := by
    rw [sortMembers_eq, textMembers, List.map_map]
    rfl
  rw [hmembers, sortItems, textMembers, textMembers, sortUploads]
  exact (List.map_insertionSort (fun a b : Text × Text => a.1 ≤ b.1) (fun a b : Text × Json => a.1 ≤ b.1) _ _ fun _ _ _ _ => Iff.rfl).symm

/-- The uploads are read back in that order. -/
theorem textMembersOf_object (l : List (Text × Text)) :
    textMembersOf (Json.object (textMembers l)).sortKeys = some (sortUploads l) := by
  rw [Json.sortKeys, sortItems_textMembers]
  change (textMembers (sortUploads l)).mapM _ = some (sortUploads l)
  rw [textMembers]
  induction sortUploads l with
  | nil => rfl
  | cons item l ih =>
    rw [List.map_cons, List.mapM_cons, ih]
    rfl

/-! ## Probes -/

/-- A digest is encodable. -/
theorem encodable_sha256 {t : Text} (h : isSha256 t = true) : Encodable t :=
  (writable_sha256 h).encodable t (List.mem_singleton_self t)

/-- A reference of the registry is encodable. -/
theorem encodable_reference {t : Text} (h : isReference t = true) : Encodable t := by
  have hchar : ∀ {c}, isWordChar c = true → c ≤ 126 := by
    intro c hc
    simp only [isWordChar, isDigit, Bool.or_eq_true, Bool.and_eq_true, decide_eq_true_eq] at hc
    omega
  cases t with
  | nil => cases h
  | cons c t =>
    simp only [isReference, Bool.and_eq_true, List.all_eq_true, Bool.or_eq_true, decide_eq_true_eq] at h
    refine encodable_ascii (List.forall_mem_cons.2 ⟨hchar h.1.1, fun d hd => ?_⟩)
    rcases h.2 d hd with (hword | rfl) | rfl
    · exact hchar hword
    · decide
    · decide

/-- An entity tag is encodable. -/
theorem encodable_etag {t : Text} (h : isEtag t = true) : Encodable t := by
  simp only [isEtag, Bool.and_eq_true, decide_eq_true_eq, List.all_eq_true, Bool.or_eq_true] at h
  obtain ⟨⟨⟨_, hhead⟩, hlast⟩, hmiddle⟩ := h
  obtain ⟨t, rfl⟩ := List.head?_eq_some_iff.1 hhead
  refine encodable_cons (by decide) ?_
  rcases List.eq_nil_or_concat' t with rfl | ⟨u, d, rfl⟩
  · exact encodable_ascii fun c hc => absurd hc List.not_mem_nil
  · rw [← List.cons_append, List.getLast?_concat] at hlast
    obtain rfl := Option.some.inj hlast
    rw [List.tail_cons, List.dropLast_concat] at hmiddle
    refine encodable_ascii fun c hc => ?_
    rcases List.mem_append.1 hc with hc | hc
    · have := hmiddle c hc
      omega
    · rw [List.mem_singleton.1 hc]
      decide

/-- The keys of a probe are distinct. -/
theorem nodup_probeKeys : probeKeys.Nodup := by decide

/-- The members of a probe. -/
def probeItems (r : RegistryProbeReceipt) : List (Text × Json) :=
  [(text "kind", .str r.kind.name), (text "token", .str r.token), (text "reference", .str r.reference),
   (text "stage", .str r.stage), (text "prior_etag", r.priorEtag.elim .null .str),
   (text "winner_etag", r.winnerEtag.elim .null .str),
   (text "verification_sha256", r.verificationSha256.elim .null .str)]

/-- A text that may be missing is a text or a null. -/
theorem isText_optional {t : Option Text} (h : ∀ s, t = some s → Encodable s) : IsText (t.elim .null .str) := by
  cases t with
  | none => exact .inl rfl
  | some s => exact .inr ⟨s, rfl, h s rfl⟩

/-- The stages of a probe are encodable. -/
theorem encodable_stage {kind : ProbeKind} {stage : Text} (h : stage ∈ kind.stages) : Encodable stage := by
  have hascii : ∀ t ∈ kind.stages, ∀ c ∈ t, c ≤ 126 := by
    cases kind <;> decide
  exact encodable_ascii (hascii stage h)

/-- The names of the kinds are encodable. -/
theorem encodable_kind (kind : ProbeKind) : Encodable kind.name := by
  cases kind <;> exact encodable_ascii (by decide)

/-- A valid receipt of a probe can be written. -/
theorem writable_probeItems {r : RegistryProbeReceipt} (h : r.valid = true) : (Json.object (probeItems r)).Writable := by
  simp only [RegistryProbeReceipt.valid, Bool.and_eq_true, decide_eq_true_eq, Option.all_eq_true] at h
  obtain ⟨⟨⟨⟨⟨⟨⟨⟨htoken, hreference⟩, hstage⟩, hprior⟩, hwinner⟩, hverification⟩, _⟩, _⟩, _⟩ := h
  refine writable_object nodup_probeKeys ?_
  simp only [probeItems, List.forall_mem_cons, List.not_mem_nil, false_implies, implies_true, and_true]
  exact ⟨⟨encodable_ascii (by decide), writable_str (encodable_kind _)⟩,
    ⟨encodable_ascii (by decide), writable_sha256 htoken⟩,
    ⟨encodable_ascii (by decide), writable_str (encodable_reference hreference)⟩,
    ⟨encodable_ascii (by decide), writable_str (encodable_stage hstage)⟩,
    ⟨encodable_ascii (by decide), (isText_optional fun s hs => encodable_etag (hprior s hs)).writable⟩,
    ⟨encodable_ascii (by decide), (isText_optional fun s hs => encodable_etag (hwinner s hs)).writable⟩,
    ⟨encodable_ascii (by decide), (isText_optional fun s hs => encodable_sha256 (hverification s hs)).writable⟩⟩

/-- A text that may be missing is read back. -/
theorem optionalText_sortKeys (t : Option Text) : optionalText (t.elim .null .str : Json).sortKeys = some t := by
  cases t <;> rfl

/-- A probe is read back. -/
theorem decodeProbe_sortKeys {r : RegistryProbeReceipt} (h : r.valid = true) :
    decodeProbe (probeDocument (some r)).sortKeys r.kind = .ok (some r) := by
  have hkeys : hasKeys (sortedItems (probeItems r)) probeKeys = true :=
    Interpreter.hasKeys_sortedItems (List.Perm.refl _)
  have hget := Interpreter.get_sortedItems (probeItems r) nodup_probeKeys
  have hkind : Json.get (sortedItems (probeItems r)) (text "kind") = .str r.kind.name := hget _
  have htoken : Json.get (sortedItems (probeItems r)) (text "token") = .str r.token := hget _
  have hreference : Json.get (sortedItems (probeItems r)) (text "reference") = .str r.reference := hget _
  have hstage : Json.get (sortedItems (probeItems r)) (text "stage") = .str r.stage := hget _
  have hprior : optionalText (Json.get (sortedItems (probeItems r)) (text "prior_etag")) = some r.priorEtag :=
    (congrArg optionalText (hget _)).trans (optionalText_sortKeys r.priorEtag)
  have hwinner : optionalText (Json.get (sortedItems (probeItems r)) (text "winner_etag")) = some r.winnerEtag :=
    (congrArg optionalText (hget _)).trans (optionalText_sortKeys r.winnerEtag)
  have hverification : optionalText (Json.get (sortedItems (probeItems r)) (text "verification_sha256")) =
      some r.verificationSha256 :=
    (congrArg optionalText (hget _)).trans (optionalText_sortKeys r.verificationSha256)
  have hprobe : probeOf (sortedItems (probeItems r)) r.kind = some r := by
    simp only [probeOf, hkind, htoken, hreference, hstage, hprior, hwinner, hverification, if_true]
  change decodeProbe (.object (sortedItems (probeItems r))) r.kind = _
  simp only [decodeProbe, hkeys, hstage, hprobe, h, unhashable, Bool.not_true, Bool.false_eq_true, if_false, if_true]

/-- A probe of a kind, or none. -/
def IsProbe (kind : ProbeKind) (probe : Option RegistryProbeReceipt) : Prop :=
  ∀ r, probe = some r → r.kind = kind ∧ r.valid = true

/-- The document of a probe can be written, also of one that is missing. -/
theorem IsProbe.writable {kind : ProbeKind} {probe : Option RegistryProbeReceipt} (h : IsProbe kind probe) :
    (probeDocument probe).Writable := by
  cases probe with
  | none => exact ⟨trivial, fun _ hs => absurd hs List.not_mem_nil⟩
  | some r => exact writable_probeItems (h r rfl).2

/-- It is read back as the probe. -/
theorem IsProbe.decode {kind : ProbeKind} {probe : Option RegistryProbeReceipt} (h : IsProbe kind probe) :
    decodeProbe (probeDocument probe).sortKeys kind = .ok probe := by
  cases probe with
  | none => rfl
  | some r =>
    obtain ⟨rfl, hvalid⟩ := h r rfl
    exact decodeProbe_sortKeys hvalid

/-! ## Checkpoints -/

/-- The document whose digest a baseline has. -/
def baselineDocument (runIds : List ℕ) : Json :=
  .object
    [(text "schema", .str (text "subgen.task12.actions-baseline/v1")),
     (text "run_ids", .array (runIds.map fun n : ℕ => .int n))]

/-- A checkpoint of these types, with a baseline that has its digest. -/
structure PublicationCheckpoint.Recordable (digest : List ℕ → Text) (c : PublicationCheckpoint) : Prop where
  intentSha256 : IsText c.intentSha256
  runToken : IsText c.runToken
  lockDocumentSha256 : IsText c.lockDocumentSha256
  lockObjectSha : IsText c.lockObjectSha
  anonymousSmokeSha256 : IsText c.anonymousSmokeSha256
  failureCode : IsText c.failureCode
  phase : Encodable c.phase
  writes : ∀ t ∈ c.completedWrites, Encodable t
  runIds : c.runIds.Pairwise (· < ·)
  positive : ∀ n ∈ c.runIds, 0 < n
  baseline : c.baselineSha256 = digest (canonicalPayload (baselineDocument c.runIds))
  create : IsProbe .create c.versionCreateProbe
  cas : IsProbe .cas c.latestCasProbe
  nodup : (c.blobUploadUrls.map Prod.fst).Nodup
  uploads : ∀ upload ∈ c.blobUploadUrls, Encodable upload.1 ∧ Encodable upload.2

/-- The same checkpoint, as it is read: a dictionary is written in the order of its keys. -/
def PublicationCheckpoint.sorted (c : PublicationCheckpoint) : PublicationCheckpoint :=
  { c with blobUploadUrls := sortUploads c.blobUploadUrls }

/-- The members of the baseline of the actions. -/
def baselineItems (c : PublicationCheckpoint) : List (Text × Json) :=
  [(text "run_ids", .array (c.runIds.map fun n : ℕ => .int n)), (text "sha256", .str c.baselineSha256)]

/-- The two keys of the baseline are distinct. -/
theorem nodup_baselineKeys : [text "run_ids", text "sha256"].Nodup := by decide

/-- The members of a snapshot. -/
def snapshotItems (c : PublicationCheckpoint) : List (Text × Json) :=
  [(text "intent_sha256", c.intentSha256), (text "run_token", c.runToken),
   (text "actions_baseline", .object (baselineItems c)),
   (text "lock_document_sha256", c.lockDocumentSha256), (text "phase", .str c.phase),
   (text "lock_object_sha", c.lockObjectSha), (text "lock_acquired", .bool c.lockAcquired),
   (text "lock_removed", .bool c.lockRemoved),
   (text "completed_writes", .array (c.completedWrites.map .str)),
   (text "anonymous_smoke_sha256", c.anonymousSmokeSha256),
   (text "version_create_probe", probeDocument c.versionCreateProbe),
   (text "latest_cas_probe", probeDocument c.latestCasProbe),
   (text "latest_write_attempted", .bool c.latestWriteAttempted),
   (text "blob_upload_urls", .object (textMembers c.blobUploadUrls)),
   (text "failure_code", c.failureCode), (text "receipt_sequence", .int c.receiptSequence),
   (text "previous_receipt_sha256", c.previousReceiptSha256.elim .null .str),
   (text "schema", .str checkpointSchema)]

/-- The snapshot is the object of its members. -/
theorem snapshot_eq (c : PublicationCheckpoint) : c.snapshot = .object (snapshotItems c) := rfl

/-- The keys of a snapshot: those of a checkpoint, the schema last. -/
theorem map_fst_snapshotItems (c : PublicationCheckpoint) :
    (snapshotItems c).map Prod.fst = checkpointKeys.tail ++ [text "schema"] := rfl

/-- They are the keys that the reader expects. -/
theorem snapshotItems_perm (c : PublicationCheckpoint) : ((snapshotItems c).map Prod.fst).Perm checkpointKeys := by
  rw [map_fst_snapshotItems]
  exact List.perm_append_singleton _ _

/-- They are distinct. -/
theorem nodup_checkpointKeys : checkpointKeys.Nodup := by decide +kernel

/-- A truth value can be written. -/
theorem writable_bool (b : Bool) : (Json.bool b).Writable := ⟨trivial, fun _ hs => absurd hs List.not_mem_nil⟩

/-- The run ids can be written. -/
theorem writable_runIds (runIds : List ℕ) : (Json.array (runIds.map fun n : ℕ => .int n)).Writable := by
  refine writable_array fun v hv => ?_
  obtain ⟨n, _, rfl⟩ := List.mem_map.1 hv
  exact writable_int _

/-- So can the document that the digest of the baseline is taken of. -/
theorem writable_baselineDocument (runIds : List ℕ) : (baselineDocument runIds).Writable := by
  refine writable_object (show [text "schema", text "run_ids"].Nodup by decide) ?_
  simp only [List.forall_mem_cons, List.not_mem_nil, false_implies, implies_true, and_true]
  exact ⟨⟨encodable_ascii (by decide), encodable_text (by decide)⟩, ⟨encodable_ascii (by decide), writable_runIds _⟩⟩

/-- The keys of the uploads. -/
theorem map_fst_textMembers (l : List (Text × Text)) : (textMembers l).map Prod.fst = l.map Prod.fst := by
  rw [textMembers, List.map_map]
  rfl

section Checkpoints

variable {digest : List ℕ → Text} {c : PublicationCheckpoint}

/-- The snapshot of a recordable checkpoint can be written. -/
theorem writable_snapshot (hdigest : ∀ payload, isSha256 (digest payload) = true) (h : c.Recordable digest)
    (hprevious : ∀ s, c.previousReceiptSha256 = some s → isSha256 s = true) : c.snapshot.Writable := by
  have hkeys : ∀ k ∈ checkpointKeys, Encodable k := by
    have hascii : ∀ k ∈ checkpointKeys, ∀ d ∈ k, d ≤ 126 := by decide +kernel
    exact fun k hk => encodable_ascii (hascii k hk)
  have hvalues : ∀ v ∈ (snapshotItems c).map Prod.snd, v.Writable := by
    have hbaseline : (Json.object (baselineItems c)).Writable := by
      refine writable_object nodup_baselineKeys ?_
      simp only [baselineItems, List.forall_mem_cons, List.not_mem_nil, false_implies, implies_true, and_true]
      exact ⟨⟨encodable_ascii (by decide), writable_runIds _⟩,
        ⟨encodable_ascii (by decide), writable_sha256 (h.baseline ▸ hdigest _)⟩⟩
    have hwrites : (Json.array (c.completedWrites.map .str)).Writable := by
      refine writable_array fun v hv => ?_
      obtain ⟨t, ht, rfl⟩ := List.mem_map.1 hv
      exact writable_str (h.writes t ht)
    have huploads : (Json.object (textMembers c.blobUploadUrls)).Writable := by
      refine writable_object ((map_fst_textMembers _).symm ▸ h.nodup) fun item hitem => ?_
      obtain ⟨upload, hupload, rfl⟩ := List.mem_map.1 hitem
      exact ⟨(h.uploads upload hupload).1, writable_str (h.uploads upload hupload).2⟩
    simp only [snapshotItems, List.map_cons, List.map_nil, List.forall_mem_cons, List.not_mem_nil, false_implies,
      implies_true, and_true]
    exact ⟨h.intentSha256.writable, h.runToken.writable, hbaseline, h.lockDocumentSha256.writable,
      writable_str h.phase, h.lockObjectSha.writable, writable_bool _, writable_bool _, hwrites,
      h.anonymousSmokeSha256.writable, h.create.writable, h.cas.writable, writable_bool _, huploads,
      h.failureCode.writable, writable_int _,
      (isText_optional fun s hs => encodable_sha256 (hprevious s hs)).writable, encodable_text (by decide)⟩
  refine writable_object ((snapshotItems_perm c).nodup_iff.2 nodup_checkpointKeys) fun item hitem =>
    ⟨hkeys _ ((snapshotItems_perm c).subset (List.mem_map_of_mem hitem)), hvalues _ (List.mem_map_of_mem hitem)⟩

/-- The baseline is found in the document. -/
theorem baselineOf_sortKeys (c : PublicationCheckpoint) : baselineOf (Json.object (baselineItems c)).sortKeys =
    .ok (sortElements (c.runIds.map fun n : ℕ => .int n), .str c.baselineSha256) := by
  have hkeys : hasKeys (sortedItems (baselineItems c)) [text "run_ids", text "sha256"] = true :=
    Interpreter.hasKeys_sortedItems (List.Perm.refl _)
  have hget := Interpreter.get_sortedItems (baselineItems c) nodup_baselineKeys
  have hruns : Json.get (sortedItems (baselineItems c)) (text "run_ids") =
      .array (sortElements (c.runIds.map fun n : ℕ => .int n)) := hget _
  have hsha : Json.get (sortedItems (baselineItems c)) (text "sha256") = .str c.baselineSha256 := hget _
  change baselineOf (.object (sortedItems (baselineItems c))) = _
  simp only [baselineOf, hkeys, hruns, hsha, if_true]

/-- It passes its check, since it comes with its digest. -/
theorem validateBaseline_recordable (h : c.Recordable digest) :
    validateBaseline digest (sortElements (c.runIds.map fun n : ℕ => .int n)) (.str c.baselineSha256) =
      .ok (c.runIds, c.baselineSha256) := by
  have hsorted : c.runIds.insertionSort (· ≤ ·) = c.runIds :=
    (h.runIds.imp le_of_lt).insertionSort_eq
  rw [validateBaseline, positivesOf_array h.positive]
  refine bind_eq_ok.2 ⟨_, rfl, ?_⟩
  dsimp only
  rw [hsorted]
  refine bind_eq_ok.2 ⟨(), blockIf_eq_ok.2 (not_not.2 (h.runIds.imp ne_of_lt)), bind_eq_ok.2
    ⟨_, canonicalJsonBytes_writable (writable_baselineDocument c.runIds), bind_eq_ok.2 ⟨(), blockIf_eq_ok.2 ?_, ?_⟩⟩⟩
  · rw [h.baseline]
    exact not_or.2 ⟨not_not.2 rfl, not_not.2 rfl⟩
  · rw [h.baseline]
    rfl

/-- A positive number is read back. -/
theorem positiveOf_int {n : ℕ} (h : 0 < n) : positiveOf (.int n) = some n := by
  obtain ⟨m, rfl⟩ : ∃ m, n = m + 1 := ⟨n - 1, by omega⟩
  rfl

/-- A digest that may be missing is read back. -/
theorem optionalSha256_sortKeys {t : Option Text} (h : ∀ s, t = some s → isSha256 s = true) :
    optionalSha256 (t.elim .null .str : Json).sortKeys = some t := by
  rw [optionalSha256, optionalText_sortKeys]
  exact if_pos ((Option.all_eq_true _ _).2 h)

/-- A checkpoint is read back as it was, but for the order of its uploads. -/
theorem decodeDocument_snapshot (h : c.Recordable digest) (hpos : 0 < c.receiptSequence)
    (hprevious : ∀ s, c.previousReceiptSha256 = some s → isSha256 s = true) :
    Interpreter.decodeDocument digest c.snapshot.sortKeys = .ok c.sorted := by
  have hkeys : hasKeys (sortedItems (snapshotItems c)) checkpointKeys = true :=
    Interpreter.hasKeys_sortedItems (snapshotItems_perm c)
  have hnodup : ((snapshotItems c).map Prod.fst).Nodup := (snapshotItems_perm c).nodup_iff.2 nodup_checkpointKeys
  have hget := Interpreter.get_sortedItems _ hnodup
  -- The decoder asks for every member by its name, so that their order does not matter.
  have hcheckpoint : checkpointOf (sortedItems (snapshotItems c)) c.versionCreateProbe c.latestCasProbe =
      some fun runIds sha256 => { c.sorted with runIds := runIds, baselineSha256 := sha256 } := by
    have hphase : textOf (Json.get (sortedItems (snapshotItems c)) (text "phase")) = some c.phase :=
      congrArg textOf (hget _)
    have hacquired : boolOf (Json.get (sortedItems (snapshotItems c)) (text "lock_acquired")) = some c.lockAcquired :=
      congrArg boolOf (hget _)
    have hremoved : boolOf (Json.get (sortedItems (snapshotItems c)) (text "lock_removed")) = some c.lockRemoved :=
      congrArg boolOf (hget _)
    have hwrites : textsOf (Json.get (sortedItems (snapshotItems c)) (text "completed_writes")) =
        some c.completedWrites := (congrArg textsOf (hget _)).trans (textsOf_array _)
    have hattempted : boolOf (Json.get (sortedItems (snapshotItems c)) (text "latest_write_attempted")) =
        some c.latestWriteAttempted := congrArg boolOf (hget _)
    have huploads : textMembersOf (Json.get (sortedItems (snapshotItems c)) (text "blob_upload_urls")) =
        some (sortUploads c.blobUploadUrls) := (congrArg textMembersOf (hget _)).trans (textMembersOf_object _)
    have hsequence : positiveOf (Json.get (sortedItems (snapshotItems c)) (text "receipt_sequence")) =
        some c.receiptSequence := (congrArg positiveOf (hget _)).trans (positiveOf_int hpos)
    have hprevious : optionalSha256 (Json.get (sortedItems (snapshotItems c)) (text "previous_receipt_sha256")) =
        some c.previousReceiptSha256 := (congrArg optionalSha256 (hget _)).trans (optionalSha256_sortKeys hprevious)
    have hintent := (hget (text "intent_sha256")).trans h.intentSha256.sortKeys
    have htoken := (hget (text "run_token")).trans h.runToken.sortKeys
    have hlock := (hget (text "lock_document_sha256")).trans h.lockDocumentSha256.sortKeys
    have hobject := (hget (text "lock_object_sha")).trans h.lockObjectSha.sortKeys
    have hsmoke := (hget (text "anonymous_smoke_sha256")).trans h.anonymousSmokeSha256.sortKeys
    have hfailure := (hget (text "failure_code")).trans h.failureCode.sortKeys
    rw [checkpointOf, hphase, hacquired, hremoved, hwrites, hattempted, huploads, hsequence, hprevious, hintent,
      htoken, hlock, hobject, hsmoke, hfailure]
    rfl
  change PublicationCheckpoint.decode digest (sortedItems (snapshotItems c)) = _
  rw [PublicationCheckpoint.decode, hget, hget, hget, hget]
  exact bind_eq_ok.2 ⟨(), blockIf_eq_ok.2 (not_not.2 hkeys), bind_eq_ok.2 ⟨_, baselineOf_sortKeys c, bind_eq_ok.2
    ⟨_, h.create.decode, bind_eq_ok.2 ⟨_, h.cas.decode, bind_eq_ok.2 ⟨(), blockIf_eq_ok.2 (not_not.2 rfl), bind_eq_ok.2
      ⟨_, congrArg (demand _) hcheckpoint, bind_eq_ok.2 ⟨_, validateBaseline_recordable h, rfl⟩⟩⟩⟩⟩⟩⟩

end Checkpoints

/-! ## The order of uploads -/

/-- An upload is found by its key. -/
theorem lookup_of_mem {l : List (Text × Text)} (hnodup : (l.map Prod.fst).Nodup) {upload : Text × Text}
    (h : upload ∈ l) : l.lookup upload.1 = some upload.2 := by
  obtain ⟨before, behind, rfl⟩ := List.append_of_mem h
  refine List.lookup_eq_some_iff.2 ⟨before, behind, rfl, fun item hitem => ?_⟩
  rw [List.map_append, List.map_cons] at hnodup
  have hne : upload.1 ≠ item.1 := by
    intro heq
    exact List.disjoint_of_nodup_append hnodup (List.mem_map_of_mem hitem) (heq ▸ List.mem_cons_self)
  simpa using hne

/-- The sorted uploads are the same uploads. -/
theorem sortUploads_perm (l : List (Text × Text)) : (sortUploads l).Perm l := List.perm_insertionSort _ l

/-- They are found by the same keys. -/
theorem lookup_sortUploads {l : List (Text × Text)} (hnodup : (l.map Prod.fst).Nodup) {upload : Text × Text}
    (h : l.lookup upload.1 = some upload.2) : (sortUploads l).lookup upload.1 = some upload.2 := by
  obtain ⟨before, behind, rfl, _⟩ := List.lookup_eq_some_iff.1 h
  refine lookup_of_mem (((sortUploads_perm _).map _).nodup_iff.2 hnodup) ((sortUploads_perm _).mem_iff.2 ?_)
  exact List.mem_append_right _ List.mem_cons_self

namespace Interpreter

variable {I : Interpreter} {c c' : PublicationCheckpoint}

/-- The order of the uploads does not matter for a first checkpoint. -/
theorem validateInitialCheckpoint_sorted (c : PublicationCheckpoint) :
    validateInitialCheckpoint c.sorted = validateInitialCheckpoint c := by
  have hnil : sortUploads c.blobUploadUrls ≠ [] ↔ c.blobUploadUrls ≠ [] :=
    not_congr ⟨fun h => List.nil_perm.1 (h ▸ sortUploads_perm c.blobUploadUrls), fun h => by rw [h]; rfl⟩
  simp only [validateInitialCheckpoint, PublicationCheckpoint.sorted, hnil]

/-- Nor does it for a next one. -/
theorem validateCheckpointTransition_sorted (hnodup : (c'.blobUploadUrls.map Prod.fst).Nodup)
    (h : I.validateCheckpointTransition c c' = .ok ()) : I.validateCheckpointTransition c c'.sorted = .ok () := by
  simp only [validateCheckpointTransition, bind_eq_ok, blockIf_eq_ok] at h ⊢
  obtain ⟨_, hcreate, _, hcas, _, hsmoke, _, hobject, _, hacquired, _, hremoved, _, hattempted, _, hwrites, _,
    huploads, hstate⟩ := h
  refine ⟨_, hcreate, _, hcas, (), hsmoke, (), hobject, (), hacquired, (), hremoved, (), hattempted, (), hwrites, (),
    ?_, hstate⟩
  rw [not_not] at huploads ⊢
  exact fun upload hupload => lookup_sortUploads hnodup (huploads upload hupload)

end Interpreter

/-! ## Receipts that are read back -/

/-- The receipt that is written of a checkpoint is read as this checkpoint, with its uploads in the order of
    their names. -/
theorem receipt_readBack {I : Interpreter} {digest : List ℕ → Text} {c : PublicationCheckpoint}
    (hdigest : ∀ payload, isSha256 (digest payload) = true) (h : c.Recordable digest) (hpos : 0 < c.receiptSequence)
    (hprevious : ∀ s, c.previousReceiptSha256 = some s → isSha256 s = true) :
    ∃ payload, canonicalJsonBytes c.snapshot = .ok payload ∧
      (I.refuses payload = false → I.decodeReceipt digest payload = .ok c.sorted) := by
  have hwritable := writable_snapshot hdigest h hprevious
  refine ⟨_, canonicalJsonBytes_writable hwritable, fun hreads => ?_⟩
  rw [snapshot_eq] at hwritable hreads ⊢
  exact bind_eq_ok.2 ⟨_, Interpreter.canonicalObject_payload hwritable hreads,
    decodeDocument_snapshot h hpos hprevious⟩

/-- The first checkpoint of a run. -/
def firstCheckpoint : PublicationCheckpoint where
  intentSha256 := .str (List.replicate 64 48)
  runToken := .str (List.replicate 64 49)
  runIds := []
  baselineSha256 := StageList.baselineSha256
  lockDocumentSha256 := .str (List.replicate 64 50)
  phase := text "prepared"
  lockObjectSha := .null
  lockAcquired := false
  lockRemoved := false
  completedWrites := []
  anonymousSmokeSha256 := .null
  versionCreateProbe := none
  latestCasProbe := none
  latestWriteAttempted := false
  blobUploadUrls := []
  failureCode := .null
  receiptSequence := 0
  previousReceiptSha256 := none

/-- The digest that the journal of the examples is read with has 64 hexadecimal digits. -/
theorem isSha256_stageListDigest (payload : List ℕ) : isSha256 (StageList.digest payload) = true := by
  rw [StageList.digest]
  split_ifs <;> decide

/-- A first checkpoint without probes and uploads is recordable. -/
theorem recordable_firstCheckpoint : firstCheckpoint.Recordable StageList.digest := by
  have hdigits : ∀ d ≤ 126, IsText (.str (List.replicate 64 d)) := fun d hd =>
    .inr ⟨_, rfl, encodable_ascii fun c hc => (List.mem_replicate.1 hc).2 ▸ hd⟩
  exact
    { intentSha256 := hdigits 48 (by decide)
      runToken := hdigits 49 (by decide)
      lockDocumentSha256 := hdigits 50 (by decide)
      lockObjectSha := .inl rfl
      anonymousSmokeSha256 := .inl rfl
      failureCode := .inl rfl
      phase := encodable_ascii (by decide)
      writes := by simp [firstCheckpoint]
      runIds := .nil
      positive := by simp [firstCheckpoint]
      baseline := by decide +kernel
      create := by simp [IsProbe, firstCheckpoint]
      cas := by simp [IsProbe, firstCheckpoint]
      nodup := .nil
      uploads := by simp [firstCheckpoint] }

/-- The digest of the baseline of two runs, by its length, and those of `StageList`. -/
def twoRunsDigest (payload : List ℕ) : Text :=
  if payload.length = 63 then text "7e9682491f94eb7e7a01af91deb1735f808d5c5594491756f5ef134c103e20ff"
  else StageList.digest payload

/-- The digest of the example below has 64 hexadecimal digits. -/
theorem isSha256_twoRunsDigest (payload : List ℕ) : isSha256 (twoRunsDigest payload) = true := by
  rw [twoRunsDigest]
  split_ifs
  · decide +kernel
  · exact isSha256_stageListDigest payload

/-- A later checkpoint, behind another receipt: two runs were there before it, one probe is verified and
    one stale, and two uploads have begun, not in the order of their names. -/
def probedCheckpoint : PublicationCheckpoint :=
  { firstCheckpoint with
    runIds := [7, 9]
    baselineSha256 := text "7e9682491f94eb7e7a01af91deb1735f808d5c5594491756f5ef134c103e20ff"
    lockObjectSha := .str (List.replicate 40 51)
    lockAcquired := true
    completedWrites := [text "main"]
    versionCreateProbe := some ⟨.create, List.replicate 64 52, text "create-probe", text "verified", none,
      some (text "\"winner\""), some (List.replicate 64 53)⟩
    latestCasProbe := some ⟨.cas, List.replicate 64 54, text "cas-probe", text "stale_armed",
      some (text "\"prior\""), some (text "\"winner\""), none⟩
    blobUploadUrls := [(text "sha256:b", text "/v2/uploads/2"), (text "sha256:a", text "/v2/uploads/1")]
    receiptSequence := 2
    previousReceiptSha256 := some (List.replicate 64 55) }

/-- The checkpoint of the example is recordable. -/
theorem recordable_probedCheckpoint : probedCheckpoint.Recordable twoRunsDigest :=
  { recordable_firstCheckpoint with
    lockObjectSha := .inr ⟨_, rfl, encodable_ascii (by decide)⟩
    writes := List.forall_mem_singleton.2 (encodable_ascii (by decide))
    runIds := by decide
    positive := by decide
    baseline := by decide +kernel
    create := by
      rintro _ ⟨⟩
      exact ⟨rfl, by decide +kernel⟩
    cas := by
      rintro _ ⟨⟩
      exact ⟨rfl, by decide +kernel⟩
    nodup := by decide +kernel
    uploads := by
      have hascii : ∀ upload ∈ probedCheckpoint.blobUploadUrls, (∀ c ∈ upload.1, c ≤ 126) ∧ ∀ c ∈ upload.2, c ≤ 126 := by
        decide +kernel
      exact fun upload hupload => ⟨encodable_ascii (hascii upload hupload).1, encodable_ascii (hascii upload hupload).2⟩ }

/-- A checkpoint with a probe, run ids and uploads is read back, with its uploads sorted. -/
theorem receipt_readBack_probed : ∃ payload, canonicalJsonBytes probedCheckpoint.snapshot = .ok payload ∧
    StageList.interpreter.decodeReceipt twoRunsDigest payload = .ok { probedCheckpoint with
      blobUploadUrls := [(text "sha256:a", text "/v2/uploads/1"), (text "sha256:b", text "/v2/uploads/2")] } := by
  have hprevious : ∀ s, probedCheckpoint.previousReceiptSha256 = some s → isSha256 s = true := by
    rintro _ ⟨⟩
    decide
  have hsorted : sortUploads probedCheckpoint.blobUploadUrls =
      [(text "sha256:a", text "/v2/uploads/1"), (text "sha256:b", text "/v2/uploads/2")] := by
    decide +kernel
  obtain ⟨payload, hpayload, hreads⟩ := receipt_readBack (I := StageList.interpreter) isSha256_twoRunsDigest
    recordable_probedCheckpoint Nat.two_pos hprevious
  exact ⟨payload, hpayload, hsorted ▸ hreads rfl⟩

end Subgen

import Subgen.Publication.Snapshots

/-!
# The documents of an append

What is written canonically is read back as the same document with its keys sorted
(`canonicalObject_payload`), so that the head, the receipt and the transaction of an append are what they
were when a recovery reads them (`decodeTransaction_payload`).

A transaction names the head before the append and the head behind it, and has the receipt in it. A recovery
compares what it finds with what the transaction says; the comparison is that of Python, which takes numbers of
different types for equal (`same`), and is transitive on what is written here. The records of a directory form a
chain, each naming the digest of the one before it, and an appendable checkpoint prolongs it (`chain_snoc`).

* `Chain`: records that are loaded of their receipts;
* `Appendable`: a checkpoint whose documents are read back.
-/

namespace Subgen

open Json Procedure

/-! ## Heads -/

/-- The keys of a head. -/
def headKeys : List Text := [text "schema", text "receipt_sequence", text "receipt_sha256"]

/-- The keys of a head are distinct. -/
theorem nodup_headKeys : headKeys.Nodup := by decide

/-- A head can be written. -/
theorem writable_headDocument {head : ℕ × Text} (h : isSha256 head.2 = true) : (headDocument head).Writable := by
  refine writable_object nodup_headKeys ?_
  simp only [List.forall_mem_cons, List.not_mem_nil, false_implies, implies_true, and_true]
  exact ⟨⟨encodable_ascii (by decide), encodable_text (by decide)⟩,
    ⟨encodable_ascii (by decide), writable_int _⟩, ⟨encodable_ascii (by decide), writable_sha256 h⟩⟩

/-- The members of a head. -/
def headItems (head : ℕ × Text) : List (Text × Json) :=
  [(text "schema", .str headSchema), (text "receipt_sequence", .int head.1), (text "receipt_sha256", .str head.2)]

/-- A head is read back. -/
theorem decodeHead_sortedItems {head : ℕ × Text} (hpos : 0 < head.1) (hsha : isSha256 head.2 = true) :
    decodeHead (sortedItems (headItems head)) = .ok head := by
  obtain ⟨n, sha256⟩ := head
  obtain ⟨n, rfl⟩ : ∃ m, n = m + 1 := ⟨n - 1, by simp only at hpos; omega⟩
  have hkeys : hasKeys (sortedItems (headItems (n + 1, sha256))) headKeys = true :=
    Interpreter.hasKeys_sortedItems (List.Perm.refl _)
  have hget := Interpreter.get_sortedItems (headItems (n + 1, sha256)) nodup_headKeys
  rw [decodeHead]
  refine bind_eq_ok.2 ⟨(), blockIf_eq_ok.2 (not_not.2 hkeys), ?_⟩
  rw [hget, hget, hget]
  exact if_pos ⟨rfl, hsha⟩

/-- What the journal is when a head is read. -/
theorem decodeHeadDocument_sortKeys {head : ℕ × Text} (hpos : 0 < head.1) (hsha : isSha256 head.2 = true) :
    decodeHeadDocument (headDocument head).sortKeys = .ok head := decodeHead_sortedItems hpos hsha

/-! ## Appends -/

/-- A head of this many receipts, or none. -/
def HeadOk (head : Option (ℕ × Text)) : Prop := ∀ h, head = some h → 0 < h.1 ∧ isSha256 h.2 = true

/-- So is one that may be missing. -/
theorem decodeOptionalHead_sortKeys {head : Option (ℕ × Text)} (h : HeadOk head) :
    decodeOptionalHead (head.elim .null headDocument).sortKeys = .ok head := by
  cases head with
  | none => rfl
  | some head =>
    obtain ⟨hpos, hsha⟩ := h head rfl
    change (decodeHeadDocument (headDocument head).sortKeys).map some = _
    rw [decodeHeadDocument_sortKeys hpos hsha]
    rfl

/-- It is written as the same payload when its keys are sorted. -/
theorem optionalHeadPayload_sortKeys {head : Option (ℕ × Text)} (h : HeadOk head) :
    optionalHeadPayload (head.elim .null headDocument).sortKeys =
      .ok (head.map fun head => canonicalPayload (headDocument head)) := by
  cases head with
  | none => rfl
  | some head =>
    change (canonicalJsonBytes (headDocument head).sortKeys).map some = _
    rw [canonicalJsonBytes_sortKeys (writable_headDocument (h head rfl).2)]
    rfl

/-- A head that may be missing can be written. -/
theorem writable_optionalHead {head : Option (ℕ × Text)} (h : HeadOk head) :
    (head.elim .null headDocument : Json).Writable := by
  cases head with
  | none => exact ⟨trivial, fun _ hs => absurd hs List.not_mem_nil⟩
  | some head => exact writable_headDocument (h head rfl).2

/-- The keys of a transaction. -/
def transactionKeys : List Text :=
  [text "schema", text "previous_head", text "next_head", text "receipt"]

/-- The keys of a transaction are distinct. -/
theorem nodup_transactionKeys : transactionKeys.Nodup := by decide

/-- The members of a transaction. -/
def transactionItems (previousHead : Option (ℕ × Text)) (nextHead : ℕ × Text) (receipt : Json) :
    List (Text × Json) :=
  [(text "schema", .str transactionSchema), (text "previous_head", previousHead.elim .null headDocument),
   (text "next_head", headDocument nextHead), (text "receipt", receipt)]

/-- A transaction can be written. -/
theorem writable_transactionDocument {previousHead : Option (ℕ × Text)} {nextHead : ℕ × Text} {receipt : Json}
    (hprevious : HeadOk previousHead) (hnext : isSha256 nextHead.2 = true) (hreceipt : receipt.Writable) :
    (transactionDocument previousHead nextHead receipt).Writable := by
  refine writable_object nodup_transactionKeys ?_
  simp only [List.forall_mem_cons, List.not_mem_nil, false_implies, implies_true, and_true]
  exact ⟨⟨encodable_ascii (by decide), encodable_text (by decide)⟩,
    ⟨encodable_ascii (by decide), writable_optionalHead hprevious⟩,
    ⟨encodable_ascii (by decide), writable_headDocument hnext⟩, ⟨encodable_ascii (by decide), hreceipt⟩⟩

namespace Interpreter

variable {I : Interpreter} {digest : List ℕ → Text}

/-- The transaction of an append is read back. -/
theorem decodeTransaction_payload {previousHead : Option (ℕ × Text)} {nextHead : ℕ × Text} {receipt : Json}
    {c : PublicationCheckpoint} (hprevious : HeadOk previousHead) (hpos : 0 < nextHead.1)
    (hnext : isSha256 nextHead.2 = true) (hreceipt : receipt.Writable)
    (hreads : I.refuses (canonicalPayload (transactionDocument previousHead nextHead receipt)) = false)
    (hdecode : decodeDocument digest receipt.sortKeys = .ok c) (hsequence : c.receiptSequence = nextHead.1)
    (hdigest : digest (canonicalPayload receipt) = nextHead.2)
    (hfollows : nextHead.1 = previousHead.elim 0 Prod.fst + 1)
    (hlast : c.previousReceiptSha256 = previousHead.map Prod.snd) :
    I.decodeTransaction digest (canonicalPayload (transactionDocument previousHead nextHead receipt)) =
      .ok ⟨previousHead, previousHead.map fun head => canonicalPayload (headDocument head), nextHead,
        canonicalPayload (headDocument nextHead), c, canonicalPayload receipt⟩ := by
  have hkeys : hasKeys (sortedItems (transactionItems previousHead nextHead receipt)) transactionKeys = true :=
    hasKeys_sortedItems (List.Perm.refl _)
  have hget : ∀ k, Json.get (sortedItems (transactionItems previousHead nextHead receipt)) k =
      (Json.get (transactionItems previousHead nextHead receipt) k).sortKeys := get_sortedItems _ nodup_transactionKeys
  have hobject : I.canonicalObject "receipt_head_transaction"
      (canonicalPayload (transactionDocument previousHead nextHead receipt)) =
        .ok (sortedItems (transactionItems previousHead nextHead receipt)) :=
    canonicalObject_payload (writable_transactionDocument hprevious hnext hreceipt) hreads
  rw [decodeTransaction]
  refine bind_eq_ok.2 ⟨_, hobject, bind_eq_ok.2 ⟨(), blockIf_eq_ok.2 ?_, ?_⟩⟩
  · rintro (hno | hschema)
    · exact hno hkeys
    · refine hschema ?_
      rw [hget]
      rfl
  · rw [hget, hget, hget]
    refine bind_eq_ok.2 ⟨_, decodeOptionalHead_sortKeys hprevious, bind_eq_ok.2
      ⟨_, decodeHeadDocument_sortKeys hpos hnext, bind_eq_ok.2 ⟨_, canonicalJsonBytes_sortKeys hreceipt, bind_eq_ok.2
        ⟨_, hdecode, bind_eq_ok.2 ⟨(), blockIf_eq_ok.2 ?_, bind_eq_ok.2
          ⟨_, optionalHeadPayload_sortKeys hprevious, bind_eq_ok.2 ⟨_, canonicalJsonBytes_sortKeys
            (writable_headDocument hnext), bind_eq_ok.2 ⟨(), blockIf_eq_ok.2 ?_, rfl⟩⟩⟩⟩⟩⟩⟩⟩
    · exact not_or.2 ⟨not_not.2 hsequence, not_not.2 hdigest⟩
    · exact not_or.2 ⟨not_not.2 hfollows, not_not.2 hlast⟩

end Interpreter

/-! ## Equality -/

namespace Interpreter

variable {I : Interpreter}

/-- Only null is the same as null. -/
theorem same_null {v : Json} : I.same .null v = true ↔ v = .null := by
  cases v <;> simp [same, number]

/-- Only a text is the same as the text. -/
theorem same_str {s : Text} {v : Json} : I.same (.str s) v = true ↔ v = .str s := by
  cases v <;> simp [same, number, eq_comm]

/-- Arrays are the same if their elements are. -/
theorem same_array {vs : List Json} {v : Json} :
    I.same (.array vs) v = true ↔ ∃ vs', v = .array vs' ∧ I.sameElements vs vs' = true := by
  cases v <;> simp [same, number]

/-- Objects are the same if they are as large, and their members are the same. -/
theorem same_object {items : List (Text × Json)} {v : Json} : I.same (.object items) v = true ↔
    ∃ items', v = .object items' ∧ items.length = items'.length ∧ I.sameMembers items items' = true := by
  cases v <;> simp [same, number]

/-- A value that is a number. -/
theorem same_number {v v' : Json} {x : ℚ} (hv : I.number v = some x) :
    I.same v v' = true ↔ I.number v' = some x := by
  have hsame : I.same v v' = (I.number v').any (x = ·) := by
    cases v with
    | null | str | array | object => cases hv
    | bool | int | float =>
      cases v' <;> simp only [same, hv] <;> generalize I.number _ = found <;> cases found <;> rfl
  rw [hsame]
  cases I.number v' with
  | none => simp
  | some x' => simp [eq_comm]

/-- A member of the one object is the same in the other one. -/
theorem sameMembers_lookup {items items' : List (Text × Json)} (h : I.sameMembers items items' = true) {k : Text}
    {v : Json} (hlookup : items.lookup k = some v) :
    ∃ v', items'.lookup k = some v' ∧ I.same v v' = true := by
  induction items with
  | nil => cases hlookup
  | cons item items ih =>
    obtain ⟨l, u⟩ := item
    rw [sameMembers, Bool.and_eq_true] at h
    rw [List.lookup_cons] at hlookup
    cases hkey : k == l with
    | true =>
      rw [hkey] at hlookup
      obtain rfl := Option.some.inj hlookup
      obtain rfl := eq_of_beq hkey
      cases hlookup' : items'.lookup k with
      | none =>
        rw [hlookup'] at h
        cases h.1
      | some v' =>
        rw [hlookup'] at h
        exact ⟨v', rfl, h.1⟩
    | false =>
      rw [hkey] at hlookup
      exact ih h.2 hlookup

mutual

/-- To be the same is transitive. -/
theorem same_trans (v : Json) {v' v'' : Json} (h : I.same v v' = true) (h' : I.same v' v'' = true) :
    I.same v v'' = true := by
  cases v with
  | null =>
    obtain rfl := same_null.1 h
    exact h'
  | str s =>
    obtain rfl := same_str.1 h
    exact h'
  | array vs =>
    obtain ⟨vs', rfl, hvs⟩ := same_array.1 h
    obtain ⟨vs'', rfl, hvs'⟩ := same_array.1 h'
    exact same_array.2 ⟨vs'', rfl, sameElements_trans vs hvs hvs'⟩
  | object items =>
    obtain ⟨items', rfl, hlength, hitems⟩ := same_object.1 h
    obtain ⟨items'', rfl, hlength', hitems'⟩ := same_object.1 h'
    exact same_object.2 ⟨items'', rfl, hlength.trans hlength', sameMembers_trans items hitems hitems'⟩
  | bool b =>
    have hv' := (same_number rfl).1 h
    exact (same_number rfl).2 ((same_number hv').1 h')
  | int n =>
    have hv' := (same_number rfl).1 h
    exact (same_number rfl).2 ((same_number hv').1 h')
  | float repr =>
    cases repr with
    | none => cases v' <;> simp [same, number] at h
    | some repr =>
      have hv' := (same_number rfl).1 h
      exact (same_number rfl).2 ((same_number hv').1 h')

/-- So it is for elements. -/
theorem sameElements_trans (vs : List Json) {vs' vs'' : List Json} (h : I.sameElements vs vs' = true)
    (h' : I.sameElements vs' vs'' = true) : I.sameElements vs vs'' = true := by
  cases vs with
  | nil =>
    cases vs' with
    | nil => exact h'
    | cons v' vs' => cases h
  | cons v vs =>
    cases vs' with
    | nil => cases h
    | cons v' vs' =>
      cases vs'' with
      | nil => cases h'
      | cons v'' vs'' =>
        rw [sameElements, Bool.and_eq_true] at h h' ⊢
        exact ⟨same_trans v h.1 h'.1, sameElements_trans vs h.2 h'.2⟩

/-- So it is for members. -/
theorem sameMembers_trans (items : List (Text × Json)) {items' items'' : List (Text × Json)}
    (h : I.sameMembers items items' = true) (h' : I.sameMembers items' items'' = true) :
    I.sameMembers items items'' = true := by
  match items with
  | [] => rfl
  | (k, v) :: items =>
    rw [sameMembers, Bool.and_eq_true] at h ⊢
    refine ⟨?_, sameMembers_trans items h.2 h'⟩
    cases hlookup : items'.lookup k with
    | none =>
      rw [hlookup] at h
      cases h.1
    | some v' =>
      rw [hlookup] at h
      obtain ⟨v'', hlookup', hsame⟩ := sameMembers_lookup h' hlookup
      rw [hlookup']
      exact same_trans v h.1 hsame

end

/-- So it is for the runs that checkpoints are of. -/
theorem sameRun_trans {c c' c'' : PublicationCheckpoint} (h : I.sameRun c c' = true)
    (h' : I.sameRun c' c'' = true) : I.sameRun c c'' = true := by
  simp only [sameRun, Bool.and_eq_true, decide_eq_true_eq] at h h' ⊢
  obtain ⟨⟨⟨⟨hintent, htoken⟩, hlock⟩, hruns⟩, hbaseline⟩ := h
  obtain ⟨⟨⟨⟨hintent', htoken'⟩, hlock'⟩, hruns'⟩, hbaseline'⟩ := h'
  exact ⟨⟨⟨⟨same_trans _ hintent hintent', same_trans _ htoken htoken'⟩, same_trans _ hlock hlock'⟩,
    hruns.trans hruns'⟩, hbaseline.trans hbaseline'⟩

end Interpreter

/-! ## Records -/

section Records

open FileReceiptJournal JournalFiles

variable (I : Interpreter) (digest : List ℕ → Text)

/-- The receipt of a record, as it is read. -/
def receiptFile (r : Receipt) : Inode := ownFile 1 r.2

/-- Records that are loaded of their receipts. -/
def Chain (records : List Receipt) : Prop :=
  I.loadRecordChain digest [] (records.map receiptFile) = .ok records

/-- The record that an append adds. -/
def recordOf (records : List Receipt) (c : PublicationCheckpoint) : Receipt :=
  ((appended digest records c).sorted, canonicalPayload (appended digest records c).snapshot)

/-- The interpreter reads the documents of an append to the records. -/
structure ReadsDocuments (records : List Receipt) (c : PublicationCheckpoint) : Prop where
  receipt : I.refuses (recordOf digest records c).2 = false
  head : I.refuses (canonicalPayload (headDocument
    (records.length + 1, digest (recordOf digest records c).2))) = false
  transaction : I.refuses (canonicalPayload (transactionDocument (headOf digest records)
    (records.length + 1, digest (recordOf digest records c).2) (appended digest records c).snapshot)) = false

/-- An append to the records that is accepted, whose documents are read, and whose number has eight digits. -/
structure Appendable (records : List Receipt) (c : PublicationCheckpoint) : Prop where
  recordable : c.Recordable digest
  reads : ReadsDocuments I digest records c
  short : records.length + 1 < 10 ^ 8
  accepts : I.validateNextCheckpoint records c = .ok ()

variable {I digest} {records : List Receipt} {c : PublicationCheckpoint}

/-- The head of some receipts is valid. -/
theorem headOk_headOf (hdigest : ∀ payload, isSha256 (digest payload) = true) (records : List Receipt) :
    HeadOk (headOf digest records) := by
  intro h hhead
  obtain ⟨sha256, hlast, rfl⟩ := Option.map_eq_some_iff.1 hhead
  obtain ⟨r, hr, rfl⟩ := Option.map_eq_some_iff.1 hlast
  exact ⟨List.length_pos_of_mem (List.mem_of_getLast? hr), hdigest _⟩

/-- The head is the number of the receipts and the digest of the last one. -/
theorem headOf_append (records : List Receipt) (r : Receipt) :
    headOf digest (records ++ [r]) = some (records.length + 1, digest r.2) := by
  rw [headOf, lastDigest_append]
  simp [Interpreter.recordDigest]

/-- The number of the receipts is the one in their head. -/
theorem length_of_headOf (records : List Receipt) : (headOf digest records).elim 0 Prod.fst = records.length := by
  rcases List.eq_nil_or_concat' records with rfl | ⟨l, r, rfl⟩
  · rfl
  · rw [headOf_append]
    simp

/-- The digest in the head is that of the last receipt. -/
theorem lastDigest_of_headOf (records : List Receipt) :
    (headOf digest records).map Prod.snd = lastDigest (Interpreter.recordDigest digest) records := by
  rw [headOf, Option.map_map]
  exact Option.map_id'

/-- The digest of the last receipt has 64 hexadecimal digits. -/
theorem isSha256_lastDigest (hdigest : ∀ payload, isSha256 (digest payload) = true) (records : List Receipt) (sha256 : Text)
    (h : lastDigest (Interpreter.recordDigest digest) records = some sha256) : isSha256 sha256 = true := by
  obtain ⟨r, _, rfl⟩ := Option.map_eq_some_iff.1 h
  exact hdigest _

/-- A recordable checkpoint stays so when it is numbered. -/
theorem Recordable.appended (h : c.Recordable digest) (records : List Receipt) :
    (appended digest records c).Recordable digest := by
  cases h
  constructor <;> assumption

/-- What may be appended can be written. -/
theorem Appendable.writable (h : Appendable I digest records c)
    (hdigest : ∀ payload, isSha256 (digest payload) = true) : (appended digest records c).snapshot.Writable :=
  writable_snapshot hdigest (Recordable.appended h.recordable records) (isSha256_lastDigest hdigest records)

/-- What may be appended is read back. -/
theorem Appendable.decodes (h : Appendable I digest records c)
    (hdigest : ∀ payload, isSha256 (digest payload) = true) :
    Interpreter.decodeDocument digest (appended digest records c).snapshot.sortKeys =
      .ok (recordOf digest records c).1 :=
  decodeDocument_snapshot (Recordable.appended h.recordable records) (Nat.succ_pos _)
    (isSha256_lastDigest hdigest records)

/-- Receipts pass the check against their own head. -/
theorem validateRecordsHead_headOf (records : List Receipt) :
    Interpreter.validateRecordsHead digest records (headOf digest records) = .ok () := by
  cases hlast : lastDigest (Interpreter.recordDigest digest) records with
  | none => simp [Interpreter.validateRecordsHead, headOf, hlast]
  | some sha256 => simp [Interpreter.validateRecordsHead, headOf, hlast]

/-- The transaction of an append is the one that is recovered. -/
theorem Appendable.decodeTransaction (h : Appendable I digest records c)
    (hdigest : ∀ payload, isSha256 (digest payload) = true) :
    I.decodeTransaction digest (canonicalPayload (transactionDocument (headOf digest records)
      (records.length + 1, digest (recordOf digest records c).2) (appended digest records c).snapshot)) =
      .ok ⟨headOf digest records, (headOf digest records).map fun head => canonicalPayload (headDocument head),
        (records.length + 1, digest (recordOf digest records c).2),
        canonicalPayload (headDocument (records.length + 1, digest (recordOf digest records c).2)),
        (recordOf digest records c).1, (recordOf digest records c).2⟩ := by
  refine Interpreter.decodeTransaction_payload (headOk_headOf hdigest records) (Nat.succ_pos _) (hdigest _)
    (h.writable hdigest) h.reads.transaction (h.decodes hdigest) rfl rfl ?_ (lastDigest_of_headOf records).symm
  rw [length_of_headOf]

/-- The checkpoint that is read is accepted, too. -/
theorem Appendable.accepts_record (h : Appendable I digest records c) :
    I.validateNextCheckpoint records (recordOf digest records c).1 = .ok () := by
  obtain ⟨⟨⟩, hrun, hstep⟩ := bind_eq_ok.1 h.accepts
  have hrun' : I.validateRun records.getLast? (recordOf digest records c).1 = .ok () := by
    cases hlast : records.getLast? with
    | none =>
      rw [hlast] at hrun
      exact (Interpreter.validateInitialCheckpoint_sorted _).trans hrun
    | some r =>
      rw [hlast] at hrun
      exact hrun
  have hstep' : I.validateStep records.getLast? (recordOf digest records c).1 = .ok () := by
    cases hlast : records.getLast? with
    | none => rfl
    | some r =>
      rw [hlast] at hstep
      exact Interpreter.validateCheckpointTransition_sorted h.recordable.nodup hstep
  exact bind_eq_ok.2 ⟨(), hrun', hstep'⟩

/-- The file of a receipt is read. -/
theorem readReceipt_receiptFile (r : Receipt) : readReceipt (receiptFile r) = .ok r.2 := by
  rw [readReceipt, readOwnerFile]
  simp only [receiptFile, ownFile, bind_eq_ok, blockIf_eq_ok]
  exact ⟨(), by simp, (), by simp, rfl⟩

/-- The documents are read back as they were appended. -/
theorem Appendable.decodeReceipt (h : Appendable I digest records c)
    (hdigest : ∀ payload, isSha256 (digest payload) = true) :
    I.decodeReceipt digest (recordOf digest records c).2 = .ok (recordOf digest records c).1 :=
  bind_eq_ok.2 ⟨_, Interpreter.canonicalObject_payload (h.writable hdigest) h.reads.receipt, h.decodes hdigest⟩

/-- A chain is read from the front. -/
theorem loadRecordChain_append {records : List Receipt} {files files' : List Inode} :
    I.loadRecordChain digest records (files ++ files') =
      I.loadRecordChain digest records files >>= fun records' => I.loadRecordChain digest records' files' := by
  induction files generalizing records with
  | nil => rfl
  | cons f files ih =>
    rw [List.cons_append, Interpreter.loadRecordChain, Interpreter.loadRecordChain, bind_assoc]
    exact bind_congr fun r => ih

/-- A chain with one more receipt is a chain, and a next receipt for it. -/
theorem chain_snoc {l : List Receipt} {r : Receipt} :
    Chain I digest (l ++ [r]) ↔ Chain I digest l ∧ I.nextRecord digest l (receiptFile r) = .ok r := by
  rw [Chain, Chain, List.map_append, loadRecordChain_append]
  constructor
  · intro h
    obtain ⟨l', hload, hlast⟩ := bind_eq_ok.1 h
    obtain ⟨r', hnext, heq⟩ := bind_eq_ok.1 hlast
    obtain ⟨rfl, hr⟩ := List.append_inj' (Except.ok.inj heq) rfl
    obtain rfl := List.singleton_inj.1 hr
    exact ⟨hload, hnext⟩
  · rintro ⟨hload, hnext⟩
    exact bind_eq_ok.2 ⟨l, hload, bind_eq_ok.2 ⟨r, hnext, rfl⟩⟩

/-- The last record is of the run of the first one. -/
theorem Chain.sameRun {l : List Receipt} {r first : Receipt} (h : Chain I digest (l ++ [r]))
    (hfirst : l.head? = some first) : I.sameRun r.1 first.1 = true := by
  have hnext := (chain_snoc.1 h).2
  simp only [Interpreter.nextRecord, bind_eq_ok] at hnext
  obtain ⟨payload, hread, c, hdecode, _, _, _, hrun, _, _, heq⟩ := hnext
  obtain rfl : c = r.1 := congrArg Prod.fst (Except.ok.inj heq)
  rw [hfirst, Interpreter.validateRun, blockIf_eq_ok, not_not] at hrun
  exact hrun

/-- A checkpoint that follows the last record is of the run of the first one. -/
theorem validateRun_head (h : Chain I digest records) (hc : I.validateRun records.getLast? c = .ok ()) :
    I.validateRun records.head? c = .ok () := by
  rcases List.eq_nil_or_concat' records with rfl | ⟨l, r, rfl⟩
  · exact hc
  · rw [List.getLast?_append_of_ne_nil _ (List.cons_ne_nil _ _), List.getLast?_singleton,
      Interpreter.validateRun, blockIf_eq_ok, not_not] at hc
    cases hfirst : l.head? with
    | none =>
      obtain rfl := List.head?_eq_none_iff.1 hfirst
      exact blockIf_eq_ok.2 (not_not.2 hc)
    | some first =>
      rw [List.head?_append, hfirst]
      exact blockIf_eq_ok.2 (not_not.2 (Interpreter.sameRun_trans hc (h.sameRun hfirst)))

/-- What may be appended continues the chain. -/
theorem Chain.snoc (h : Chain I digest records) (hc : Appendable I digest records c)
    (hdigest : ∀ payload, isSha256 (digest payload) = true) :
    Chain I digest (records ++ [recordOf digest records c]) := by
  refine chain_snoc.2 ⟨h, ?_⟩
  obtain ⟨⟨⟩, hrun, hstep⟩ := bind_eq_ok.1 hc.accepts_record
  rw [Interpreter.nextRecord, readReceipt_receiptFile]
  refine bind_eq_ok.2 ⟨_, rfl, bind_eq_ok.2 ⟨_, hc.decodeReceipt hdigest, bind_eq_ok.2 ⟨(), blockIf_eq_ok.2 ?_,
    bind_eq_ok.2 ⟨(), validateRun_head h hrun, bind_eq_ok.2 ⟨(), hstep, rfl⟩⟩⟩⟩⟩
  rintro (hne | hne)
  · exact hne rfl
  · exact hne rfl

end Records

end Subgen

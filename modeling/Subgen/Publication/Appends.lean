import Subgen.Publication.JournalRules

/-!
# Appends that are interrupted

How far an append to the journal may be (`Committed`), and what the next one makes of it. An append
counts once its transaction has its name: from then on a recovery publishes the receipt and the head, and
before it takes away what there is.

* `Stands`: the directory is that of a journal with these records, or of an append to it that has not
  got there, or of one that has;
* `runs_recoverTransaction`: a recovery ends in the journal with the same records;
* `runs_append`: an append goes from the one journal to the other.
-/

namespace Subgen

open Function Procedure

namespace FileReceiptJournal

section Stages

variable (I : Interpreter) (digest : List ℕ → Text) (records : List Receipt) (c : PublicationCheckpoint)

/-- The bytes of a head. -/
def headPayload (head : ℕ × Text) : List ℕ := canonicalPayload (headDocument head)

/-- The files of a journal with these records, where no append is in flight. -/
def settledFiles : JournalName → Option (List ℕ)
  | .head => (headOf digest records).map headPayload
  | .receipt (n + 1) => records[n]?.map Prod.snd
  | _ => none

/-- The head after the append. -/
def nextHead : ℕ × Text := (records.length + 1, digest (recordOf digest records c).2)

/-- The bytes of the transaction of the append. -/
def transactionPayload : List ℕ :=
  canonicalPayload (transactionDocument (headOf digest records) (nextHead digest records c)
    (appended digest records c).snapshot)

/-- The transaction is published. -/
def openedFiles : JournalName → Option (List ℕ) :=
  update (settledFiles digest records) .transaction (some (transactionPayload digest records c))

/-- The receipt, too. -/
def receivedFiles : JournalName → Option (List ℕ) :=
  update (openedFiles digest records c) (.receipt (records.length + 1)) (some (recordOf digest records c).2)

/-- And the head. -/
def headedFiles : JournalName → Option (List ℕ) :=
  update (receivedFiles digest records c) .head (some (headPayload (nextHead digest records c)))

/-- How far an append is whose transaction has its name. -/
inductive Committed : Shape → Prop
  | linked : Committed ⟨update (update (settledFiles digest records) .transactionStaged
      (some (transactionPayload digest records c))) .transaction (some (transactionPayload digest records c)),
      some (.transactionStaged, .transaction)⟩
  | receipt {d : Shape} (h : BoundStage (openedFiles digest records c) (.receiptStaged (records.length + 1))
      (.receipt (records.length + 1)) (recordOf digest records c).2 d) : Committed d
  | head {d : Shape} (h : BoundStage (receivedFiles digest records c) .headNextStaged .headNext
      (headPayload (nextHead digest records c)) d) : Committed d
  | replaced : Committed ⟨headedFiles digest records c, none⟩

/-- Records that are loaded, with numbers of eight digits and a head that the interpreter reads. -/
structure Sound : Prop where
  chain : Chain I digest records
  short : records.length < 10 ^ 8
  readsHead : ∀ head, headOf digest records = some head → I.refuses (headPayload head) = false

/-- A directory of a journal with these records. -/
inductive Stands : Shape → Prop
  | settled : Stands ⟨settledFiles digest records, none⟩
  | staged {c : PublicationCheckpoint} {y : List ℕ} (hc : Appendable I digest records c)
      (hy : y <+: transactionPayload digest records c) :
      Stands ⟨update (settledFiles digest records) .transactionStaged (some y), none⟩
  | committed {before : List Receipt} {c : PublicationCheckpoint} {d : Shape} (hbefore : Sound I digest before)
      (hc : Appendable I digest before c) (hrecords : records = before ++ [recordOf digest before c])
      (h : Committed digest before c d) : Stands d

end Stages

section Files

variable {I : Interpreter} {digest : List ℕ → Text} {records : List Receipt} {c : PublicationCheckpoint}

theorem settledFiles_receipt {n : ℕ} : settledFiles digest records (.receipt n) ≠ none ↔
    n ∈ List.range' 1 records.length := by
  rw [List.mem_range'_1]
  cases n with
  | zero => simp [settledFiles]
  | succ n =>
    simp [settledFiles]
    omega

/-- The end of an append. -/
theorem settledFiles_append : update (headedFiles digest records c) .transaction none =
    settledFiles digest (records ++ [recordOf digest records c]) := by
  funext name
  cases name with
  | head => simp [headedFiles, settledFiles, headOf_append, nextHead]
  | receipt n =>
    cases n with
    | zero => simp [headedFiles, receivedFiles, openedFiles, settledFiles]
    | succ n =>
      simp only [headedFiles, receivedFiles, openedFiles, settledFiles, ne_eq, reduceCtorEq, not_false_eq_true,
        update_of_ne]
      by_cases hn : n = records.length
      · simp [hn]
      · rw [update_of_ne (by simpa using hn), update_of_ne (by simp), settledFiles]
        rcases Nat.lt_or_gt_of_ne hn with hlt | hgt
        · rw [List.getElem?_append_left hlt]
        · rw [List.getElem?_eq_none hgt.le, List.getElem?_eq_none]
          simp
          omega
  | headNext | headNextStaged | transaction | transactionStaged | receiptStaged n =>
    simp [headedFiles, receivedFiles, openedFiles, settledFiles]

theorem Sound.append (h : Sound I digest records) (hc : Appendable I digest records c)
    (hdigest : ∀ payload, isSha256 (digest payload) = true) :
    Sound I digest (records ++ [recordOf digest records c]) := by
  refine ⟨h.chain.snoc hc hdigest, ?_, ?_⟩
  · rw [List.length_append]
    exact hc.short
  rw [headOf_append]
  rintro _ ⟨⟩
  exact hc.reads.head

end Files

/-! ## What is read -/

section Reads

variable {I : Interpreter} {digest : List ℕ → Text} {records : List Receipt} {c : PublicationCheckpoint}
  {faulty : Prop} {T : Shape → Prop} {β : Type} {w w' : JournalFiles} {Q : β → JournalFiles → Prop}
  {files : JournalName → Option (List ℕ)} {pair : Option (JournalName × JournalName)}

theorem runs_readHead {head : Option (ℕ × Text)} {f : Option ((ℕ × Text) × List ℕ) → JournalScript β}
    (hw : LooksLike w ⟨files, pair⟩) (hlinks : (⟨files, pair⟩ : Shape).links .head = 1)
    (hhead : files .head = head.map headPayload) (hok : HeadOk head)
    (hreads : ∀ h, head = some h → I.refuses (headPayload h) = false) (hT : Within T w)
    (h : RunsFrom faulty T (f (head.map fun head => (head, headPayload head))) w Q) :
    RunsFrom faulty T (readHead I >>= f) w Q := by
  rw [readHead, Script.bind_bind]
  refine runs_readControl hw hlinks hT ?_
  rw [hhead]
  cases head with
  | none => exact h
  | some head =>
    obtain ⟨hpos, hsha⟩ := hok head rfl
    have hobject : I.canonicalObject "receipt_head" (headPayload head) = .ok (sortedItems (headItems head)) :=
      Interpreter.canonicalObject_payload (writable_headDocument hsha) (hreads head rfl)
    rw [Option.map_some]
    dsimp only
    rw [Script.bind_bind]
    refine (runs_lift (Q := fun head' w' => head' = _ ∧ w' = w) hobject ⟨rfl, rfl⟩).bind ?_
    rintro _ w' ⟨rfl, rfl⟩
    rw [Script.bind_bind]
    refine (runs_lift (Q := fun head' w'' => head' = head ∧ w'' = w') (decodeHead_sortedItems hpos hsha)
      ⟨rfl, rfl⟩).bind ?_
    rintro _ _ ⟨rfl, rfl⟩
    exact h

/-- The receipts are files of one name, and their numbers are `1` to `k`, of eight digits. -/
structure Numbered (d : Shape) (k : ℕ) : Prop where
  short : k < 10 ^ 8
  numbers : ∀ n, d.files (.receipt n) ≠ none ↔ n ∈ List.range' 1 k
  links : ∀ n, d.links (.receipt n) = 1

theorem runs_checkReceiptPaths {numbers : List ℕ} {f : Unit → JournalScript β} (hw : LooksLike w ⟨files, pair⟩)
    (hnumbers : ∀ n ∈ numbers, files (.receipt n) ≠ none ∧ (⟨files, pair⟩ : Shape).links (.receipt n) = 1)
    (hT : Within T w) (h : RunsFrom faulty T (f ()) w Q) :
    RunsFrom faulty T (checkReceiptPaths numbers >>= f) w Q := by
  induction numbers with
  | nil => exact h
  | cons n numbers ih =>
    obtain ⟨⟨hfile, hlinks⟩, hrest⟩ := List.forall_mem_cons.1 hnumbers
    obtain ⟨x, hx⟩ := Option.ne_none_iff_exists'.1 hfile
    obtain ⟨i, _, hlstat⟩ := hw.lstat_some hx
    rw [hlinks] at hlstat
    rw [checkReceiptPaths, Script.bind_bind]
    refine (runs_attempt (Q := fun found w' => found = (i, JournalFiles.ownFile 1 x) ∧ w' = w) (by rintro _ _ ⟨⟩) hlstat
      hT hT ⟨rfl, rfl⟩).bind ?_
    rintro _ _ ⟨rfl, rfl⟩
    rw [Script.bind_bind]
    exact runs_blockIf (by simp [JournalFiles.ownFile]) (ih hrest)

theorem runs_receiptPaths {k : ℕ} {f : List ℕ → JournalScript β} (hw : LooksLike w ⟨files, pair⟩)
    (hk : Numbered ⟨files, pair⟩ k) (hT : Within T w) (h : RunsFrom faulty T (f (List.range' 1 k)) w Q) :
    RunsFrom faulty T (receiptPaths >>= f) w Q := by
  have hnumbers : w.numbers .receipt = List.range' 1 k :=
    hw.numbers_eq (fun _ => rfl) (List.pairwise_lt_range' 1)
      (fun n hn => by
        have := List.mem_range'_1.1 hn
        have := hk.short
        omega) hk.numbers
  rw [receiptPaths, Script.bind_bind]
  refine (runs_attempt (Q := fun numbers w' => numbers = List.range' 1 k ∧ w' = w) (by rintro _ _ ⟨⟩)
    (by rw [JournalFiles.run, hnumbers]) hT hT ⟨rfl, rfl⟩).bind ?_
  rintro _ _ ⟨rfl, rfl⟩
  rw [Script.bind_bind]
  refine runs_blockIf (by rw [List.length_range']; exact not_not.2 rfl) ?_
  rw [Script.bind_bind]
  exact runs_checkReceiptPaths hw (fun n hn => ⟨(hk.numbers n).2 hn, hk.links n⟩) hT h

theorem runs_stagedReceipts {numbers : List ℕ} {f : List ℕ → JournalScript β} (hw : LooksLike w ⟨files, pair⟩)
    (hnumbers : numbers.Pairwise (· < ·)) (hshort : ∀ n ∈ numbers, n < 10 ^ 8)
    (hfiles : ∀ n, files (.receiptStaged n) ≠ none ↔ n ∈ numbers)
    (hT : Within T w) (h : RunsFrom faulty T (f numbers) w Q) :
    RunsFrom faulty T (attempt .stagedReceipts >>= f) w Q := by
  have hfound : w.numbers .receiptStaged = numbers := hw.numbers_eq (fun _ => rfl) hnumbers hshort hfiles
  refine (runs_attempt (Q := fun numbers' w' => numbers' = numbers ∧ w' = w) (by rintro _ _ ⟨⟩)
    (by rw [JournalFiles.run, hfound]) hT hT ⟨rfl, rfl⟩).bind ?_
  rintro _ _ ⟨rfl, rfl⟩
  exact h

/-- Records are loaded of their receipts. -/
theorem runs_loadRecordChain {before rest all : List Receipt} {numbers : List ℕ} {f : List Receipt → JournalScript β}
    (hw : LooksLike w ⟨files, pair⟩) (hlinks : ∀ n, (⟨files, pair⟩ : Shape).links (.receipt n) = 1)
    (hfiles : List.Forall₂ (fun n r => files (.receipt n) = some r.2) numbers rest)
    (hload : I.loadRecordChain digest before (rest.map receiptFile) = .ok all) (hT : Within T w)
    (h : RunsFrom faulty T (f all) w Q) :
    RunsFrom faulty T (loadRecordChain I digest before numbers >>= f) w Q := by
  induction hfiles generalizing before with
  | nil =>
    obtain rfl := Except.ok.inj hload
    exact h
  | @cons n r numbers rest hfile _ ih =>
    have hread := hw.read hfile
    rw [hlinks] at hread
    obtain ⟨r', hnext, hload⟩ := bind_eq_ok.1 hload
    rw [loadRecordChain, Script.bind_bind]
    refine runs_guarded_same (by rintro _ _ ⟨⟩) hread hT ?_
    rw [Script.bind_bind]
    refine (runs_lift (Q := fun record w' => record = r' ∧ w' = w) hnext ⟨rfl, rfl⟩).bind ?_
    rintro _ _ ⟨rfl, rfl⟩
    exact ih hload

/-- The receipts of these records are there. -/
theorem forall₂_settled (h : ∀ n < records.length, files (.receipt (n + 1)) = settledFiles digest records (.receipt (n + 1))) :
    List.Forall₂ (fun n r => files (.receipt n) = some r.2) (List.range' 1 records.length) records := by
  rw [List.forall₂_iff_get]
  refine ⟨List.length_range', fun n hn hn' => ?_⟩
  rw [List.get_eq_getElem, List.getElem_range', one_mul, add_comm, h n hn', settledFiles,
    List.getElem?_eq_getElem hn']
  rfl

end Reads

/-! ## The receipt -/

section Receipts

variable {I : Interpreter} {digest : List ℕ → Text} {records : List Receipt} {c : PublicationCheckpoint}
  {faulty : Prop} {T : Shape → Prop} {β : Type} {w w' : JournalFiles} {d : Shape}

/-- What is recovered of the transaction. -/
def transactionOf (digest : List ℕ → Text) (records : List Receipt) (c : PublicationCheckpoint) : JournalTransaction :=
  ⟨headOf digest records, (headOf digest records).map headPayload, nextHead digest records c,
    headPayload (nextHead digest records c), (recordOf digest records c).1, (recordOf digest records c).2⟩

theorem receivedFiles_receipt (n : ℕ) : receivedFiles digest records c (.receipt n) =
    settledFiles digest (records ++ [recordOf digest records c]) (.receipt n) := by
  rw [← settledFiles_append, headedFiles, update_of_ne (by rintro ⟨⟩), update_of_ne (by rintro ⟨⟩)]

theorem receivedFiles_of_ne {n : ℕ} (hn : n ≠ records.length + 1) : receivedFiles digest records c (.receipt n) =
    settledFiles digest records (.receipt n) := by
  rw [receivedFiles, openedFiles, update_of_ne (by simpa using hn), update_of_ne (by rintro ⟨⟩)]

/-- The receipt of the append is not there, or is. -/
structure Receives (digest : List ℕ → Text) (records : List Receipt) (c : PublicationCheckpoint) (d : Shape) :
    Prop where
  receipts : (∀ n, d.files (.receipt n) = settledFiles digest records (.receipt n)) ∨
    ∀ n, d.files (.receipt n) = receivedFiles digest records c (.receipt n)
  links : ∀ n, d.links (.receipt n) = 1

theorem Receives.numbered (h : Receives digest records c d) (hshort : records.length + 1 < 10 ^ 8) :
    ∃ k, (k = records.length ∨ k = records.length + 1) ∧ Numbered d k := by
  rcases h.receipts with hfiles | hfiles
  · exact ⟨_, .inl rfl, (Nat.lt_succ_self _).trans hshort, fun n => by rw [hfiles]; exact settledFiles_receipt, h.links⟩
  · refine ⟨_, .inr rfl, hshort, fun n => ?_, h.links⟩
    rw [hfiles, receivedFiles_receipt, settledFiles_receipt, List.length_append, List.length_singleton]

/-- The receipts that were there before. -/
theorem Receives.before (h : Receives digest records c d) (n : ℕ) (hn : n < records.length) :
    d.files (.receipt (n + 1)) = settledFiles digest records (.receipt (n + 1)) := by
  rcases h.receipts with hfiles | hfiles
  · exact hfiles _
  · rw [hfiles, receivedFiles_of_ne]
    omega

/-- What is checked before the receipt is published. -/
theorem runs_recoverReceipt_checked {numbers : List ℕ} {Q : Unit → JournalFiles → Prop}
    (hsound : Sound I digest records) (hc : Appendable I digest records c) (hw : LooksLike w d)
    (hnumbers : numbers = [] ∨ numbers = [records.length + 1])
    (hstaged : ∀ n, d.files (.receiptStaged n) ≠ none ↔ n ∈ numbers) (hwithin : Within T w)
    (hcomplete : RunsFrom faulty T (completeLinkPublication (.receiptStaged (records.length + 1))
      (.receipt (records.length + 1)) "receipt_head_transaction_mismatch" "receipt_write_failed") w
        fun _ w' => ∃ d', Receives digest records c d' ∧ LooksLike w' d' ∧ Within T w' ∧
          RunsFrom faulty T (ensureTransactionBoundFile (.receiptStaged (records.length + 1))
            (.receipt (records.length + 1)) (recordOf digest records c).2 receiptCodes) w' Q) :
    RunsFrom faulty T (recoverReceipt I digest (transactionOf digest records c)) w Q := by
  have hsorted : numbers.Pairwise (· < ·) := by rcases hnumbers with rfl | rfl <;> simp
  have hshort : ∀ n ∈ numbers, n < 10 ^ 8 := by
    have := hc.short
    rcases hnumbers with rfl | rfl <;> simp
    omega
  refine runs_stagedReceipts hw hsorted hshort hstaged hwithin (runs_blockIf ?_ (hcomplete.bind ?_))
  · rw [not_and_or, not_not, not_not]
    exact hnumbers
  rintro _ w' ⟨d', hreceives, hw', hwithin', hensure⟩
  obtain ⟨k, hk, hnumbered⟩ := hreceives.numbered hc.short
  have hlength : (transactionOf digest records c).previousHead.elim 0 Prod.fst = records.length :=
    length_of_headOf records
  have htake : (List.range' 1 k).take records.length = List.range' 1 records.length := by
    exact List.take_range'_of_length_ge (by omega)
  refine runs_receiptPaths hw' hnumbered hwithin' (runs_blockIf ?_ ?_)
  · rw [hlength, List.length_range']
    change ¬ (k ≠ records.length ∧ k ≠ records.length + 1)
    omega
  rw [hlength, htake]
  refine runs_loadRecordChain hw' hreceives.links (forall₂_settled hreceives.before) hsound.chain hwithin' ?_
  refine (runs_lift (Q := fun _ w'' => w'' = w') (validateRecordsHead_headOf records) rfl).bind ?_
  rintro _ w₁ rfl
  refine (runs_lift (Q := fun _ w'' => w'' = w₁) hc.accepts_record rfl).bind ?_
  rintro _ w₂ rfl
  exact hensure

/-- The receipt is published, wherever that was interrupted. -/
theorem runs_recoverReceipt (hsound : Sound I digest records) (hc : Appendable I digest records c)
    (hw : LooksLike w d) (hd : BoundStage (openedFiles digest records c) (.receiptStaged (records.length + 1))
      (.receipt (records.length + 1)) (recordOf digest records c).2 d)
    (hT : ∀ d, Committed digest records c d → T d) :
    RunsFrom faulty T (recoverReceipt I digest (transactionOf digest records c)) w
      fun _ w' => LooksLike w' ⟨receivedFiles digest records c, none⟩ := by
  have hstaged : ∀ n, openedFiles digest records c (.receiptStaged n) = none := by simp [openedFiles, settledFiles]
  have hreceipt : openedFiles digest records c (.receipt (records.length + 1)) = none := by
    simp [openedFiles, settledFiles]
  have hreceives : ∀ d', BoundStage (openedFiles digest records c) (.receiptStaged (records.length + 1))
      (.receipt (records.length + 1)) (recordOf digest records c).2 d' → d'.twins = none →
        Receives digest records c d' := by
    intro d' hd' htwins
    cases hd' with
    | absent => exact ⟨.inl fun n => by simp [openedFiles], fun n => LooksLike.links_none _⟩
    | staged y => exact ⟨.inl fun n => by simp [openedFiles], fun n => LooksLike.links_none _⟩
    | published => exact ⟨.inr fun n => rfl, fun n => LooksLike.links_none _⟩
    | linked => cases htwins
  have hnumbers : ∃ numbers, (numbers = [] ∨ numbers = [records.length + 1]) ∧
      ∀ n, d.files (.receiptStaged n) ≠ none ↔ n ∈ numbers := by
    cases hd with
    | absent => exact ⟨[], .inl rfl, fun n => by simp [hstaged]⟩
    | published => exact ⟨[], .inl rfl, fun n => by simp [hstaged]⟩
    | staged y | linked =>
      refine ⟨[records.length + 1], .inr rfl, fun n => ?_⟩
      by_cases hn : n = records.length + 1
      · simp [hn]
      · simp [hn, hstaged]
  obtain ⟨numbers, hnumbers, hfiles⟩ := hnumbers
  refine runs_recoverReceipt_checked hsound hc hw hnumbers hfiles ⟨d, hT d (.receipt hd), hw⟩ ?_
  refine (runs_completeLinkPublication hw hd (hstaged _) hreceipt (by rintro ⟨⟩) fun d h => hT d (.receipt h)).mono ?_
  rintro _ w' ⟨d', hd', htwins, hw'⟩
  exact ⟨d', hreceives d' hd' htwins, hw', ⟨d', hT d' (.receipt hd'), hw'⟩, runs_ensureTransactionBoundFile hw' hd'
    (hstaged _) hreceipt (by rintro ⟨⟩) fun d h => hT d (.receipt h)⟩

/-- Nothing is done where the receipt is published. -/
theorem runs_recoverReceipt_same (hsound : Sound I digest records) (hc : Appendable I digest records c)
    (hw : LooksLike w d) (hreceipts : ∀ n, d.files (.receipt n) = receivedFiles digest records c (.receipt n))
    (hstaged : ∀ n, d.files (.receiptStaged n) = none) (hlinks : ∀ n, d.links (.receipt n) = 1)
    (hlinks' : ∀ n, d.links (.receiptStaged n) = 1) (hwithin : Within T w) :
    RunsFrom faulty T (recoverReceipt I digest (transactionOf digest records c)) w fun _ w' => w' = w := by
  refine runs_recoverReceipt_checked hsound hc hw (.inl rfl) (fun n => by simp [hstaged]) hwithin ?_
  rw [← Script.bind_pure (completeLinkPublication ..)]
  refine runs_completeLinkPublication_same hw (.inl (hstaged _)) hwithin ?_
  refine ⟨d, ⟨.inr hreceipts, hlinks⟩, hw, hwithin, ?_⟩
  refine runs_ensureTransactionBoundFile_same hw (hstaged _) ?_ (hlinks _) (hlinks' _) hwithin
  rw [hreceipts, receivedFiles, update_self]

end Receipts

/-! ## The head and the end of an append -/

section Ends

variable {I : Interpreter} {digest : List ℕ → Text} {records : List Receipt} {c : PublicationCheckpoint}
  {faulty : Prop} {T : Shape → Prop} {β : Type} {w w' : JournalFiles} {d : Shape}

theorem runs_installHead (hdigest : ∀ payload, isSha256 (digest payload) = true) (hsound : Sound I digest records)
    (hw : LooksLike w d) (hd : BoundStage (receivedFiles digest records c) .headNextStaged .headNext
      (headPayload (nextHead digest records c)) d) (hT : ∀ d, Committed digest records c d → T d) :
    RunsFrom faulty T (installHead I (headPayload (nextHead digest records c)) ((headOf digest records).map headPayload)) w
      fun _ w' => LooksLike w' ⟨headedFiles digest records c, none⟩ := by
  have hhead : receivedFiles digest records c .head = (headOf digest records).map headPayload := by
    simp [receivedFiles, openedFiles, settledFiles]
  have hother : ∀ {d}, BoundStage (receivedFiles digest records c) .headNextStaged .headNext
      (headPayload (nextHead digest records c)) d → d.files .head = (headOf digest records).map headPayload ∧
        d.links .head = 1 := by
    intro d hd
    obtain ⟨hfile, hlinks⟩ := hd.other .head (by rintro ⟨⟩) (by rintro ⟨⟩)
    exact ⟨hfile.trans hhead, hlinks⟩
  -- The head that is found is the one that the receipt was made behind.
  have hcurrent : ¬ ((headOf digest records).map fun head => (head, headPayload head)).map Prod.snd ≠
      (headOf digest records).map headPayload := by
    rw [Option.map_map]
    exact not_not.2 rfl
  have hwithin : ∀ {w d}, BoundStage (receivedFiles digest records c) .headNextStaged .headNext
      (headPayload (nextHead digest records c)) d → LooksLike w d → Within T w :=
    fun hd hw => ⟨_, hT _ (.head hd), hw⟩
  refine runs_readHead hw (hother hd).2 (hother hd).1 (headOk_headOf hdigest records) hsound.readsHead
    (hwithin hd hw) (runs_blockIf hcurrent ?_)
  refine (runs_ensureTransactionBoundFile hw hd (by simp [receivedFiles, openedFiles, settledFiles])
    (by simp [receivedFiles, openedFiles, settledFiles]) (by rintro ⟨⟩) fun d hd => hT d (.head hd)).bind ?_
  intro _ w₁ hw₁
  refine runs_readHead hw₁ (hother .published).2 (hother .published).1 (headOk_headOf hdigest records)
    hsound.readsHead (hwithin .published hw₁) (runs_blockIf hcurrent ?_)
  obtain ⟨w₂, hreplace, hw₂⟩ := hw₁.replace (b := .head) (update_self ..) (by rintro ⟨⟩)
  -- The new head takes the place of the old one, and its staged name is free again.
  have hheaded : update (update (update (receivedFiles digest records c) .headNext
      (some (headPayload (nextHead digest records c)))) .head (some (headPayload (nextHead digest records c))))
        .headNext none = headedFiles digest records c := by
    have hnext : headedFiles digest records c .headNext = none := by
      simp [headedFiles, receivedFiles, openedFiles, settledFiles]
    rw [update_comm (a := JournalName.headNext) (b := .head) (by rintro ⟨⟩), update_idem]
    change update (headedFiles digest records c) .headNext none = _
    rw [← hnext, update_eq_self]
  rw [hheaded] at hw₂
  have hwithin₂ : Within T w₂ := ⟨_, hT _ .replaced, hw₂⟩
  refine (runs_guarded (Q := fun _ w' => w' = w₂) (by rintro _ _ ⟨⟩) hreplace (hwithin .published hw₁) hwithin₂
    rfl).bind ?_
  rintro _ _ rfl
  exact runs_guarded (by rintro _ _ ⟨⟩) rfl hwithin₂ hwithin₂ hw₂

theorem runs_clearTransaction (hw : LooksLike w ⟨headedFiles digest records c, none⟩)
    (hT : ∀ d, Committed digest records c d → T d)
    (hsettled : T ⟨settledFiles digest (records ++ [recordOf digest records c]), none⟩) :
    RunsFrom faulty T (clearTransaction (transactionPayload digest records c)) w
      fun _ w' => LooksLike w' ⟨settledFiles digest (records ++ [recordOf digest records c]), none⟩ := by
  have htransaction : headedFiles digest records c .transaction = some (transactionPayload digest records c) := by
    simp [headedFiles, receivedFiles, openedFiles]
  have hwithin : Within T w := ⟨_, hT _ .replaced, hw⟩
  refine runs_readControl hw (LooksLike.links_none _) hwithin (runs_blockIf (not_not.2 htransaction) ?_)
  obtain ⟨w', hunlink, hw'⟩ := hw.unlink htransaction
  rw [settledFiles_append] at hw'
  have hwithin' : Within T w' := ⟨_, hsettled, hw'⟩
  refine (runs_guarded (Q := fun _ w'' => w'' = w') (by rintro _ _ ⟨⟩) hunlink hwithin hwithin' rfl).bind ?_
  rintro _ _ rfl
  exact runs_guarded (by rintro _ _ ⟨⟩) rfl hwithin' hwithin' hw'

/-- The head of the append is another one. -/
theorem headPayload_nextHead_ne (hdigest : ∀ payload, isSha256 (digest payload) = true) (hsound : Sound I digest records) :
    some (headPayload (nextHead digest records c)) ≠ (headOf digest records).map headPayload := by
  intro heq
  obtain ⟨head, hhead, hpayload⟩ := Option.map_eq_some_iff.1 heq.symm
  have hlength : head.1 = records.length := by
    have h : (headOf digest records).elim 0 Prod.fst = records.length := length_of_headOf records
    rwa [hhead] at h
  have hobject : I.canonicalObject "" (headPayload head) = .ok (sortedItems (headItems head)) :=
    Interpreter.canonicalObject_payload (writable_headDocument (headOk_headOf hdigest records head hhead).2) (hsound.readsHead head hhead)
  have hobject' : I.canonicalObject "" (headPayload (nextHead digest records c)) =
      .ok (sortedItems (headItems (nextHead digest records c))) :=
    Interpreter.canonicalObject_payload (writable_headDocument (hdigest _))
      (by change I.refuses (headPayload (nextHead digest records c)) = false
          rw [← hpayload]
          exact hsound.readsHead head hhead)
  have hitems : sortedItems (headItems head) = sortedItems (headItems (nextHead digest records c)) := by
    rw [hpayload] at hobject
    exact Except.ok.inj (hobject.symm.trans hobject')
  have hdecoded := decodeHead_sortedItems (headOk_headOf hdigest records head hhead).1
    (headOk_headOf hdigest records head hhead).2
  rw [hitems, decodeHead_sortedItems (Nat.succ_pos _) (hdigest _)] at hdecoded
  have hsucc : records.length + 1 = head.1 := congrArg Prod.fst (Except.ok.inj hdecoded)
  omega

/-- Where the head is the one of before, it is installed when the receipt is there. -/
theorem runs_finishDecoded_install (hdigest : ∀ payload, isSha256 (digest payload) = true)
    (hsound : Sound I digest records) (hw : LooksLike w d)
    (hhead : d.files .head = (headOf digest records).map headPayload) (hlinks : d.links .head = 1)
    (hwithin : Within T w) (hT : ∀ d, Committed digest records c d → T d)
    (hsettled : T ⟨settledFiles digest (records ++ [recordOf digest records c]), none⟩)
    (hreceipt : RunsFrom faulty T (recoverReceipt I digest (transactionOf digest records c)) w fun _ w' =>
      ∃ d', BoundStage (receivedFiles digest records c) .headNextStaged .headNext
        (headPayload (nextHead digest records c)) d' ∧ LooksLike w' d') :
    RunsFrom faulty T (finishDecoded I digest (transactionPayload digest records c) (transactionOf digest records c)) w
      fun _ w' => LooksLike w' ⟨settledFiles digest (records ++ [recordOf digest records c]), none⟩ := by
  have hcurrent : ((headOf digest records).map fun head => (head, headPayload head)).map Prod.snd =
      (headOf digest records).map headPayload := by
    rw [Option.map_map]
    rfl
  refine runs_readHead hw hlinks hhead (headOk_headOf hdigest records) hsound.readsHead hwithin ?_
  rw [hcurrent]
  refine runs_blockIf (fun h => h.1 rfl) (runs_blockIf (fun h => h.1 h.2) (hreceipt.bind ?_))
  rintro _ w' ⟨d', hd', hw'⟩
  refine runs_if_pos rfl ?_
  exact (runs_installHead hdigest hsound hw' hd' hT).bind fun _ w'' hw'' => runs_clearTransaction hw'' hT hsettled

/-- A transaction with its name is finished, from all that was interrupted behind it. -/
theorem runs_finishTransaction (hdigest : ∀ payload, isSha256 (digest payload) = true)
    (hsound : Sound I digest records) (hc : Appendable I digest records c) (hw : LooksLike w d)
    (hd : Committed digest records c d) (hopened : d.files .transactionStaged = none)
    (hT : ∀ d, Committed digest records c d → T d)
    (hsettled : T ⟨settledFiles digest (records ++ [recordOf digest records c]), none⟩) :
    RunsFrom faulty T (finishTransaction I digest (transactionPayload digest records c)) w
      fun _ w' => LooksLike w' ⟨settledFiles digest (records ++ [recordOf digest records c]), none⟩ := by
  have hwithin : Within T w := ⟨d, hT d hd, hw⟩
  refine (runs_lift (Q := fun t w' => t = transactionOf digest records c ∧ w' = w) (hc.decodeTransaction hdigest)
    ⟨rfl, rfl⟩).bind ?_
  rintro _ w ⟨rfl, rfl⟩
  -- By how far the interrupted append came behind its transaction.
  cases hd with
  | linked => simp at hopened
  | receipt hd =>
    obtain ⟨hhead, hlinks⟩ := hd.other .head (by rintro ⟨⟩) (by rintro ⟨⟩)
    refine runs_finishDecoded_install hdigest hsound hw (hhead.trans (by simp [openedFiles, settledFiles])) hlinks
      hwithin hT hsettled ?_
    exact (runs_recoverReceipt hsound hc hw hd hT).mono fun _ w' hw' => ⟨_, .absent, hw'⟩
  -- The receipt is there already, and is found to be the same.
  | head hd =>
    have hother : ∀ name, name ≠ .headNextStaged → name ≠ .headNext →
        d.files name = receivedFiles digest records c name ∧ d.links name = 1 := fun name => hd.other name
    obtain ⟨hhead, hlinks⟩ := hother .head (by rintro ⟨⟩) (by rintro ⟨⟩)
    refine runs_finishDecoded_install hdigest hsound hw
      (hhead.trans (by simp [receivedFiles, openedFiles, settledFiles])) hlinks hwithin hT hsettled ?_
    refine (runs_recoverReceipt_same hsound hc hw (fun n => (hother _ (by rintro ⟨⟩) (by rintro ⟨⟩)).1) (fun n => ?_)
      (fun n => (hother _ (by rintro ⟨⟩) (by rintro ⟨⟩)).2) (fun n => (hother _ (by rintro ⟨⟩) (by rintro ⟨⟩)).2)
      hwithin).mono ?_
    · rw [(hother _ (by rintro ⟨⟩) (by rintro ⟨⟩)).1]
      simp [receivedFiles, openedFiles, settledFiles]
    · rintro _ _ rfl
      exact ⟨d, hd, hw⟩
  -- The head is the new one: only the transaction is left to be cleared.
  | replaced =>
    have hlinks : ∀ name, (⟨headedFiles digest records c, none⟩ : Shape).links name = 1 := LooksLike.links_none
    have hhead : headedFiles digest records c .head = (some (nextHead digest records c)).map headPayload := by
      simp [headedFiles]
    refine runs_readHead hw (hlinks _) hhead ?_ ?_ hwithin ?_
    · rintro _ ⟨⟩
      exact ⟨Nat.succ_pos _, hdigest _⟩
    · rintro _ ⟨⟩
      exact hc.reads.head
    refine runs_blockIf (fun h => h.2 rfl) (runs_blockIf (fun h => by cases h.2) ?_)
    refine (runs_recoverReceipt_same hsound hc hw (fun n => by simp [headedFiles]) (fun n => ?_) (fun n => hlinks _)
      (fun n => hlinks _) hwithin).bind ?_
    · simp [headedFiles, receivedFiles, openedFiles, settledFiles]
    rintro _ _ rfl
    refine runs_if_neg (headPayload_nextHead_ne hdigest hsound) ?_
    refine runs_readControl hw (hlinks _) hwithin (runs_blockIf ?_ ?_)
    · simp [headedFiles, receivedFiles, openedFiles, settledFiles]
    refine runs_readControl hw (hlinks _) hwithin (runs_blockIf ?_ ?_)
    · simp [headedFiles, receivedFiles, openedFiles, settledFiles]
    exact runs_clearTransaction hw hT hsettled

end Ends

/-! ## Recovery -/

section Recovery

variable {I : Interpreter} {digest : List ℕ → Text} {records : List Receipt} {c : PublicationCheckpoint}
  {faulty : Prop} {T : Shape → Prop} {w : JournalFiles} {d : Shape}

theorem runs_demandNoTransaction (hw : LooksLike w ⟨settledFiles digest records, none⟩) (hwithin : Within T w) :
    RunsFrom faulty T demandNoTransaction w fun _ w' => w' = w := by
  refine runs_readControl hw (LooksLike.links_none _) hwithin (runs_blockIf (by simp [settledFiles]) ?_)
  refine runs_readControl hw (LooksLike.links_none _) hwithin (runs_blockIf (by simp [settledFiles]) ?_)
  refine runs_stagedReceipts hw .nil (by simp) (fun n => by simp [settledFiles]) hwithin ?_
  exact runs_lift (a := ()) rfl rfl

theorem runs_recoverTransactionStaging_same {f : Unit → JournalScript Unit} {Q : Unit → JournalFiles → Prop}
    (hw : LooksLike w d) (hstaged : d.files .transactionStaged = none) (hlinks : d.links .transactionStaged = 1)
    (hwithin : Within T w) (h : RunsFrom faulty T (f ()) w Q) :
    RunsFrom faulty T (recoverTransactionStaging >>= f) w Q := by
  rw [recoverTransactionStaging, Script.bind_bind]
  refine runs_completeLinkPublication_same hw (.inl hstaged) hwithin ?_
  rw [Script.bind_bind]
  refine runs_readControl hw hlinks hwithin ?_
  rw [hstaged]
  exact h

/-- A transaction without its name is taken away. -/
theorem runs_recoverTransactionStaging_staged {y : List ℕ}
    (hw : LooksLike w ⟨update (settledFiles digest records) .transactionStaged (some y), none⟩)
    (hstaged : T ⟨update (settledFiles digest records) .transactionStaged (some y), none⟩)
    (hsettled : T ⟨settledFiles digest records, none⟩) :
    RunsFrom faulty T recoverTransactionStaging w
      fun _ w' => LooksLike w' ⟨settledFiles digest records, none⟩ := by
  have hwithin : Within T w := ⟨_, hstaged, hw⟩
  have hmissing : update (settledFiles digest records) .transactionStaged (some y) .transaction = none := by
    simp [settledFiles]
  refine runs_completeLinkPublication_same hw (.inr hmissing) hwithin ?_
  refine runs_readControl hw (LooksLike.links_none _) hwithin ?_
  rw [update_self]
  refine runs_readControl hw (LooksLike.links_none _) hwithin (runs_blockIf (not_not.2 hmissing) ?_)
  have hunlink : RunsFrom faulty T (unlinkFile .transactionStaged "receipt_head_write_failed") w fun _ w' =>
      LooksLike w' ⟨update (update (settledFiles digest records) .transactionStaged (some y)) .transactionStaged none, none⟩ :=
    runs_unlinkFile hw (update_self ..) hstaged (by rwa [update_unstaged rfl])
  rwa [update_unstaged rfl] at hunlink

/-- A recovery ends in the journal with the same records. -/
theorem runs_recoverTransaction (hdigest : ∀ payload, isSha256 (digest payload) = true) (hw : LooksLike w d)
    (hd : Stands I digest records d) (hT : ∀ d, Stands I digest records d → T d) :
    RunsFrom faulty T (recoverTransaction I digest) w
      fun _ w' => LooksLike w' ⟨settledFiles digest records, none⟩ := by
  have hsettled := hT _ .settled
  have hnone : ∀ {w} {f : Option (List ℕ) → JournalScript Unit}, f none = demandNoTransaction →
      LooksLike w ⟨settledFiles digest records, none⟩ → RunsFrom faulty T (readControl .transaction >>= f) w
        fun _ w' => LooksLike w' ⟨settledFiles digest records, none⟩ := by
    intro w f hf hw
    have hwithin : Within T w := ⟨_, hsettled, hw⟩
    refine runs_readControl hw (LooksLike.links_none _) hwithin ?_
    rw [show settledFiles digest records .transaction = none by simp [settledFiles], hf]
    refine (runs_demandNoTransaction hw hwithin).mono ?_
    rintro _ _ rfl
    exact hw
  cases hd with
  | settled =>
    exact runs_recoverTransactionStaging_same hw rfl (LooksLike.links_none _) ⟨_, hsettled, hw⟩ (hnone rfl hw)
  | staged hc hy =>
    refine (runs_recoverTransactionStaging_staged hw (hT _ (.staged hc hy)) hsettled).bind ?_
    exact fun _ w' hw' => hnone rfl hw'
  | @committed before c d hbefore hc hrecords hd =>
    subst hrecords
    have hcommitted : ∀ d, Committed digest before c d → T d := fun d hd => hT d (.committed hbefore hc rfl hd)
    -- From here on the transaction has one name.
    have hfinish : ∀ {w d} {f : Option (List ℕ) → JournalScript Unit},
        (∀ payload, f (some payload) = finishTransaction I digest payload) → LooksLike w d → Committed digest before c d → d.files .transactionStaged = none →
        d.files .transaction = some (transactionPayload digest before c) → d.links .transaction = 1 →
        RunsFrom faulty T (readControl .transaction >>= f) w
          fun _ w' => LooksLike w' ⟨settledFiles digest (before ++ [recordOf digest before c]), none⟩ := by
      intro w d f hf hw hd hstaged htransaction hlinks
      refine runs_readControl hw hlinks ⟨d, hcommitted d hd, hw⟩ ?_
      rw [htransaction, hf]
      exact runs_finishTransaction hdigest hbefore hc hw hd hstaged hcommitted hsettled
    have hsame : Committed digest before c d → d.files .transactionStaged = none → d.links .transactionStaged = 1 →
        d.files .transaction = some (transactionPayload digest before c) → d.links .transaction = 1 →
        RunsFrom faulty T (recoverTransaction I digest) w
          fun _ w' => LooksLike w' ⟨settledFiles digest (before ++ [recordOf digest before c]), none⟩ :=
      fun hd hstaged hlinks htransaction hlinks' => runs_recoverTransactionStaging_same hw hstaged hlinks
        ⟨d, hcommitted d hd, hw⟩ (hfinish (fun _ => rfl) hw hd hstaged htransaction hlinks')
    cases hd with
    | linked =>
      have hpublished : Committed digest before c ⟨openedFiles digest before c, none⟩ := .receipt .absent
      rw [recoverTransaction, recoverTransactionStaging, Script.bind_bind]
      refine (runs_completeLinkPublication_linked hw rfl (by rintro ⟨⟩) (hcommitted _ .linked)
        (hcommitted _ hpublished)).bind fun _ w' hw' => ?_
      have hstaged : openedFiles digest before c .transactionStaged = none := by simp [openedFiles, settledFiles]
      rw [Script.bind_bind]
      refine runs_readControl hw' (LooksLike.links_none _) ⟨_, hcommitted _ hpublished, hw'⟩ ?_
      rw [← openedFiles, hstaged]
      exact hfinish (fun _ => rfl) hw' hpublished hstaged (by simp) (LooksLike.links_none _)
    | receipt hd =>
      obtain ⟨hstaged, hlinks⟩ := hd.other .transactionStaged (by rintro ⟨⟩) (by rintro ⟨⟩)
      obtain ⟨htransaction, hlinks'⟩ := hd.other .transaction (by rintro ⟨⟩) (by rintro ⟨⟩)
      exact hsame (.receipt hd) (hstaged.trans (by simp [openedFiles, settledFiles])) hlinks
        (htransaction.trans (by simp [openedFiles])) hlinks'
    | head hd =>
      obtain ⟨hstaged, hlinks⟩ := hd.other .transactionStaged (by rintro ⟨⟩) (by rintro ⟨⟩)
      obtain ⟨htransaction, hlinks'⟩ := hd.other .transaction (by rintro ⟨⟩) (by rintro ⟨⟩)
      exact hsame (.head hd) (hstaged.trans (by simp [receivedFiles, openedFiles, settledFiles])) hlinks
        (htransaction.trans (by simp [receivedFiles, openedFiles])) hlinks'
    | replaced =>
      exact hsame .replaced (by simp [headedFiles, receivedFiles, openedFiles, settledFiles])
        (LooksLike.links_none _) (by simp [headedFiles, receivedFiles, openedFiles]) (LooksLike.links_none _)

/-- A load returns the records. -/
theorem runs_loadAll (hdigest : ∀ payload, isSha256 (digest payload) = true) (hsound : Sound I digest records)
    (hw : LooksLike w d) (hd : Stands I digest records d) (hT : ∀ d, Stands I digest records d → T d) :
    RunsFrom faulty T (loadAll I digest) w
      fun loaded w' => loaded = records ∧ LooksLike w' ⟨settledFiles digest records, none⟩ := by
  refine (runs_recoverTransaction hdigest hw hd hT).bind fun _ w' hw' => ?_
  have hwithin : Within T w' := ⟨_, hT _ .settled, hw'⟩
  have hlinks : ∀ n, (⟨settledFiles digest records, none⟩ : Shape).links (.receipt n) = 1 :=
    fun n => LooksLike.links_none _
  refine runs_receiptPaths hw' ⟨hsound.short, fun n => settledFiles_receipt, hlinks⟩ hwithin ?_
  refine runs_loadRecordChain hw' hlinks (forall₂_settled fun _ _ => rfl) hsound.chain hwithin ?_
  refine runs_readHead hw' (LooksLike.links_none _) rfl (headOk_headOf hdigest records) hsound.readsHead hwithin ?_
  refine (runs_lift (a := ()) (Q := fun _ w'' => w'' = w') ?_ rfl).bind ?_
  · rw [Option.map_map]
    change Interpreter.validateRecordsHead digest records ((headOf digest records).map id) = .ok ()
    rw [Option.map_id, id, validateRecordsHead_headOf]
  · rintro _ w'' rfl
    exact runs_pure ⟨rfl, hw'⟩

/-! ## Appends -/

theorem canonicalJsonBytes_head {head : ℕ × Text} (hsha : isSha256 head.2 = true) :
    canonicalJsonBytes (headDocument head) = .ok (headPayload head) :=
  canonicalJsonBytes_writable (writable_headDocument hsha)

/-- The transaction is written, and gets its name. -/
theorem runs_publishTransaction (hsound : Sound I digest records) (hc : Appendable I digest records c)
    (hw : LooksLike w ⟨settledFiles digest records, none⟩) (hT : ∀ d, Stands I digest records d → T d)
    (hT' : ∀ d, Stands I digest (records ++ [recordOf digest records c]) d → T d) :
    RunsFrom faulty T (publishTransaction (transactionPayload digest records c)) w
      fun _ w' => LooksLike w' ⟨openedFiles digest records c, none⟩ := by
  have hwithin : Within T w := ⟨_, hT _ .settled, hw⟩
  have hstage : ∀ d, BoundStage (settledFiles digest records) .transactionStaged .transaction
      (transactionPayload digest records c) d → T d := by
    intro d hd
    cases hd with
    | absent => exact hT _ .settled
    | staged y hy => exact hT _ (.staged hc hy)
    | linked => exact hT' _ (.committed hsound hc rfl .linked)
    | published => exact hT' _ (.committed hsound hc rfl (.receipt .absent))
  refine runs_readControl hw (LooksLike.links_none _) hwithin (runs_blockIf (by simp [settledFiles]) ?_)
  refine runs_readControl hw (LooksLike.links_none _) hwithin (runs_blockIf (by simp [settledFiles]) ?_)
  refine (runs_writeStagedFile hw rfl (hstage _ .absent) fun y hy => hstage _ (.staged y hy)).bind fun _ w' hw' => ?_
  exact runs_publishStagedNoReplace hw' rfl rfl (by rintro ⟨⟩) hstage

theorem runs_publish (hdigest : ∀ payload, isSha256 (digest payload) = true) (hsound : Sound I digest records)
    (hc : Appendable I digest records c) (hw : LooksLike w ⟨settledFiles digest records, none⟩)
    (hT : ∀ d, Stands I digest records d → T d)
    (hT' : ∀ d, Stands I digest (records ++ [recordOf digest records c]) d → T d) :
    RunsFrom faulty T (publish I digest records (List.range' 1 records.length) c) w
      fun _ w' => LooksLike w' ⟨settledFiles digest (records ++ [recordOf digest records c]), none⟩ := by
  have hcommitted : ∀ d, Committed digest records c d → T d := fun d hd => hT' d (.committed hsound hc rfl hd)
  -- What is appended can be written, so that no call fails for its text.
  have hreceipt : canonicalJsonBytes (appended digest records c).snapshot = .ok (recordOf digest records c).2 :=
    canonicalJsonBytes_writable (hc.writable hdigest)
  have htransaction : canonicalJsonBytes (transactionDocument (headOf digest records)
      (records.length + 1, digest (recordOf digest records c).2) (appended digest records c).snapshot) =
        .ok (transactionPayload digest records c) :=
    canonicalJsonBytes_writable (writable_transactionDocument (headOk_headOf hdigest records) (hdigest _)
      (hc.writable hdigest))
  rw [publish]
  refine (runs_lift (Q := fun payload w' => payload = (recordOf digest records c).2 ∧ w' = w) hreceipt
    ⟨rfl, rfl⟩).bind ?_
  rintro payload w ⟨hpayload, rfl⟩
  rw [hpayload]
  refine (runs_lift (Q := fun payload w' => payload = transactionPayload digest records c ∧ w' = w) htransaction
    ⟨rfl, rfl⟩).bind ?_
  rintro payload w ⟨hpayload, rfl⟩
  rw [hpayload]
  -- The transaction gets its name first: from there on the append is bound to be finished.
  refine (runs_publishTransaction hsound hc hw hT hT').bind fun _ w₁ hw₁ => ?_
  rw [List.length_range']
  refine (runs_ensureTransactionBoundFile hw₁ .absent (by simp [openedFiles, settledFiles])
    (by simp [openedFiles, settledFiles]) (by rintro ⟨⟩) fun d h => hcommitted d (.receipt h)).bind fun _ w₂ hw₂ => ?_
  have hprevious : (headOf digest records).mapM (fun head => canonicalJsonBytes (headDocument head)) =
      .ok ((headOf digest records).map headPayload) := by
    cases hhead : headOf digest records with
    | none => rfl
    | some head =>
      rw [Option.mapM_some, canonicalJsonBytes_head (headOk_headOf hdigest records head hhead).2]
      rfl
  refine (runs_lift (Q := fun payload w' => payload = (headOf digest records).map headPayload ∧ w' = w₂) hprevious
    ⟨rfl, rfl⟩).bind ?_
  rintro _ w₂ ⟨rfl, rfl⟩
  refine (runs_lift (Q := fun payload w' => payload = headPayload (nextHead digest records c) ∧ w' = w₂)
    (canonicalJsonBytes_head (hdigest _)) ⟨rfl, rfl⟩).bind ?_
  rintro _ w₂ ⟨rfl, rfl⟩
  refine (runs_installHead hdigest hsound hw₂ .absent hcommitted).bind fun _ w₃ hw₃ => ?_
  exact runs_clearTransaction hw₃ hcommitted (hT' _ .settled)

/-- An append goes from the one journal to the other. -/
theorem runs_append (hdigest : ∀ payload, isSha256 (digest payload) = true) (hsound : Sound I digest records)
    (hc : Appendable I digest records c) (hw : LooksLike w d) (hd : Stands I digest records d)
    (hT : ∀ d, Stands I digest records d → T d)
    (hT' : ∀ d, Stands I digest (records ++ [recordOf digest records c]) d → T d) :
    RunsFrom faulty T (append I digest c) w
      fun _ w' => LooksLike w' ⟨settledFiles digest (records ++ [recordOf digest records c]), none⟩ := by
  refine (runs_loadAll hdigest hsound hw hd hT).bind ?_
  rintro _ w' ⟨rfl, hw'⟩
  refine runs_receiptPaths hw' ⟨hsound.short, fun n => settledFiles_receipt, fun n => LooksLike.links_none _⟩ ⟨_, hT _ .settled, hw'⟩ ?_
  refine (runs_lift (Q := fun _ w'' => w'' = w') hc.accepts rfl).bind ?_
  rintro _ w' rfl
  exact runs_publish hdigest hsound hc hw' hT hT'

end Recovery

end FileReceiptJournal

end Subgen

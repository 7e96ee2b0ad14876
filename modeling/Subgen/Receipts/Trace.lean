import Subgen.Receipts.Refinement

/-!
# The trace of the receipts

The receipts of a coordinator of a gate, over all of its operations in any order, with any arguments
and with anything found outside.

* `sound_receiptsAfter`: the ledger of the receipts is one that is reached, whatever was called;
* `receiptsBehind_of_failed`: behind a failure, nothing is appended;
* `receipts_trace`: the receipts obey the law of the trace, what is public agrees with the last one, an
  operation that raises changes neither, and behind an append that fails there is no other one.
-/

namespace Subgen

open Procedure RuntimeReceipts

/-- A coordinator behind some operations, each with what it finds outside. -/
def receiptsBehind (config : ReceiptConfig) (s : RuntimeReceipts) (calls : List (ReceiptWorld × ReceiptCall)) :
    RuntimeReceipts :=
  calls.foldl (fun s c => after (c.2.run c.1 config) s) s

/-- A new coordinator behind some operations. -/
def receiptsAfter (config : ReceiptConfig) (calls : List (ReceiptWorld × ReceiptCall)) : RuntimeReceipts :=
  receiptsBehind config .new calls

variable {world : ReceiptWorld} {config : ReceiptConfig} {gate : GateConfig} {s : RuntimeReceipts}

theorem receiptsBehind_concat (calls : List (ReceiptWorld × ReceiptCall)) (c : ReceiptWorld × ReceiptCall) :
    receiptsBehind config s (calls ++ [c]) = after (c.2.run c.1 config) (receiptsBehind config s calls) := by
  rw [receiptsBehind, List.foldl_append]
  rfl

theorem receiptsAfter_append (calls rest : List (ReceiptWorld × ReceiptCall)) :
    receiptsAfter config (calls ++ rest) = receiptsBehind config (receiptsAfter config calls) rest := by
  rw [receiptsAfter, receiptsBehind, List.foldl_append]
  rfl

/-- By the operations: the ledger is reached, whatever was called and found outside. -/
theorem sound_receiptsAfter (hgate : config.gate = some gate) (calls : List (ReceiptWorld × ReceiptCall)) :
    Sound gate (receiptsAfter config calls) := by
  induction calls using List.reverseRecOn with
  | nil => exact sound_new gate
  | append_singleton calls c ih =>
    rw [receiptsAfter, receiptsBehind_concat]
    exact ih.after hgate c.2

/-! ## What is public -/

/-- The last receipt says what the ledger knows. -/
theorem ReceiptLedger.Reached.last {L : ReceiptLedger} {r : RuntimeReceipt} (h : ReceiptLedger.Reached gate L)
    (hr : L.receipts.getLast? = some r) :
    L.active = r.active ∧ L.chunk = r.chunkUncommitted ∧ L.generation = r.completionGeneration := by
  rcases h with _ | ⟨h, hx⟩
  · cases hr
  · rw [ReceiptLedger.publish, List.getLast?_concat] at hr
    obtain rfl := Option.some.inj hr
    exact ⟨rfl, rfl, rfl⟩

theorem Sound.chunk (h : Sound gate s) : (s.active && s.chunkUncommitted) = s.chunkUncommitted := by
  by_cases hactive : s.active
  · rw [hactive, Bool.true_and]
  · rw [h.idle (Bool.eq_false_iff.2 hactive), Bool.and_false]

theorem Sound.workloadSnapshot (hgate : config.gate = some gate) (h : Sound gate s) {r : RuntimeReceipt}
    (hr : s.receipts.getLast? = some r) :
    s.workloadSnapshot config = ⟨r.active, r.chunkUncommitted, r.completionGeneration⟩ := by
  obtain ⟨hactive, hchunk, hgeneration⟩ := h.reached.last hr
  rw [RuntimeReceipts.workloadSnapshot, if_pos (by rw [hgate, Option.isSome_some]), h.chunk, ← hactive,
    ← hchunk, ← hgeneration]
  rfl

theorem workloadSnapshot_of_unchanged (hgate : config.gate = some gate) {s' : RuntimeReceipts}
    (h : Unchanged s s') : s'.workloadSnapshot config = s.workloadSnapshot config := by
  have hsome : config.gate.isSome = true := by rw [hgate, Option.isSome_some]
  have hactive : s'.active = s.active := congrArg ReceiptLedger.active h.1
  have hchunk : s'.chunkUncommitted = s.chunkUncommitted := congrArg ReceiptLedger.chunk h.1
  have hgeneration : s'.completionGeneration = s.completionGeneration := congrArg ReceiptLedger.generation h.1
  rw [RuntimeReceipts.workloadSnapshot, RuntimeReceipts.workloadSnapshot, if_pos hsome, if_pos hsome, hactive,
    hchunk, hgeneration]

/-! ## An append that fails -/

/-- A journal that does not take a receipt closes the coordinator for receipts. -/
theorem failed_of_append {r : RuntimeReceipt} {line : Text} {e : ReceiptError} (hline : r.line config gate = some line)
    (hlength : line.length ≤ SecureJournal.maxReceiptBytes)
    (hfails : s.journal.append world line.length = .error e) :
    appendReceipt world config gate r s = .error e { s with failed := true } := by
  rw [appendReceipt, hline]
  dsimp only
  rw [run_bind_of_ok (a := s) (m := get) rfl, if_neg (not_lt.2 hlength), hfails]
  rfl

/-- Behind a failure, an operation raises at its start. -/
theorem ensures_requireOpen_of_failed (hfailed : s.failed = true) :
    Ensures requireOpen s (fun _ _ => False) (fun _ s' => s' = s) := by
  rw [requireOpen, ensures_bind, ensures_get, ensures_ite]
  refine ⟨fun _ => rfl, fun _ => ?_⟩
  rw [ensures_ite]
  exact ⟨fun _ => rfl, fun hnot => hnot hfailed⟩

theorem ensures_bind_of_failed {α β : Type} {m : ReceiptM α} {f : α → ReceiptM β}
    (h : Ensures m s (fun _ _ => False) (fun _ s' => s' = s)) :
    Ensures (m >>= f) s (fun _ _ => False) (fun _ s' => s' = s) :=
  ensures_bind.2 (h.mono (fun _ _ hnot => hnot.elim) fun _ _ hs => hs)

theorem ensures_requireInitialized_of_failed (hfailed : s.failed = true) :
    Ensures (requireInitialized config) s (fun _ _ => False) (fun _ s' => s' = s) :=
  ensures_bind_of_failed (ensures_requireOpen_of_failed hfailed)

theorem ensures_run_of_failed (hfailed : s.failed = true) (call : ReceiptCall) :
    Ensures (call.run world config) s (fun _ s' => s'.failed = true ∧ s'.receipts = s.receipts)
      (fun _ s' => s' = s) := by
  have hopen := ensures_requireOpen_of_failed hfailed
  have hinitialized : Ensures (requireInitialized config) s (fun _ _ => False) (fun _ s' => s' = s) :=
    ensures_requireInitialized_of_failed hfailed
  cases call with
  | initializeWith => exact (ensures_bind_of_failed hopen).mono (fun _ _ hnot => hnot.elim) fun _ _ hs => hs
  | recordRuntimeChange =>
    exact (ensures_bind_of_failed hinitialized).mono (fun _ _ hnot => hnot.elim) fun _ _ hs => hs
  | bindWorkload =>
    exact ensures_map.2 <|
      (ensures_bind_of_failed hinitialized).mono (fun _ _ hnot => hnot.elim) fun _ _ hs => hs
  | recordChunk =>
    exact ensures_map.2 <|
      (ensures_bind_of_failed hinitialized).mono (fun _ _ hnot => hnot.elim) fun _ _ hs => hs
  | abortWorkload =>
    exact (ensures_bind_of_failed hinitialized).mono (fun _ _ hnot => hnot.elim) fun _ _ hs => hs
  | completeWorkload =>
    exact ensures_map.2 <|
      (ensures_bind_of_failed hinitialized).mono (fun _ _ hnot => hnot.elim) fun _ _ hs => hs
  | close =>
    change Ensures (closeReceipts world config) s _ _
    rw [closeReceipts, ensures_bind, ensures_get, ensures_ite]
    refine ⟨fun _ => ⟨hfailed, rfl⟩, fun _ => ?_⟩
    rw [ensures_ite]
    refine ⟨fun _ => ?_, fun _ => ⟨hfailed, rfl⟩⟩
    rw [ensures_bind, ensures_ofExcept]
    exact ⟨fun _ _ => ⟨hfailed, rfl⟩, fun _ _ => rfl⟩

/-- No receipt follows a failure. -/
theorem receiptsBehind_of_failed (hfailed : s.failed = true) (rest : List (ReceiptWorld × ReceiptCall)) :
    (receiptsBehind config s rest).failed = true ∧ (receiptsBehind config s rest).receipts = s.receipts := by
  induction rest using List.reverseRecOn with
  | nil => exact ⟨hfailed, rfl⟩
  | append_singleton rest c ih =>
    obtain ⟨hfailed', hreceipts⟩ := ih
    rw [receiptsBehind_concat, ← hreceipts]
    refine ensures_iff_after.1 ((ensures_run_of_failed hfailed' c.2).mono (fun _ _ hs => hs) ?_)
    rintro _ s' rfl
    exact ⟨hfailed', rfl⟩

/-! ## The trace -/

/-- Whatever the operations of a coordinator of a gate are, and whatever they find outside: the receipts
    that were appended obey the law of the trace; what is public of the workload agrees with the last
    one; an operation that raises changes neither; an append that the journal does not take raises what
    the journal raises, and whatever is called behind it, there is no other receipt. -/
theorem receipts_trace (epoch : Text) (gate : GateConfig) (calls : List (ReceiptWorld × ReceiptCall)) :
    let config : ReceiptConfig := ⟨epoch, some gate⟩
    let s := receiptsAfter config calls
    TraceLaw gate s.receipts ∧
      (∀ r, s.receipts.getLast? = some r →
        s.workloadSnapshot config = ⟨r.active, r.chunkUncommitted, r.completionGeneration⟩) ∧
      (∀ world call e s', ReceiptCall.run world config call s = .error e s' →
        s'.workloadSnapshot config = s.workloadSnapshot config ∧ s'.receipts = s.receipts) ∧
      (∀ world r line e, r.line config gate = some line → line.length ≤ SecureJournal.maxReceiptBytes →
        s.journal.append world line.length = .error e →
        ∃ s', appendReceipt world config gate r s = .error e s' ∧
          ∀ rest, (receiptsBehind config s' rest).receipts = s.receipts) ∧
      (s.failed = true → ∀ rest, (receiptsAfter config (calls ++ rest)).receipts = s.receipts) := by
  intro config s
  have hgate : config.gate = some gate := rfl
  have hsound : Sound gate s := sound_receiptsAfter hgate calls
  refine ⟨hsound.reached.law, fun r hr => hsound.workloadSnapshot hgate hr, ?_, ?_, fun hfailed rest => ?_⟩
  · -- What raises keeps the ledger: at most it gives up the journal.
    intro world call e s' hraises
    have hrun : Ensures (call.run world config) s (fun _ => Sound gate) (fun _ => Unchanged s) :=
      ensures_run hgate hsound call
    have hunchanged : Unchanged s s' := (ensures_of_error hraises).1 hrun
    exact ⟨workloadSnapshot_of_unchanged hgate hunchanged, congrArg ReceiptLedger.receipts hunchanged.1⟩
  · intro world r line e hline hlength hfails
    exact ⟨_, failed_of_append hline hlength hfails, fun rest => (receiptsBehind_of_failed rfl rest).2⟩
  · rw [receiptsAfter_append]
    exact (receiptsBehind_of_failed hfailed rest).2

section Example

/-- A gate with two workloads. -/
def gateOfTwo : GateConfig where
  gateTokenSha256 := List.replicate 64 97
  phaseAWorkloadSha256 := List.replicate 64 98
  phaseBWorkloadSha256 := List.replicate 64 99
  token_hex := by decide
  phaseA_hex := by decide
  phaseB_hex := by decide
  distinct := by decide

/-- The state of an idle controller. -/
def idleState : RuntimeState where
  lastAccepted := none
  transitionObservationDigest := none
  transitionSequence := 0
  priorityState := text "clear"
  controllerPhase := text "normal"
  recoveryReason := none
  admissionOpen := true
  distinctClearCount := 0
  modelResident := false
  modelIdentitySha256 := none
  modelLoadGeneration := 0
  modelUnloadGeneration := 0
  cudaOomGeneration := 0
  mediaFailureGeneration := 0

/-- The clock stands still, and the journal takes so many bytes. -/
def stoppedClock (written : ℕ) : ReceiptWorld := ⟨.ok (.int 7), some true, some written, true, true⟩

/-- The first workload is bound and completed. The last append is a partial write. -/
example :
    let state := some (.object idleState.items)
    let workload := .str gateOfTwo.phaseAWorkloadSha256
    let s := receiptsAfter ⟨List.replicate 64 100, some gateOfTwo⟩
      [(stoppedClock 857, .initializeWith state),
        (stoppedClock 915, .bindWorkload workload (.int 0) state),
        (stoppedClock 916, .completeWorkload (some 1) (.int 5) state),
        (stoppedClock 915, .recordRuntimeChange state)]
    s.receipts.map RuntimeReceipt.kind = [.initialized, .bound, .completed] ∧
      s.receipts.map RuntimeReceipt.observedMonotonicNs = [7, 8, 9] ∧ s.failed = true := by
  decide +kernel

end Example

end Subgen

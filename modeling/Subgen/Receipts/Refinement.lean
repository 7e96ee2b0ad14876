import Subgen.Receipts.Ledger

/-!
# The coordinator keeps a ledger

What a coordinator knows behind its last receipt is a ledger (`RuntimeReceipts.ledger`). An operation
that returns adds an accepted receipt to it or leaves it as it is, and one that raises leaves it as it
is (`ensures_run`).

So the fields of the coordinator are those of the abstract ledger, of which the law of the trace is proved
without any of the checks and messages of the source (`Receipts.Ledger`). Each operation has a lemma that it
publishes one receipt, which the ledger accepts, or none; what the helpers of an operation find out on the way
(that the token is the active one, that the cursor is not behind) is the premise of that.

* `Publishes`: one receipt more, made of the fields as they were;
* `Sound`: the fields agree with a ledger that was reached by accepted receipts;
* `Sound.after`: every call keeps that, however it ends.
-/

namespace Subgen

open Procedure

namespace RuntimeReceipts

/-- What is known behind the receipts. -/
def ledger (s : RuntimeReceipts) : ReceiptLedger where
  sequence := s.sequence
  last := s.lastObservedMonotonicNs
  state := s.runtimeState
  workload := s.workloadSha256
  active := s.active
  chunk := s.chunkUncommitted
  activeCursor := s.activeCursorMs
  generation := s.completionGeneration
  phase := s.gatePhase
  aborted := s.gateAborted
  receipts := s.receipts

/-- The state behind the append of a receipt. -/
def appended (s : RuntimeReceipts) (journal : SecureJournal) (r : RuntimeReceipt) : RuntimeReceipts :=
  { s with
    journal := journal
    receipts := s.receipts ++ [r]
    sequence := r.sequence
    lastObservedMonotonicNs := r.observedMonotonicNs
    runtimeState := some r.state }

/-- Neither closed nor failed. -/
def Open (s : RuntimeReceipts) : Prop := s.closed = false ∧ s.failed = false

/-- Nothing that a receipt says has changed. -/
def Unchanged (s s' : RuntimeReceipts) : Prop := s'.ledger = s.ledger ∧ s'.initialized = s.initialized

theorem unchanged_refl (s : RuntimeReceipts) : Unchanged s s := ⟨rfl, rfl⟩

end RuntimeReceipts

open RuntimeReceipts

/-- A receipt says what an operation publishes of the workload, behind the last one. -/
structure Publishes (kind : ReceiptKind) (w : PublishedWorkload) (s : RuntimeReceipts) (r : RuntimeReceipt) :
    Prop where
  kind : r.kind = kind
  sequence : r.sequence = s.sequence + 1
  observed : s.lastObservedMonotonicNs < r.observedMonotonicNs
  balance : ∀ state, s.runtimeState = some state → r.state.balance = state.balance
  workloadSha256 : r.workloadSha256 = w.workloadSha256
  active : r.active = w.active
  chunkUncommitted : r.chunkUncommitted = w.chunkUncommitted
  activeCursorMs : r.activeCursorMs = w.activeCursorMs
  completedCursorMs : r.completedCursorMs = w.completedCursorMs
  completionGeneration : r.completionGeneration = w.completionGeneration

variable {world : ReceiptWorld} {config : ReceiptConfig} {gate : GateConfig} {kind : ReceiptKind}
  {runtimeState : Option Json} {w : PublishedWorkload} {s s' : RuntimeReceipts} {r : RuntimeReceipt}

/-- The clock does not stand still. -/
theorem lt_nextTime {last t : ℤ} (h : nextTime world last = .ok t) : last < t := by
  rw [nextTime] at h
  simp only [bind_eq_ok] at h
  obtain ⟨reading, -, observed, -, h⟩ := h
  by_cases hpast : observed ≤ last
  · rw [if_pos hpast] at h
    split at h
    · cases h
    · exact (Int.lt_succ last).trans_eq (Except.ok.inj h)
  · rw [if_neg hpast] at h
    split at h
    · cases h
    · exact (not_le.1 hpast).trans_eq (Except.ok.inj h)

theorem publishes_of_nextReceipt (h : nextReceipt world kind runtimeState w s = .ok r) :
    Publishes kind w s r := by
  rw [nextReceipt.eq_def] at h
  split at h
  · cases h
  · simp only [bind_eq_ok] at h
    obtain ⟨current, -, ⟨⟩, htransition, h⟩ := h
    split at h
    · cases h
    · obtain ⟨observed, hobserved, h⟩ := bind_eq_ok.1 h
      obtain rfl := Except.ok.inj h
      refine ⟨rfl, rfl, lt_nextTime hobserved, fun state hstate => ?_, rfl, rfl, rfl, rfl, rfl, rfl⟩
      rw [hstate] at htransition
      exact balance_of_transition htransition

theorem ensures_requireOpen :
    Ensures requireOpen s (fun _ s' => s' = s ∧ s.Open) (fun _ s' => s' = s) := by
  rw [requireOpen, ensures_bind, ensures_get, ensures_ite]
  refine ⟨fun _ => rfl, fun hclosed => ?_⟩
  rw [ensures_ite]
  refine ⟨fun _ => rfl, fun hfailed => ⟨rfl, ?_⟩⟩
  exact ⟨Bool.eq_false_iff.2 hclosed, Bool.eq_false_iff.2 hfailed⟩

theorem ensures_appendReceipt :
    Ensures (appendReceipt world config gate r) s
      (fun _ s' => ∃ journal, s' = s.appended journal r)
      (fun _ s' => s' = s ∨ s' = { s with failed := true }) := by
  rw [appendReceipt]
  split
  · exact .inl rfl
  · next line _ =>
    rw [ensures_bind, ensures_get, ensures_ite]
    refine ⟨fun _ => .inl rfl, fun _ => ?_⟩
    split
    · rw [ensures_bind, ensures_set, ensures_throw]
      exact .inr rfl
    · next journal _ => exact ⟨journal, rfl⟩

/-- A receipt of what an operation publishes is appended, or the operation raises and nothing that a
    receipt says has changed. -/
theorem ensures_publishReceipt (hgate : config.gate = some gate) :
    Ensures (publishReceipt world config kind runtimeState w) s
      (fun _ s' => ∃ r journal, Publishes kind w s r ∧ s' = s.appended journal r)
      (fun _ s' => s' = s ∨ s' = { s with failed := true }) := by
  rw [publishReceipt, ensures_bind]
  refine ensures_requireOpen.mono ?_ fun _ s' hs' => .inl hs'
  rintro - s' ⟨rfl, -⟩
  rw [hgate]
  dsimp only
  rw [ensures_bind, ensures_get, ensures_bind, ensures_ofExcept]
  refine ⟨fun r hr => ?_, fun _ _ => .inl rfl⟩
  refine ensures_appendReceipt.mono ?_ fun _ _ h => h
  rintro - s'' ⟨journal, rfl⟩
  exact ⟨r, journal, publishes_of_nextReceipt hr, rfl⟩

theorem ensures_requireInitialized (hgate : config.gate = some gate) :
    Ensures (requireInitialized config) s
      (fun _ s' => s' = s ∧ s.initialized = true) (fun _ s' => s' = s) := by
  rw [requireInitialized, ensures_bind]
  refine ensures_requireOpen.mono ?_ fun _ s' hs' => hs'
  rintro - s' ⟨rfl, -⟩
  rw [ensures_bind, ensures_get, ensures_ite]
  refine ⟨fun _ => rfl, fun hinitialized => ⟨rfl, ?_⟩⟩
  rw [hgate] at hinitialized
  simpa using hinitialized

/-- The invariant of the coordinator of a gate. -/
structure Sound (gate : GateConfig) (s : RuntimeReceipts) : Prop where
  reached : ReceiptLedger.Reached gate s.ledger
  fresh : s.initialized = false → s.ledger = .new
  idle : s.active = false → s.chunkUncommitted = false

theorem sound_new (gate : GateConfig) : Sound gate .new := ⟨.new, fun _ => rfl, fun _ => rfl⟩

theorem Sound.unchanged (h : Sound gate s) (hs : Unchanged s s') : Sound gate s' where
  reached := hs.1 ▸ h.reached
  fresh hinitialized := hs.1.trans (h.fresh (hs.2.symm.trans hinitialized))
  idle hactive := by
    have hactive' : s'.active = s.active := congrArg ReceiptLedger.active hs.1
    have hchunk : s'.chunkUncommitted = s.chunkUncommitted := congrArg ReceiptLedger.chunk hs.1
    rw [hchunk]
    exact h.idle (hactive'.symm.trans hactive)

theorem Sound.publish (h : Sound gate s) (hr : ReceiptLedger.Accepts gate s.ledger r)
    (hledger : s'.ledger = s.ledger.publish r) (hinitialized : s'.initialized = true)
    (hidle : s'.active = false → s'.chunkUncommitted = false) : Sound gate s' where
  reached := hledger ▸ h.reached.publish hr
  fresh hnot := absurd (hinitialized.symm.trans hnot) nofun
  idle := hidle

/-- What is published of a workload is accepted if its receipt is one of the operation. -/
theorem Publishes.accepts (h : Publishes kind w s r) (hw : ReceiptLedger.Workload gate s.ledger r) :
    ReceiptLedger.Accepts gate s.ledger r := ⟨h.sequence, h.observed, h.balance, hw⟩

theorem unchanged_of_failed (h : s' = s ∨ s' = { s with failed := true }) : Unchanged s s' := by
  rcases h with rfl | rfl
  · exact unchanged_refl s'
  · exact ⟨rfl, rfl⟩

/-! ## The operations -/

theorem ensures_initializeReceipts (hgate : config.gate = some gate) (h : Sound gate s) :
    Ensures (initializeReceipts world config runtimeState) s
      (fun _ => Sound gate) (fun _ => Unchanged s) := by
  rw [initializeReceipts, ensures_bind]
  refine ensures_requireOpen.mono ?_ fun _ s' hs' => hs' ▸ unchanged_refl s
  rintro - s' ⟨rfl, -⟩
  rw [ensures_bind, ensures_get, ensures_ite]
  refine ⟨fun _ => unchanged_refl s', fun hinitialized => ?_⟩
  rw [ensures_bind]
  refine (ensures_publishReceipt hgate).mono ?_ fun _ _ hs => unchanged_of_failed hs
  rintro - s'' ⟨r, journal, hr, rfl⟩
  have hfresh := h.fresh (Bool.eq_false_iff.2 hinitialized)
  have hw : ReceiptLedger.Workload gate s'.ledger r := by
    refine .initialized hr.kind ?_ hr.active hr.activeCursorMs hr.completionGeneration
    rw [hfresh]
    rfl
  refine h.publish (hr.accepts hw) ?_ rfl fun _ => h.idle (congrArg ReceiptLedger.active hfresh)
  have hworkload : s'.workloadSha256 = none := congrArg ReceiptLedger.workload hfresh
  have hactive : s'.active = false := congrArg ReceiptLedger.active hfresh
  have hcursor : s'.activeCursorMs = none := congrArg ReceiptLedger.activeCursor hfresh
  simp [ledger, appended, ReceiptLedger.publish, hr.kind, hr.workloadSha256, hr.active, hr.chunkUncommitted,
    hr.activeCursorMs, hr.completionGeneration, hworkload, hactive, hcursor, h.idle hactive]

theorem ensures_recordRuntimeChange (hgate : config.gate = some gate) (h : Sound gate s) :
    Ensures (recordRuntimeChange world config runtimeState) s
      (fun _ => Sound gate) (fun _ => Unchanged s) := by
  rw [recordRuntimeChange, ensures_bind]
  refine (ensures_requireInitialized hgate).mono ?_ fun _ s' hs' => hs' ▸ unchanged_refl s
  rintro - s' ⟨rfl, hinitialized⟩
  rw [ensures_bind, ensures_get]
  refine (ensures_publishReceipt hgate).mono ?_ fun _ _ hs => unchanged_of_failed hs
  rintro - s'' ⟨r, journal, hr, rfl⟩
  have hw : ReceiptLedger.Workload gate s'.ledger r :=
    .changed hr.kind hr.workloadSha256 hr.active hr.activeCursorMs hr.completionGeneration
  refine h.publish (hr.accepts hw) ?_ hinitialized h.idle
  simp [ledger, appended, ReceiptLedger.publish, hr.kind, hr.workloadSha256, hr.active, hr.chunkUncommitted,
    hr.activeCursorMs, hr.completionGeneration]

/-- A token that is new changes nothing else. -/
theorem ensures_newToken :
    Ensures newToken s (fun _ s' => s' = { s with nextTokenSerial := s.nextTokenSerial + 1 })
      (fun _ s' => s' = s) := by
  rw [newToken, ensures_bind, ensures_get, ensures_ite]
  exact ⟨fun _ => rfl, fun _ => rfl⟩

theorem ensures_bindGateWorkload (hgate : config.gate = some gate) (h : Sound gate s)
    (hinitialized : s.initialized = true) {workload : Json} {cursor : ℤ} :
    Ensures (bindGateWorkload world config gate workload cursor runtimeState) s
      (fun _ => Sound gate) (fun _ => Unchanged s) := by
  rw [bindGateWorkload, ensures_bind, ensures_get, ensures_ite]
  refine ⟨fun _ => unchanged_refl s, fun hactive => ?_⟩
  rw [ensures_ite]
  refine ⟨fun _ => unchanged_refl s, fun haborted => ?_⟩
  split
  · next sha' expected sha hsha =>
    rw [ensures_ite]
    refine ⟨fun _ => unchanged_refl s, fun hexpected => ?_⟩
    obtain rfl := not_not.1 hexpected
    rw [ensures_bind]
    refine ensures_newToken.mono ?_ fun _ s' hs' => hs' ▸ unchanged_refl s
    rintro token s' rfl
    rw [ensures_bind]
    refine (ensures_publishReceipt hgate).mono ?_ fun _ _ hs => ?_
    rotate_left
    · have hunchanged := unchanged_of_failed hs
      exact hunchanged
    rintro - s'' ⟨r, journal, hr, rfl⟩
    have hw : ReceiptLedger.Workload gate s.ledger r :=
      .bound hr.kind (Bool.eq_false_iff.2 hactive) (Bool.eq_false_iff.2 haborted) hsha hr.workloadSha256
        hr.active (by rw [hr.activeCursorMs, Option.isSome_some]) hr.completionGeneration
    have hnext : ReceiptLedger.Accepts gate s.ledger r := ⟨hr.sequence, hr.observed, hr.balance, hw⟩
    refine h.publish hnext ?_ hinitialized fun _ => rfl
    simp [ledger, appended, ReceiptLedger.publish, hr.kind, hr.workloadSha256, hr.active, hr.chunkUncommitted,
      hr.activeCursorMs, hr.completionGeneration]
  · exact unchanged_refl s

theorem ensures_bindWorkload (hgate : config.gate = some gate) (h : Sound gate s) {workload cursor : Json} :
    Ensures (bindWorkload world config workload cursor runtimeState) s
      (fun _ => Sound gate) (fun _ => Unchanged s) := by
  rw [bindWorkload, ensures_bind]
  refine (ensures_requireInitialized hgate).mono ?_ fun _ s' hs' => hs' ▸ unchanged_refl s
  rintro - s' ⟨rfl, hinitialized⟩
  rw [ensures_bind, ensures_ofExcept]
  refine ⟨fun cursor _ => ?_, fun _ _ => unchanged_refl s'⟩
  rw [hgate]
  exact ensures_bindGateWorkload hgate h hinitialized

/-- The workload that a token stands for is active. -/
theorem ensures_gateCursor {token : ℤ} {message : String} :
    Ensures (gateCursor token message) s
      (fun cursor s' => s' = s ∧ s.active = true ∧ s.activeCursorMs = some cursor) (fun _ s' => s' = s) := by
  rw [gateCursor, ensures_bind, ensures_get, ensures_ite]
  refine ⟨fun _ => rfl, fun _ => ?_⟩
  split
  · next cursor hactive hcursor => exact ⟨rfl, hactive, hcursor⟩
  · rfl

theorem le_of_chunkProgress {old : ℤ × Bool} {cursor chunk : Json} {new : ℤ × Bool}
    (h : chunkProgress old cursor chunk = .ok (some new)) : old.1 ≤ new.1 := by
  rw [chunkProgress] at h
  obtain ⟨cursor, -, h⟩ := bind_eq_ok.1 h
  split at h
  · cases h
  · next hle =>
    obtain ⟨chunk, -, h⟩ := bind_eq_ok.1 h
    split at h
    · cases Except.ok.inj h
    · rw [← Option.some.inj (Except.ok.inj h)]
      exact not_lt.1 hle

theorem ensures_requireToken {token : Option ℤ} :
    Ensures (requireToken token) s (fun _ s' => s' = s) (fun _ s' => s' = s) := by
  unfold requireToken
  split
  · rfl
  · rfl

theorem ensures_recordChunk (hgate : config.gate = some gate) (h : Sound gate s) {token : Option ℤ}
    {cursor chunk : Json} :
    Ensures (recordChunk world config token cursor chunk runtimeState) s
      (fun _ => Sound gate) (fun _ => Unchanged s) := by
  rw [recordChunk, ensures_bind]
  refine (ensures_requireInitialized hgate).mono ?_ fun _ s' hs' => hs' ▸ unchanged_refl s
  rintro - s' ⟨rfl, hinitialized⟩
  rw [ensures_bind]
  refine ensures_requireToken.mono ?_ fun _ s'' hs' => hs' ▸ unchanged_refl s'
  rintro token s'' rfl
  rw [hgate, if_neg (by simp), ensures_bind]
  refine ensures_gateCursor.mono ?_ fun _ s' hs' => hs' ▸ unchanged_refl s''
  rintro old s' ⟨rfl, hactive, hold⟩
  rw [ensures_bind, ensures_get, ensures_bind, ensures_ofExcept]
  refine ⟨fun progress hprogress => ?_, fun _ _ => unchanged_refl s'⟩
  rcases progress with _ | ⟨new, chunk⟩
  · exact h
  · dsimp only
    rw [ensures_bind]
    refine (ensures_publishReceipt hgate).mono ?_ fun _ _ hs => unchanged_of_failed hs
    rintro - s'' ⟨r, journal, hr, rfl⟩
    have hw : ReceiptLedger.Workload gate s'.ledger r :=
      .chunk hr.kind hactive hr.workloadSha256 hr.active hold hr.activeCursorMs
        (le_of_chunkProgress hprogress) hr.completionGeneration
    have hidle : s'.active = false → chunk = false := fun hnot => absurd (hactive.symm.trans hnot) nofun
    refine h.publish (hr.accepts hw) ?_ hinitialized hidle
    simp [ledger, appended, ReceiptLedger.publish, hr.kind, hr.workloadSha256, hr.active, hr.chunkUncommitted,
      hr.activeCursorMs, hr.completionGeneration, hactive]

theorem ensures_abortWorkload (hgate : config.gate = some gate) (h : Sound gate s) {token : Option ℤ} :
    Ensures (abortWorkload world config token runtimeState) s
      (fun _ => Sound gate) (fun _ => Unchanged s) := by
  rw [abortWorkload, ensures_bind]
  refine (ensures_requireInitialized hgate).mono ?_ fun _ s' hs' => hs' ▸ unchanged_refl s
  rintro - s' ⟨rfl, hinitialized⟩
  rw [ensures_bind]
  refine ensures_requireToken.mono ?_ fun _ s'' hs' => hs' ▸ unchanged_refl s'
  rintro token s'' rfl
  rw [hgate, if_neg (by simp), ensures_bind, ensures_get, ensures_ite]
  refine ⟨fun _ => unchanged_refl s'', fun _ => ?_⟩
  rw [ensures_ite]
  refine ⟨fun _ => unchanged_refl s'', fun hidle => ?_⟩
  have hactive : s''.active = true := by simpa using hidle
  rw [ensures_bind]
  refine (ensures_publishReceipt hgate).mono ?_ fun _ _ hs => unchanged_of_failed hs
  rintro - s' ⟨r, journal, hr, rfl⟩
  have hw : ReceiptLedger.Workload gate s''.ledger r :=
    .aborted hr.kind hactive hr.workloadSha256 hr.active hr.activeCursorMs
      hr.completionGeneration
  refine h.publish (hr.accepts hw) ?_ hinitialized fun _ => rfl
  simp [ledger, appended, ReceiptLedger.publish, hr.kind, hr.workloadSha256, hr.active, hr.chunkUncommitted,
    hr.activeCursorMs, hr.completionGeneration]

theorem le_of_terminalCursor {active generation terminal : ℤ} {value : Json}
    (h : terminalCursor active generation value = .ok terminal) : active ≤ terminal := by
  rw [terminalCursor] at h
  obtain ⟨cursor, -, h⟩ := bind_eq_ok.1 h
  split at h
  · cases h
  · next hle =>
    split at h
    · cases h
    · rw [← Except.ok.inj h]
      exact not_lt.1 hle

theorem ensures_completeWorkload (hgate : config.gate = some gate) (h : Sound gate s) {token : Option ℤ}
    {terminal : Json} :
    Ensures (completeWorkload world config token terminal runtimeState) s
      (fun _ => Sound gate) (fun _ => Unchanged s) := by
  rw [completeWorkload, ensures_bind]
  refine (ensures_requireInitialized hgate).mono ?_ fun _ s' hs' => hs' ▸ unchanged_refl s
  rintro - s' ⟨rfl, hinitialized⟩
  rw [ensures_bind]
  refine ensures_requireToken.mono ?_ fun _ s'' hs' => hs' ▸ unchanged_refl s'
  rintro token s'' rfl
  rw [hgate, if_neg (by simp), ensures_bind]
  refine ensures_gateCursor.mono ?_ fun _ s' hs' => hs' ▸ unchanged_refl s''
  rintro old s' ⟨rfl, hactive, hold⟩
  rw [ensures_bind, ensures_get, ensures_bind, ensures_ofExcept]
  refine ⟨fun terminal hterminal => ?_, fun _ _ => unchanged_refl s'⟩
  rw [ensures_bind]
  refine (ensures_publishReceipt hgate).mono ?_ fun _ _ hs => unchanged_of_failed hs
  rintro - s'' ⟨r, journal, hr, rfl⟩
  have hw : ReceiptLedger.Workload gate s'.ledger r :=
    .completed hr.kind hactive hr.workloadSha256 hr.active hr.activeCursorMs hold hr.completedCursorMs
      (le_of_terminalCursor hterminal) hr.completionGeneration
  refine h.publish (hr.accepts hw) ?_ hinitialized fun _ => rfl
  simp [ledger, appended, ReceiptLedger.publish, hr.kind, hr.workloadSha256, hr.active, hr.chunkUncommitted,
    hr.activeCursorMs, hr.completionGeneration]

theorem ensures_closeReceipts (hgate : config.gate = some gate) :
    Ensures (closeReceipts world config) s (fun _ => Unchanged s) (fun _ => Unchanged s) := by
  rw [closeReceipts, ensures_bind, ensures_get, ensures_ite, hgate]
  refine ⟨fun _ => unchanged_refl s, fun _ => ?_⟩
  rw [if_pos Option.isSome_some, ensures_bind, ensures_ofExcept]
  exact ⟨fun _ _ => ⟨rfl, rfl⟩, fun _ _ => unchanged_refl s⟩

/-- One operation keeps the ledger, and if it raises then nothing that a receipt says has changed. -/
theorem ensures_run (hgate : config.gate = some gate) (h : Sound gate s) (call : ReceiptCall) :
    Ensures (call.run world config) s (fun _ => Sound gate) (fun _ => Unchanged s) := by
  cases call with
  | initializeWith => exact ensures_initializeReceipts hgate h
  | recordRuntimeChange => exact ensures_recordRuntimeChange hgate h
  | bindWorkload => exact ensures_map.2 (ensures_bindWorkload hgate h)
  | recordChunk => exact ensures_map.2 (ensures_recordChunk hgate h)
  | abortWorkload => exact ensures_abortWorkload hgate h
  | completeWorkload => exact ensures_map.2 (ensures_completeWorkload hgate h)
  | close => exact (ensures_closeReceipts hgate).mono (fun _ _ hs => h.unchanged hs) fun _ _ hs => hs

theorem Sound.after (hgate : config.gate = some gate) (h : Sound gate s) (call : ReceiptCall) :
    Sound gate (after (call.run world config) s) :=
  ensures_iff_after.1 ((ensures_run hgate h call).mono (fun _ _ hs => hs) fun _ _ hs => h.unchanged hs)

end Subgen

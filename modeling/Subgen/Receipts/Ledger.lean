import Subgen.Receipts.Operations

/-!
# The ledger

The receipts that may follow one another, and what they say together (`ReceiptLedger`). A ledger knows what
its last receipt says, how many workloads were completed and whether one was aborted; `Accepts` says
which receipt may come next.

This is what the receipts are for, without the checks and messages of the coordinator. The law of the trace is
about the whole list: the receipts are numbered from one on and their times go up, the second workload is bound
behind the completion of the first one, no workload is active behind an abort, and no cursor goes back. That the
list obeys the law is an invariant of the ledger together with what its fields say of the list (`Agrees`); each
accepted receipt keeps it, by the kind of the receipt.

* `Agrees`: what the fields of a ledger say of its receipts;
* `ReceiptLedger.Reached.law`: the receipts of a ledger to which only accepted ones were added obey the law
  of the trace (`TraceLaw`).
-/

namespace Subgen

/-- What is known behind some receipts. -/
structure ReceiptLedger where
  sequence : ℤ
  last : ℤ
  state : Option RuntimeState
  workload : Option Text
  active : Bool
  chunk : Bool
  activeCursor : Option ℤ
  generation : ℤ
  phase : ℕ
  aborted : Bool
  receipts : List RuntimeReceipt

namespace ReceiptLedger

/-- Nothing has been published. -/
def new : ReceiptLedger := ⟨0, 0, none, none, false, false, none, 0, 0, false, []⟩

/-- A receipt more. -/
def publish (L : ReceiptLedger) (r : RuntimeReceipt) : ReceiptLedger where
  sequence := r.sequence
  last := r.observedMonotonicNs
  state := some r.state
  workload := r.workloadSha256
  active := r.active
  chunk := r.chunkUncommitted
  activeCursor := r.activeCursorMs
  generation := r.completionGeneration
  phase := if r.kind = .completed then L.phase + 1 else L.phase
  aborted := L.aborted || r.kind = .aborted
  receipts := L.receipts ++ [r]

/-- What a receipt says of the workload, by the operation that it is of. -/
inductive Workload (gate : GateConfig) (L : ReceiptLedger) (r : RuntimeReceipt) : Prop
  | initialized (hkind : r.kind = .initialized) (hreceipts : L.receipts = [])
      (hactive : r.active = false) (hcursor : r.activeCursorMs = none)
      (hgeneration : r.completionGeneration = L.generation)
  | changed (hkind : r.kind = .changed) (hworkload : r.workloadSha256 = L.workload)
      (hactive : r.active = L.active) (hcursor : r.activeCursorMs = L.activeCursor)
      (hgeneration : r.completionGeneration = L.generation)
  | bound (hkind : r.kind = .bound) (hfree : L.active = false) (haborted : L.aborted = false)
      {sha : Text} (hsha : gate.expected L.phase = some sha) (hworkload : r.workloadSha256 = some sha)
      (hactive : r.active = true) (hcursor : r.activeCursorMs.isSome)
      (hgeneration : r.completionGeneration = L.generation)
  | chunk (hkind : r.kind = .chunk) (hrunning : L.active = true) (hworkload : r.workloadSha256 = L.workload)
      (hactive : r.active = true) {old new : ℤ} (hold : L.activeCursor = some old)
      (hcursor : r.activeCursorMs = some new) (hle : old ≤ new)
      (hgeneration : r.completionGeneration = L.generation)
  | aborted (hkind : r.kind = .aborted) (hrunning : L.active = true)
      (hworkload : r.workloadSha256 = L.workload) (hactive : r.active = false)
      (hcursor : r.activeCursorMs = none) (hgeneration : r.completionGeneration = L.generation)
  | completed (hkind : r.kind = .completed) (hrunning : L.active = true)
      (hworkload : r.workloadSha256 = L.workload) (hactive : r.active = false)
      (hcursor : r.activeCursorMs = none) {old terminal : ℤ} (hold : L.activeCursor = some old)
      (hterminal : r.completedCursorMs = some terminal) (hle : old ≤ terminal)
      (hgeneration : r.completionGeneration = L.generation + 1)

/-- A receipt may come next. -/
structure Accepts (gate : GateConfig) (L : ReceiptLedger) (r : RuntimeReceipt) : Prop where
  sequence : r.sequence = L.sequence + 1
  observed : L.last < r.observedMonotonicNs
  balance : ∀ state, L.state = some state → r.state.balance = state.balance
  workload : Workload gate L r

/-- Only accepted receipts were added. -/
inductive Reached (gate : GateConfig) : ReceiptLedger → Prop
  | new : Reached gate new
  | publish {L : ReceiptLedger} {r : RuntimeReceipt} (h : Reached gate L) (hr : Accepts gate L r) :
      Reached gate (L.publish r)

end ReceiptLedger

/-- The law of the trace: the sequence numbers count from one; the times increase; the loads of the
    model without its unloads and the model that is there are always as many; the workloads that
    are bound are those of the phases, in their order, and the second one is bound only behind a
    receipt that completes the first; nothing is active behind an abort; of one workload the active
    cursor does not go back, and the completed one is not before it; and the generation counts the
    completions. -/
structure TraceLaw (gate : GateConfig) (rs : List RuntimeReceipt) : Prop where
  sequence : ∀ (i : ℕ) r, rs[i]? = some r → r.sequence = i + 1
  observed : rs.Pairwise fun r r' => r.observedMonotonicNs < r'.observedMonotonicNs
  balance : ∀ r ∈ rs, ∀ r' ∈ rs, r.state.balance = r'.state.balance
  bound : (rs.filter (·.kind = .bound)).map RuntimeReceipt.workloadSha256 <+:
    [some gate.phaseAWorkloadSha256, some gate.phaseBWorkloadSha256]
  second : ∀ before r, before ++ [r] <+: rs → r.kind = .bound →
    r.workloadSha256 = some gate.phaseBWorkloadSha256 →
      ∃ done ∈ before, done.kind = .completed ∧ done.workloadSha256 = some gate.phaseAWorkloadSha256
  aborted : rs.Pairwise fun r r' => r.kind = .aborted → r'.active = false
  cursor : rs.Pairwise fun r r' => r.workloadSha256 = r'.workloadSha256 →
    ∀ a b, r.activeCursorMs = some a → r'.activeCursorMs = some b → a ≤ b
  completed : rs.Pairwise fun r r' => r'.kind = .completed → r.workloadSha256 = r'.workloadSha256 →
    ∀ a, r.activeCursorMs = some a → ∃ b, r'.completedCursorMs = some b ∧ a ≤ b
  first : ∀ r, rs.head? = some r → r.completionGeneration = 0
  generation : rs.IsChain fun r r' =>
    r'.completionGeneration = r.completionGeneration + if r'.kind = .completed then 1 else 0

namespace ReceiptLedger

variable {gate : GateConfig} {L : ReceiptLedger} {r : RuntimeReceipt}

/-- How many workloads were bound. -/
def boundCount (L : ReceiptLedger) : ℕ := L.phase + if L.active ∨ L.aborted then 1 else 0

/-- What a ledger knows agrees with its receipts. -/
structure Agrees (gate : GateConfig) (L : ReceiptLedger) : Prop where
  sequence : L.sequence = L.receipts.length
  last : ∀ r ∈ L.receipts, r.observedMonotonicNs ≤ L.last
  balance : ∀ r ∈ L.receipts, ∃ state, L.state = some state ∧ state.balance = r.state.balance
  bound : (L.receipts.filter (·.kind = .bound)).map RuntimeReceipt.workloadSha256 =
    [some gate.phaseAWorkloadSha256, some gate.phaseBWorkloadSha256].take L.boundCount
  phase : L.boundCount ≤ 2
  done : 0 < L.phase → ∃ r ∈ L.receipts, r.kind = .completed ∧
    r.workloadSha256 = some gate.phaseAWorkloadSha256
  workload : L.active = true → L.workload = gate.expected L.phase
  aborted : ∀ r ∈ L.receipts, r.kind = .aborted → L.aborted = true
  free : L.aborted = true → L.active = false
  cursor : L.activeCursor.isSome = L.active
  bounded : ∀ r ∈ L.receipts, ∀ a, r.activeCursorMs = some a →
    (∃ i < L.boundCount, r.workloadSha256 = gate.expected i) ∧
      ∀ b, r.workloadSha256 = L.workload → L.activeCursor = some b → a ≤ b
  generation : ∀ r, L.receipts.getLast? = some r → r.completionGeneration = L.generation
  first : L.receipts = [] → L.generation = 0

theorem agrees_new (gate : GateConfig) : Agrees gate new where
  sequence := rfl
  last _ hr := absurd hr List.not_mem_nil
  balance _ hr := absurd hr List.not_mem_nil
  bound := rfl
  phase := Nat.zero_le _
  done h := absurd h (lt_irrefl 0)
  workload h := nomatch h
  aborted _ hr := absurd hr List.not_mem_nil
  free h := nomatch h
  cursor := rfl
  bounded _ hr := absurd hr List.not_mem_nil
  generation _ h := nomatch h
  first _ := rfl

theorem Agrees.boundCount_of_nil (h : Agrees gate L) (hnil : L.receipts = []) : L.boundCount = 0 := by
  have hbound := congrArg List.length h.bound
  rw [hnil, List.length_take] at hbound
  simp only [List.filter_nil, List.map_nil, List.length_nil, List.length_cons] at hbound
  omega

/-- Only a workload that is bound counts. -/
theorem Agrees.boundCount_publish (h : Agrees gate L) (hr : Workload gate L r) :
    (L.publish r).boundCount = L.boundCount + if r.kind = .bound then 1 else 0 := by
  rcases hr with ⟨hkind, hnil, hactive⟩ | ⟨hkind, -, hactive⟩ | ⟨hkind, hfree, haborted, -, -, hactive⟩ |
    ⟨hkind, hrunning, -, hactive⟩ | ⟨hkind, hrunning, -, hactive⟩ | ⟨hkind, hrunning, -, hactive⟩
  · have hzero := h.boundCount_of_nil hnil
    obtain ⟨hphase, hrest⟩ := Nat.add_eq_zero_iff.1 hzero
    have hidle : ¬(L.active = true ∨ L.aborted = true) := fun hc => by simp [hc] at hrest
    have hfree : L.active = false := Bool.eq_false_iff.2 fun hc => hidle (.inl hc)
    have haborted : L.aborted = false := Bool.eq_false_iff.2 fun hc => hidle (.inr hc)
    simp [boundCount, publish, hkind, hactive, hphase, hfree, haborted]
  · simp [boundCount, publish, hkind, hactive]
  · simp [boundCount, publish, hkind, hactive, hfree, haborted]
  · simp [boundCount, publish, hkind, hactive, hrunning]
  · simp [boundCount, publish, hkind, hactive, hrunning]
  · have hnot : L.aborted = false := Bool.eq_false_iff.2 fun hc => absurd (hrunning.symm.trans (h.free hc)) nofun
    simp [boundCount, publish, hkind, hactive, hrunning, hnot]

theorem expected_lt_two {phase : ℕ} {sha : Text} (h : gate.expected phase = some sha) : phase < 2 := by
  unfold GateConfig.expected at h
  split at h
  · omega
  · split at h
    · omega
    · cases h

/-- The workloads of the two phases differ. -/
theorem expected_injective {i phase : ℕ} {sha : Text} (h : gate.expected phase = some sha)
    (hi : gate.expected i = gate.expected phase) : i = phase := by
  have hi' := expected_lt_two (hi.trans h)
  have hphase := expected_lt_two h
  have hzero : gate.expected 0 = some gate.phaseAWorkloadSha256 := rfl
  have hone : gate.expected 1 = some gate.phaseBWorkloadSha256 := rfl
  have hdistinct : gate.expected 0 ≠ gate.expected 1 := by
    rw [hzero, hone]
    exact fun heq => gate.distinct (Option.some.inj heq)
  interval_cases i <;> interval_cases phase
  · rfl
  · exact absurd hi hdistinct
  · exact absurd hi.symm hdistinct
  · rfl

theorem take_succ_phases {n : ℕ} (hn : n < 2) :
    [some gate.phaseAWorkloadSha256, some gate.phaseBWorkloadSha256].take (n + 1) =
      [some gate.phaseAWorkloadSha256, some gate.phaseBWorkloadSha256].take n ++ [gate.expected n] := by
  interval_cases n
  · rfl
  · rfl

/-- While a workload is active, it is the last one that was bound. -/
theorem boundCount_of_active (hrunning : L.active = true) : L.boundCount = L.phase + 1 := by
  rw [boundCount, if_pos (.inl hrunning)]

/-- The receipt of an active workload is of one that was bound, and its cursor is not before those of the
    receipts of the same workload. -/
theorem Agrees.bounded_publish (h : Agrees gate L) (hr : Workload gate L r) :
    ∀ x ∈ L.receipts ++ [r], ∀ a, x.activeCursorMs = some a →
      (∃ i < (L.publish r).boundCount, x.workloadSha256 = gate.expected i) ∧
        ∀ b, x.workloadSha256 = r.workloadSha256 → r.activeCursorMs = some b → a ≤ b := by
  have hcount := h.boundCount_publish hr
  intro x hx a ha
  rcases List.mem_append.1 hx with hx | hx
  · obtain ⟨⟨i, hi, hexpected⟩, hle⟩ := h.bounded x hx a ha
    refine ⟨⟨i, by omega, hexpected⟩, fun b hsame hb => ?_⟩
    rcases hr with ⟨-, -, -, hnone, -⟩ | ⟨-, hworkload, -, hcursor, -⟩ |
      ⟨-, hfree, haborted, hsha, hworkload, -, -, -⟩ | ⟨-, -, hworkload, -, hold, hcursor, hmono, -⟩ |
      ⟨-, -, -, -, hnone, -⟩ | ⟨-, -, -, -, hnone, -, -, -, -⟩
    · exact absurd (hnone.symm.trans hb) nofun
    · exact hle b (hsame.trans hworkload) (hcursor.symm.trans hb)
    · -- The workload was not bound before.
      have hphase : i = L.phase := by
        refine expected_injective hsha ?_
        rw [← hexpected, hsame, hworkload, hsha]
      have hnotyet : L.boundCount = L.phase := by simp [boundCount, hfree, haborted]
      omega
    · obtain rfl := Option.some.inj (hcursor.symm.trans hb)
      exact (hle _ (hsame.trans hworkload) hold).trans hmono
    · exact absurd (hnone.symm.trans hb) nofun
    · exact absurd (hnone.symm.trans hb) nofun
  · obtain rfl := List.mem_singleton.1 hx
    refine ⟨?_, fun b _ hb => (Option.some.inj (ha.symm.trans hb)).le⟩
    rw [hcount]
    rcases hr with ⟨-, -, -, hnone, -⟩ | ⟨-, hworkload, -, hcursor, -⟩ |
      ⟨hkind, hfree, haborted, hsha, hworkload, -, -, -⟩ | ⟨-, hrunning, hworkload, -, -, -, -, -⟩ |
      ⟨-, -, -, -, hnone, -⟩ | ⟨-, -, -, -, hnone, -, -, -, -⟩
    · exact absurd (hnone.symm.trans ha) nofun
    · have hrunning : L.active = true := by rw [← h.cursor, ← hcursor, ha, Option.isSome_some]
      have hlast := boundCount_of_active hrunning
      exact ⟨L.phase, by omega, hworkload.trans (h.workload hrunning)⟩
    · have hnotyet : L.boundCount = L.phase := by simp [boundCount, hfree, haborted]
      exact ⟨L.phase, by rw [if_pos hkind]; omega, hworkload.trans hsha.symm⟩
    · have hlast := boundCount_of_active hrunning
      exact ⟨L.phase, by omega, hworkload.trans (h.workload hrunning)⟩
    · exact absurd (hnone.symm.trans ha) nofun
    · exact absurd (hnone.symm.trans ha) nofun

/-- The generation goes up with a completion, and with nothing else. -/
theorem Workload.generation (hr : Workload gate L r) :
    r.completionGeneration = L.generation + if r.kind = .completed then 1 else 0 := by
  rcases hr with ⟨hkind, _, _, _, hgeneration⟩ | ⟨hkind, _, _, _, hgeneration⟩ |
    ⟨hkind, _, _, _, _, _, _, hgeneration⟩ | ⟨hkind, _, _, _, _, _, _, hgeneration⟩ |
    ⟨hkind, _, _, _, _, hgeneration⟩ | ⟨hkind, _, _, _, _, _, _, _, hgeneration⟩
  · rw [hgeneration, if_neg (by simp [hkind]), add_zero]
  · rw [hgeneration, if_neg (by simp [hkind]), add_zero]
  · rw [hgeneration, if_neg (by simp [hkind]), add_zero]
  · rw [hgeneration, if_neg (by simp [hkind]), add_zero]
  · rw [hgeneration, if_neg (by simp [hkind]), add_zero]
  · rw [hgeneration, if_pos hkind]

theorem Agrees.bound_publish (h : Agrees gate L) (hr : Workload gate L r) :
    ((L.publish r).receipts.filter (·.kind = .bound)).map RuntimeReceipt.workloadSha256 =
      [some gate.phaseAWorkloadSha256, some gate.phaseBWorkloadSha256].take (L.publish r).boundCount ∧
    (L.publish r).boundCount ≤ 2 := by
  have hcount := h.boundCount_publish hr
  by_cases hkind : r.kind = .bound
  · rcases hr with ⟨hother, -⟩ | ⟨hother, -⟩ | ⟨-, hfree, haborted, hsha, hworkload, -⟩ | ⟨hother, -⟩ |
      ⟨hother, -⟩ | ⟨hother, -⟩
    · exact absurd (hother.symm.trans hkind) nofun
    · exact absurd (hother.symm.trans hkind) nofun
    · have hnotyet : L.boundCount = L.phase := by simp [boundCount, hfree, haborted]
      have hphase := expected_lt_two hsha
      rw [hcount, if_pos hkind, hnotyet, take_succ_phases hphase, hsha, ← hworkload, ← hnotyet, ← h.bound]
      refine ⟨?_, by omega⟩
      rw [publish, List.filter_append, List.map_append, List.filter_singleton, decide_eq_true hkind]
      rfl
    · exact absurd (hother.symm.trans hkind) nofun
    · exact absurd (hother.symm.trans hkind) nofun
    · exact absurd (hother.symm.trans hkind) nofun
  · rw [hcount, if_neg hkind, add_zero, ← h.bound, publish, List.filter_append, List.filter_singleton,
      decide_eq_false hkind, cond_false, List.append_nil]
    exact ⟨rfl, h.phase⟩

theorem Agrees.publish (h : Agrees gate L) (hr : Accepts gate L r) : Agrees gate (L.publish r) where
  sequence := by
    rw [ReceiptLedger.publish, List.length_append, List.length_singleton, hr.sequence, h.sequence]
    push_cast
    rfl
  last x hx := by
    rcases List.mem_append.1 hx with hx | hx
    · exact (h.last x hx).trans hr.observed.le
    · exact (congrArg RuntimeReceipt.observedMonotonicNs (List.mem_singleton.1 hx)).le
  balance x hx := by
    refine ⟨r.state, rfl, ?_⟩
    rcases List.mem_append.1 hx with hx | hx
    · obtain ⟨state, hstate, heq⟩ := h.balance x hx
      rw [hr.balance state hstate, heq]
    · rw [List.mem_singleton.1 hx]
  bound := (h.bound_publish hr.workload).1
  phase := (h.bound_publish hr.workload).2
  done hphase := by
    by_cases hbefore : 0 < L.phase
    · obtain ⟨x, hx, hdone⟩ := h.done hbefore
      exact ⟨x, List.mem_append_left _ hx, hdone⟩
    · -- The first workload is completed by this receipt.
      have hkind : r.kind = .completed := by
        by_contra hother
        rw [ReceiptLedger.publish, if_neg hother] at hphase
        exact hbefore hphase
      refine ⟨r, List.mem_append_right _ (List.mem_singleton_self r), hkind, ?_⟩
      rcases hr.workload with ⟨hother, -⟩ | ⟨hother, -⟩ | ⟨hother, -⟩ | ⟨hother, -⟩ | ⟨hother, -⟩ |
        ⟨-, hrunning, hworkload, -⟩
      · exact absurd (hother.symm.trans hkind) nofun
      · exact absurd (hother.symm.trans hkind) nofun
      · exact absurd (hother.symm.trans hkind) nofun
      · exact absurd (hother.symm.trans hkind) nofun
      · exact absurd (hother.symm.trans hkind) nofun
      · rw [hworkload, h.workload hrunning, Nat.eq_zero_of_not_pos hbefore]
        rfl
  -- Only a receipt about a running workload can leave one active.
  workload hactive := by
    have hrunning : r.active = true := hactive
    rcases hr.workload with ⟨-, -, hidle, -⟩ | ⟨hkind, hworkload, hsame, -⟩ |
      ⟨hkind, -, -, hsha, hworkload, -⟩ | ⟨hkind, hactive, hworkload, -⟩ | ⟨-, -, -, hidle, -⟩ |
      ⟨-, -, -, hidle, -⟩
    · exact absurd (hidle.symm.trans hrunning) nofun
    · rw [ReceiptLedger.publish, hkind]
      exact hworkload.trans (h.workload (hsame.symm.trans hrunning))
    · rw [ReceiptLedger.publish, hkind]
      exact hworkload.trans hsha.symm
    · rw [ReceiptLedger.publish, hkind]
      exact hworkload.trans (h.workload hactive)
    · exact absurd (hidle.symm.trans hrunning) nofun
    · exact absurd (hidle.symm.trans hrunning) nofun
  aborted x hx hkind := by
    rcases List.mem_append.1 hx with hx | hx
    · exact Bool.or_eq_true_iff.2 (.inl (h.aborted x hx hkind))
    · rw [List.mem_singleton.1 hx] at hkind
      exact Bool.or_eq_true_iff.2 (.inr (decide_eq_true hkind))
  -- An abort ends the workload, and nothing is bound behind it.
  free haborted := by
    rw [ReceiptLedger.publish, Bool.or_eq_true_iff, decide_eq_true_iff] at haborted
    rcases hr.workload with ⟨-, -, hidle, -⟩ | ⟨hkind, -, hsame, -⟩ | ⟨hkind, -, hnot, -⟩ |
      ⟨hkind, hrunning, -⟩ | ⟨-, -, -, hidle, -⟩ | ⟨-, -, -, hidle, -⟩
    · exact hidle
    · exact hsame.trans (h.free (haborted.resolve_right (by simp [hkind])))
    · exact absurd (hnot.symm.trans (haborted.resolve_right (by simp [hkind]))) nofun
    · have hfree := h.free (haborted.resolve_right (by simp [hkind]))
      exact absurd (hfree.symm.trans hrunning) nofun
    · exact hidle
    · exact hidle
  cursor := by
    rw [ReceiptLedger.publish]
    rcases hr.workload with ⟨-, -, hactive, hcursor, -⟩ | ⟨-, -, hactive, hcursor, -⟩ |
      ⟨-, -, -, -, -, hactive, hcursor, -⟩ | ⟨-, -, -, hactive, -, hcursor, -⟩ |
      ⟨-, -, -, hactive, hcursor, -⟩ | ⟨-, -, -, hactive, hcursor, -⟩
    · rw [hactive, hcursor, Option.isSome_none]
    · rw [hactive, hcursor, h.cursor]
    · rw [hactive, hcursor]
    · rw [hactive, hcursor, Option.isSome_some]
    · rw [hactive, hcursor, Option.isSome_none]
    · rw [hactive, hcursor, Option.isSome_none]
  bounded := h.bounded_publish hr.workload
  generation x hx := by
    rw [ReceiptLedger.publish, List.getLast?_concat] at hx
    rw [← Option.some.inj hx]
    rfl
  first hnil := absurd hnil (List.append_ne_nil_of_right_ne_nil _ (List.cons_ne_nil _ _))

theorem Reached.agrees (h : Reached gate L) : Agrees gate L := by
  induction h with
  | new => exact agrees_new gate
  | publish _ hr ih => exact ih.publish hr

/-- A workload that is completed was bound. -/
theorem Workload.running_of_completed (hr : Workload gate L r) (hkind : r.kind = .completed) :
    L.active = true ∧ r.workloadSha256 = L.workload ∧
      ∃ old terminal, L.activeCursor = some old ∧ r.completedCursorMs = some terminal ∧ old ≤ terminal := by
  rcases hr with ⟨hother, -⟩ | ⟨hother, -⟩ | ⟨hother, -⟩ | ⟨hother, -⟩ | ⟨hother, -⟩ |
    ⟨-, hrunning, hworkload, -, -, hold, hterminal, hle, -⟩
  · exact absurd (hother.symm.trans hkind) nofun
  · exact absurd (hother.symm.trans hkind) nofun
  · exact absurd (hother.symm.trans hkind) nofun
  · exact absurd (hother.symm.trans hkind) nofun
  · exact absurd (hother.symm.trans hkind) nofun
  · exact ⟨hrunning, hworkload, _, _, hold, hterminal, hle⟩

/-- A workload that is bound is the one of the phase. -/
theorem Workload.expected_of_bound (hr : Workload gate L r) (hkind : r.kind = .bound) :
    L.active = false ∧ L.aborted = false ∧
      ∃ sha, gate.expected L.phase = some sha ∧ r.workloadSha256 = some sha := by
  rcases hr with ⟨hother, -⟩ | ⟨hother, -⟩ | ⟨-, hfree, haborted, hsha, hworkload, -⟩ | ⟨hother, -⟩ |
    ⟨hother, -⟩ | ⟨hother, -⟩
  · exact absurd (hother.symm.trans hkind) nofun
  · exact absurd (hother.symm.trans hkind) nofun
  · exact ⟨hfree, haborted, _, hsha, hworkload⟩
  · exact absurd (hother.symm.trans hkind) nofun
  · exact absurd (hother.symm.trans hkind) nofun
  · exact absurd (hother.symm.trans hkind) nofun

/-- The first receipt is not of a completion. -/
theorem Agrees.first_generation (h : Agrees gate L) (hr : Workload gate L r) (hnil : L.receipts = []) :
    r.completionGeneration = 0 := by
  have hidle : L.active ≠ true := by
    intro hrunning
    have hone := boundCount_of_active hrunning
    have hzero := h.boundCount_of_nil hnil
    omega
  rw [hr.generation, h.first hnil, if_neg fun hkind => hidle (hr.running_of_completed hkind).1, add_zero]

/-- Behind the receipts of a ledger, an accepted one obeys the law. -/
theorem law_concat (h : Agrees gate L) (hlaw : TraceLaw gate L.receipts) (hr : Accepts gate L r) :
    TraceLaw gate (L.receipts ++ [r]) where
  sequence i x hx := by
    rw [List.getElem?_append] at hx
    split at hx
    · exact hlaw.sequence i x hx
    · next hi =>
      rw [List.getElem?_singleton] at hx
      split at hx
      · next hzero =>
        have hlen : i = L.receipts.length := by omega
        rw [← Option.some.inj hx, hr.sequence, h.sequence, hlen]
      · cases hx
  observed := List.pairwise_append.2 ⟨hlaw.observed, List.pairwise_singleton _ _, fun x hx y hy => by
    rw [List.mem_singleton.1 hy]
    exact (h.last x hx).trans_lt hr.observed⟩
  balance x hx y hy := by
    obtain ⟨state, hstate, hbalance⟩ := (h.publish hr).balance x hx
    obtain ⟨state', hstate', hbalance'⟩ := (h.publish hr).balance y hy
    rw [← hbalance, ← hbalance', Option.some.inj (hstate.symm.trans hstate')]
  bound := by
    have hbound := (h.publish hr).bound
    rw [ReceiptLedger.publish] at hbound
    rw [hbound]
    exact List.take_prefix _ _
  second before x hpre hkind hworkload := by
    -- The new receipt binds the second workload only where the first one is completed.
    rcases List.prefix_concat_iff.1 hpre with heq | hpre
    · obtain ⟨rfl, hx⟩ := List.append_inj' heq rfl
      obtain rfl := List.singleton_inj.1 hx
      obtain ⟨-, -, sha, hsha, hsha'⟩ := hr.workload.expected_of_bound hkind
      have hphase : 1 = L.phase := expected_injective hsha (hworkload.symm.trans (hsha'.trans hsha.symm))
      exact h.done (by omega)
    · exact hlaw.second before x hpre hkind hworkload
  aborted := List.pairwise_append.2 ⟨hlaw.aborted, List.pairwise_singleton _ _, fun x hx y hy hkind => by
    rw [List.mem_singleton.1 hy]
    exact (h.publish hr).free ((h.publish hr).aborted x (List.mem_append_left _ hx) hkind)⟩
  -- The cursors of a workload are bounded by the one that the ledger knows.
  cursor := List.pairwise_append.2 ⟨hlaw.cursor, List.pairwise_singleton _ _,
    fun x hx y hy hsame a b ha hb => by
      rw [List.mem_singleton.1 hy] at hsame hb
      exact (h.bounded_publish hr.workload x (List.mem_append_left _ hx) a ha).2 b hsame hb⟩
  completed := List.pairwise_append.2 ⟨hlaw.completed, List.pairwise_singleton _ _,
    fun x hx y hy hkind hsame a ha => by
      rw [List.mem_singleton.1 hy] at hkind hsame ⊢
      obtain ⟨-, hworkload, old, terminal, hold, hterminal, hle⟩ := hr.workload.running_of_completed hkind
      exact ⟨terminal, hterminal, ((h.bounded x hx a ha).2 old (hsame.trans hworkload) hold).trans hle⟩⟩
  first x hx := by
    rcases List.eq_nil_or_concat L.receipts with hnil | ⟨rs, y, hcons⟩
    · rw [hnil, List.nil_append, List.head?_cons] at hx
      rw [← Option.some.inj hx]
      exact h.first_generation hr.workload hnil
    · rw [List.head?_append_of_ne_nil _ (by simp [hcons])] at hx
      exact hlaw.first x hx
  generation := List.isChain_append.2 ⟨hlaw.generation, List.isChain_singleton _, fun x hx y hy => by
    rw [← Option.some.inj hy, h.generation x hx]
    exact hr.workload.generation⟩

theorem law_nil : TraceLaw gate [] where
  sequence i x hx := by simp at hx
  observed := .nil
  balance x hx := absurd hx List.not_mem_nil
  bound := List.nil_prefix
  second before x hpre := by simp at hpre
  aborted := .nil
  cursor := .nil
  completed := .nil
  first x hx := by simp at hx
  generation := .nil

/-- The receipts of a ledger obey the law. -/
theorem Reached.law (h : Reached gate L) : TraceLaw gate L.receipts := by
  induction h with
  | new => exact law_nil
  | publish hL hr ih => exact law_concat hL.agrees ih hr

end ReceiptLedger

end Subgen

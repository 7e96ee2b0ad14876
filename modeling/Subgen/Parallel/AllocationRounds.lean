import Subgen.Parallel.WorkerFailures
import Mathlib.Algebra.Order.BigOperators.Group.Finset
import Mathlib.Algebra.BigOperators.Group.Finset.Basic

/-!
# Allocation failures do not go on for ever

Every allocation failure of an inference leaves its worker fewer failures, and a load can fail only once for
each worker until one succeeds. With `n` workers, there are at most `n` failing loads between two rounds in
which inferences fail; a load that succeeds resets the counts, but it is only counted again behind a round
that has taken a failure of an inference from the budgets.

* `rank`: what is left, of both;
* `allocation_rounds_bounded`: a bound on the rounds of a stretch, by the number of the workers and the
  ratios of their baselines to their minimums.
-/

namespace Subgen

open Procedure Relation

variable {W H : Type}

namespace Driver

variable {budgets : AList fun _ : String => AdaptiveChunkState} {s s' s'' : Driver W H}

/-- A bound on the failures of inferences that are left. -/
noncomputable def failuresLeft (workers : Finset String) (s : Driver W H) : ℕ :=
  ∑ worker ∈ workers, (s.adaptive.lookup worker).elim 0 AdaptiveChunkState.failuresLeft

/-- The workers with no failed load since the last one that succeeded. -/
def loadable (workers : Finset String) (s : Driver W H) : Finset String :=
  workers.filter fun worker => (s.loadFailures.lookup worker).getD 0 = 0

/-- What is left for the rounds to come. With a cohort, the counts of failed loads were reset. -/
noncomputable def rank (workers : Finset String) (s : Driver W H) : ℕ :=
  (workers.card + 1) * s.failuresLeft workers + if s.cohort = none then (s.loadable workers).card else 0

/-- The names of the budgets. -/
def names (budgets : AList fun _ : String => AdaptiveChunkState) : Finset String := budgets.keys.toFinset

theorem Within.mem_names (h : s.Within budgets) {worker : String} {a : AdaptiveChunkState}
    (ha : s.adaptive.lookup worker = some a) : worker ∈ names budgets := by
  obtain ⟨a₀, ha₀, -⟩ := h worker a ha
  exact List.mem_toFinset.2 (AList.mem_keys.1 (AList.lookup_isSome.1 (ha₀ ▸ rfl)))

/-- What was counted: nothing was given back, and each phase of `phases` has taken something. -/
structure Spent (workers : Finset String) (phases : List AllocationPhase) (s s' : Driver W H) : Prop where
  left_le : s'.failuresLeft workers ≤ s.failuresLeft workers
  loadable_le : (s'.loadable workers).card ≤ (s.loadable workers).card
  transcribe : .transcribe ∈ phases → s'.failuresLeft workers < s.failuresLeft workers
  load : .load ∈ phases → (s'.loadable workers).card < (s.loadable workers).card

theorem Spent.nil (workers : Finset String) (s : Driver W H) : Spent workers [] s s :=
  ⟨le_rfl, le_rfl, nofun, nofun⟩

theorem Spent.cons {workers : Finset String} {phase : AllocationPhase} {phases : List AllocationPhase}
    (h : Spent workers [phase] s s') (h' : Spent workers phases s' s'') :
    Spent workers (phase :: phases) s s'' := by
  refine ⟨h'.left_le.trans h.left_le, h'.loadable_le.trans h.loadable_le, fun hmem => ?_, fun hmem => ?_⟩
  · rcases List.mem_cons.1 hmem with rfl | hmem
    · exact h'.left_le.trans_lt (h.transcribe List.mem_cons_self)
    · exact (h'.transcribe hmem).trans_le h.left_le
  · rcases List.mem_cons.1 hmem with rfl | hmem
    · exact h'.loadable_le.trans_lt (h.load List.mem_cons_self)
    · exact (h'.load hmem).trans_le h.loadable_le

/-- A failure of an inference that does not exhaust the file. -/
theorem spent_transcribe {worker : String} {a a' : AdaptiveChunkState} {q : Option ℚ}
    (hmem : worker ∈ names budgets) (ha : s.adaptive.lookup worker = some a)
    (ha' : a.recordAllocationFailure q = .ok a') (hexhausted : a'.exhausted = false) :
    Spent (names budgets) [.transcribe] s { s with adaptive := s.adaptive.insert worker a' } := by
  have hlt := AdaptiveChunkState.failuresLeft_lt ha' hexhausted
  have hsum : failuresLeft (names budgets) { s with adaptive := s.adaptive.insert worker a' } <
      s.failuresLeft (names budgets) := by
    refine Finset.sum_lt_sum (fun other _ => ?_) ⟨worker, hmem, ?_⟩
    · dsimp only
      by_cases heq : other = worker
      · subst heq
        rw [AList.lookup_insert, ha]
        exact hlt.le
      · rw [AList.lookup_insert_ne heq]
    · dsimp only
      rw [AList.lookup_insert, ha]
      exact hlt
  exact ⟨hsum.le, le_rfl, fun _ => hsum, fun h => by cases h; contradiction⟩

/-- The first failed load of a worker. -/
theorem spent_load {worker : String} (hmem : worker ∈ names budgets)
    (hfirst : (s.loadFailures.lookup worker).getD 0 = 0) {count : ℕ} (hcount : count ≠ 0) :
    Spent (names budgets) [.load] s { s with loadFailures := s.loadFailures.insert worker count } := by
  have hlt : (loadable (names budgets) { s with loadFailures := s.loadFailures.insert worker count }).card <
      (s.loadable (names budgets)).card := by
    refine Finset.card_lt_card (Finset.ssubset_iff_of_subset (fun other hother => ?_) |>.2 ⟨worker, ?_, ?_⟩)
    · rw [loadable, Finset.mem_filter] at hother ⊢
      refine ⟨hother.1, ?_⟩
      by_cases heq : other = worker
      · exact heq ▸ hfirst
      · have hzero := hother.2
        dsimp only at hzero
        rwa [AList.lookup_insert_ne heq] at hzero
    · exact Finset.mem_filter.2 ⟨hmem, hfirst⟩
    · rw [loadable, Finset.mem_filter]
      dsimp only
      rw [AList.lookup_insert]
      exact fun h => hcount h.2
  exact ⟨le_rfl, hlt.le, fun h => by cases h; contradiction, fun _ => hlt⟩

/-- What recording the failures leaves alone. -/
structure SameRound (s s' : Driver W H) : Prop where
  loading : s'.loading = s.loading
  cohort : s'.cohort = s.cohort
  state : s'.coordinator.state = s.coordinator.state

theorem SameRound.trans (h : SameRound s s') (h' : SameRound s' s'') : SameRound s s'' :=
  ⟨h'.loading.trans h.loading, h'.cohort.trans h.cohort, h'.state.trans h.state⟩

theorem recordAllocation_spec (hs : s.Within budgets) (allocation : Allocation) :
    Ensures (recordAllocation allocation) s
      (fun exhausted s' => s'.Within budgets ∧ SameRound s s' ∧
        (exhausted = false → Spent (names budgets) [allocation.2.1] s s'))
      (fun _ _ => True) := by
  obtain ⟨worker, phase, attempted⟩ := allocation
  cases worker with
  | none => exact trivial
  | some worker =>
    rw [recordAllocation, ensures_bind, ensures_get]
    cases ha : s.adaptive.lookup worker with
    | none => exact trivial
    | some a =>
      have hmem := hs.mem_names ha
      cases phase with
      | load =>
        dsimp only
        rw [ensures_bind, ensures_modify]
        refine ⟨hs, ⟨rfl, rfl, rfl⟩, fun hexhausted => spent_load hmem ?_ (Nat.succ_ne_zero _)⟩
        have hlt := not_le.1 (of_decide_eq_false hexhausted)
        omega
      | transcribe =>
        dsimp only
        rw [ensures_bind, ensures_ofExcept]
        refine ⟨fun a' ha' => ?_, fun _ _ => trivial⟩
        rw [ensures_bind, ensures_modify]
        refine ⟨hs.insert ha (fun hin => ?_) rfl, ⟨rfl, rfl, rfl⟩, fun hexhausted =>
          spent_transcribe hmem ha ha' hexhausted⟩
        have hrecord := hin.record (.allocationFailure attempted)
        rw [AdaptiveChunkState.record, ha'] at hrecord
        exact hrecord

theorem recordAllocations_spec (hs : s.Within budgets) (allocations : List Allocation) :
    Ensures (recordAllocations allocations) s
      (fun exhausted s' => s'.Within budgets ∧ SameRound s s' ∧
        (exhausted = false → Spent (names budgets) (allocations.map fun x => x.2.1) s s'))
      (fun _ _ => True) := by
  induction allocations generalizing s with
  | nil => exact ⟨hs, ⟨rfl, rfl, rfl⟩, fun _ => .nil _ s⟩
  | cons allocation rest ih =>
    rw [recordAllocations, ensures_bind]
    refine (recordAllocation_spec hs allocation).mono ?_ fun _ _ _ => trivial
    rintro exhausted s₁ ⟨hs₁, hsame, hspent⟩
    rw [ensures_bind]
    refine (ih hs₁).mono ?_ fun _ _ _ => trivial
    rintro more s₂ ⟨hs₂, hsame', hspent'⟩
    refine ⟨hs₂, hsame.trans hsame', fun hnone => ?_⟩
    obtain ⟨hfirst, hmore⟩ := Bool.or_eq_false_iff.1 hnone
    exact (hspent hfirst).cons (hspent' hmore)

/-! ## The other records -/

/-- A pressure yield keeps every budget in its range. -/
theorem Within.shrinkAll (hs : s.Within budgets) : s.shrinkAll.Within budgets := by
  have hlookup : ∀ (l : List (Sigma fun _ : String => AdaptiveChunkState)) (worker : String),
      (l.map fun e => (⟨e.1, e.2.recordPressureYield⟩ : Sigma fun _ => AdaptiveChunkState)).dlookup worker =
        (l.dlookup worker).map AdaptiveChunkState.recordPressureYield := by
    intro l worker
    induction l with
    | nil => rfl
    | cons e l ih =>
      obtain ⟨name, a⟩ := e
      by_cases heq : worker = name
      · subst heq
        rw [List.map_cons, List.dlookup_cons_eq, List.dlookup_cons_eq]
        rfl
      · rw [List.map_cons, List.dlookup_cons_ne _ _ heq, List.dlookup_cons_ne _ _ heq]
        exact ih
  intro worker a ha
  rw [Driver.shrinkAll, AList.lookup_to_alist, hlookup] at ha
  obtain ⟨a', ha', rfl⟩ := Option.map_eq_some_iff.1 ha
  obtain ⟨a₀, ha₀, hin⟩ := hs worker a' ha'
  exact ⟨a₀, ha₀, hin.record .pressureYield⟩

theorem Within.forgiveAllocations (hs : s.Within budgets) (workers : List String) :
    (s.forgiveAllocations workers).Within budgets := by
  refine List.foldlRecOn (motive := fun adaptive => Within budgets { s with adaptive := adaptive })
    workers _ hs fun adaptive hadaptive worker _ => ?_
  cases ha : adaptive.lookup worker with
  | none => exact hadaptive
  | some a => exact hadaptive.insert ha (fun hin => hin.record .externalPressureRecovery) rfl

/-! ## A turn -/

variable (rt : Runtime W H)

/-- The recovery of a round: without one that is external, every failure is counted, and the only error in
    the end is the failure that it is about. -/
theorem awaitTurn_spec (hs : s.Within budgets) (loading : Bool) (control : Exc) (allocations : List Allocation) :
    Ensures (awaitTurn rt loading control allocations) s
      (fun t s' => s'.Within budgets ∧ SameRound s s' ∧
        ∃ window raised, t = .recovered loading allocations window raised ∧
          (allocations ≠ [] → externalPressureRecovered window = false →
            (raised = none → Spent (names budgets) (allocations.map fun x => x.2.1) s s') ∧
              ∀ e, raised = some e → e = control))
      (fun _ _ => True) := by
  rw [awaitTurn, ensures_bind]
  -- The failures are counted before the pressure is waited for.
  have hrecord : Ensures (recordFailures allocations) s
      (fun exhausted s' => s'.Within budgets ∧ SameRound s s' ∧
        (allocations ≠ [] → exhausted = false → Spent (names budgets) (allocations.map fun x => x.2.1) s s'))
      (fun _ _ => True) := by
    rw [recordFailures]
    refine ensures_ite.2 ⟨fun hnil => ?_, fun hne => ?_⟩
    · exact ⟨hs.shrinkAll, ⟨rfl, rfl, rfl⟩, fun hne => absurd hnil hne⟩
    · exact (recordAllocations_spec hs allocations).mono (fun _ _ h => ⟨h.1, h.2.1, fun _ => h.2.2⟩)
        fun _ _ _ => trivial
  refine hrecord.mono ?_ fun _ _ _ => trivial
  rintro exhausted s₁ ⟨hs₁, hsame₁, hspent⟩
  rw [ensures_bind, ensures_get, ensures_bind]
  refine (uncounted_onWorld _ s₁.ledger s₁ rfl).mono ?_ fun _ _ _ => trivial
  intro _ s₂ h₂
  rw [ensures_bind]
  refine (uncounted_onWorld _ s₁.ledger s₂ h₂).mono ?_ fun _ _ _ => trivial
  intro window s₃ h₃
  rw [ensures_bind]
  refine (uncounted_onWorld _ s₁.ledger s₃ h₃).mono ?_ fun _ _ _ => trivial
  intro _ s₄ h₄
  -- What is asked of the world in between counts nothing.
  obtain ⟨hadaptive, hstate, hloads⟩ := eq_of_ledger h₄
  have hs₄ : s₄.Within budgets := by rwa [Within, hadaptive]
  have hsame₄ : SameRound s s₄ := hsame₁.trans ⟨hloads.loading, hloads.cohort, hstate⟩
  rw [ensures_ite]
  refine ⟨fun hrecovered => ?_, fun hnot => ?_⟩
  · -- An external pressure forgives the failures, and so says nothing about them.
    rw [ensures_bind, ensures_modify]
    refine ⟨hs₄.forgiveAllocations _, hsame₄.trans ⟨rfl, rfl, rfl⟩, window, none, rfl, fun _ hnone => ?_⟩
    rw [hrecovered.2] at hnone
    cases hnone
  · refine ⟨hs₄, hsame₄, window, _, rfl, fun hne _ => ?_⟩
    cases exhausted with
    | true => exact ⟨by simp, fun e he => (Option.some.inj he).symm⟩
    | false =>
      refine ⟨fun _ => ?_, by simp⟩
      have h := hspent hne rfl
      have hleft : s₄.failuresLeft (names budgets) = s₁.failuresLeft (names budgets) := by
        rw [failuresLeft, failuresLeft, hadaptive]
      have hloadable : s₄.loadable (names budgets) = s₁.loadable (names budgets) := by
        rw [loadable, loadable, hloads.loadFailures]
      exact ⟨hleft ▸ h.left_le, hloadable ▸ h.loadable_le, hleft ▸ h.transcribe, hloadable ▸ h.load⟩

/-- What is left is less after a round that its allocation failures have not ended. -/
theorem rank_lt {loading : Bool} {allocations : List Allocation} (hcauses : Causes loading allocations)
    (hspent : Spent (names budgets) (allocations.map fun x => x.2.1) s s') (hnone : s'.cohort = none)
    (hleft : s.failuresLeft (names budgets) = s''.failuresLeft (names budgets))
    (hloads : loading = true → s''.cohort = none ∧ s.loadFailures = s''.loadFailures) :
    s'.rank (names budgets) < s''.rank (names budgets) := by
  obtain ⟨x, rest, rfl⟩ := List.exists_cons_of_ne_nil hcauses.1
  have hcard : (s'.loadable (names budgets)).card ≤ (names budgets).card := Finset.card_filter_le _ _
  rw [rank, rank, if_pos hnone, ← hleft]
  cases hphase : x.2.1 with
  | transcribe =>
    -- The failure of an inference pays for as many failed loads as there can be.
    have hlt := hspent.transcribe (by rw [List.map_cons, hphase]; exact List.mem_cons_self)
    have hpaid : ((names budgets).card + 1) * (s'.failuresLeft (names budgets) + 1) ≤
        ((names budgets).card + 1) * s.failuresLeft (names budgets) := Nat.mul_le_mul_left _ hlt
    rw [Nat.mul_add, Nat.mul_one] at hpaid
    omega
  | load =>
    have hloading : loading = true := by
      by_contra hnot
      have htranscribe := hcauses.2 (Bool.eq_false_iff.2 hnot) x List.mem_cons_self
      rw [hphase] at htranscribe
      cases htranscribe
    obtain ⟨hcohort, hcounts⟩ := hloads hloading
    have hlt := hspent.load (by rw [List.map_cons, hphase]; exact List.mem_cons_self)
    have hle := Nat.mul_le_mul_left ((names budgets).card + 1) hspent.left_le
    have hloadable : s''.loadable (names budgets) = s.loadable (names budgets) := by
      rw [loadable, loadable, hcounts]
    rw [if_pos hcohort, hloadable]
    omega

/-- The error that a recovery is about is one of the allocation failures. -/
theorem controlError_eq (error : Exc) {allocations : List Allocation} (hne : allocations ≠ []) :
    ∃ phase worker attempted, controlError error allocations = .workerAllocationFailure phase worker attempted := by
  obtain ⟨⟨worker, phase, attempted⟩, rest, rfl⟩ := List.exists_cons_of_ne_nil hne
  exact ⟨phase, worker, attempted, rfl⟩

/-- What a round without a commit does to what is left. -/
def Decreases (budgets : AList fun _ : String => AdaptiveChunkState) (s s' : Driver W H) : Turn → Prop
  | .left => True
  | .went => s'.rank (names budgets) ≤ s.rank (names budgets)
  | .recovered loading allocations window raised =>
    Causes loading allocations → externalPressureRecovered window = false →
      (raised = none → s'.rank (names budgets) < s.rank (names budgets)) ∧
        ∀ e, raised = some e → ∃ phase worker attempted, e = .workerAllocationFailure phase worker attempted

theorem recoverTurn_spec {s₀ : Driver W H} (hs : s₀.Within budgets) (hraised : Raised s₀ s) (e : Exc) :
    Ensures (recoverTurn rt e) s
      (fun t s' => s'.Within budgets ∧ s'.loading = false ∧
        s₀.coordinator.state.completedChunks ≤ s'.coordinator.state.completedChunks ∧
        (s'.coordinator.state = s₀.coordinator.state → Decreases budgets s₀ s' t))
      (fun _ _ => True) := by
  rw [recoverTurn, ensures_bind, ensures_get, ensures_bind]
  refine ((uncounted_drainReason rt e).spec s).mono ?_ fun _ _ _ => trivial
  rintro reason s₁ ⟨h₁, hloads₁⟩
  rw [ensures_bind, ensures_onSelf, Coordinator.pauseDispatch, ensures_modify, ensures_bind,
    ensures_get, ensures_bind]
  refine (drain_ledger rt reason true).mono ?_ fun _ _ _ => trivial
  rintro drained s₂ ⟨h₂, hstate₂, hcounts₂, hloading₂⟩
  have hdrained : After s₁ s₂ := ⟨h₂.completed_le, h₂.adaptive_eq, h₂.within⟩
  -- The drain may commit chunks, and counts no failure.
  have hafter : After s₀ s₂ := hraised.after.trans (h₁.trans hdrained)
  have hcounts : s₂.loadFailures = s.loadFailures := hcounts₂.trans hloads₁.loadFailures
  rw [resumeTurn]
  cases terminalErrors _ with
  | cons terminal _ => exact trivial
  | nil =>
    rw [ensures_bind]
    refine ((uncounted_onWorld _).spec s₂).mono ?_ fun _ _ _ => trivial
    rintro _ s₃ ⟨h₃, hloads₃⟩
    refine ensures_ite.2 ⟨fun _ => trivial, fun _ => ?_⟩
    rw [ensures_bind, ensures_modify]
    have hafter₃ : After s₀ s₃ := hafter.trans h₃
    set s₄ : Driver W H := { s₃ with cohort := none } with hs₄
    have hafter₄ : After s₀ s₄ := hafter₃.trans (.of_eq rfl rfl)
    refine (awaitTurn_spec rt (hafter₄.within _ hs) _ _ _).mono ?_ fun _ _ _ => trivial
    rintro t s' ⟨hs', hsame, window, raised, rfl, hspent⟩
    refine ⟨hs', hsame.loading.trans (hloads₃.loading.trans hloading₂),
      hafter₄.completed_le.trans (congrArg _ hsame.state).ge, fun hstate hcauses hwindow => ?_⟩
    obtain ⟨hnone, hsome⟩ := hspent hcauses.1 hwindow
    refine ⟨fun hreturned => ?_, fun e he => ?_⟩
    · -- No chunk was committed, so the cohort is the same and a failure was spent on it.
      have hadaptive := hafter₄.adaptive_eq (congrArg AssemblyState.completedChunks (hsame.state.symm.trans hstate))
      refine rank_lt hcauses (hnone hreturned) hsame.cohort ?_ fun hloading => ?_
      · rw [failuresLeft, failuresLeft, hadaptive]
      · obtain ⟨hcohort, hsameCounts⟩ := hraised.loading hloading
        exact ⟨hcohort, hloads₃.loadFailures.trans (hcounts.trans hsameCounts)⟩
    · rw [hsome e he]
      exact controlError_eq _ hcauses.1

/-- A round keeps the budgets in their ranges, and takes from what is left unless a chunk is committed. -/
theorem turn_spec (hs : s.Within budgets) (hloading : s.loading = false) :
    Ensures (turn rt) s
      (fun t s' => s'.Within budgets ∧ s'.loading = false ∧
        s.coordinator.state.completedChunks ≤ s'.coordinator.state.completedChunks ∧
        (s'.coordinator.state = s.coordinator.state → Decreases budgets s s' t))
      (fun _ _ => True) := by
  rw [turn, ensures_bind, ensures_modify, ensures_tryCatch]
  set s₀ : Driver W H := { s with errors := [] }
  refine (body_ledger rt (s := s₀) hloading).mono ?_ ?_
  · rintro t s' ⟨hafter, hloading', hended⟩
    refine ⟨hafter.within _ hs, hloading', hafter.completed_le, fun hstate => ?_⟩
    rcases hended with rfl | ⟨rfl, hsome⟩
    · exact trivial
    · have hcohort : s'.cohort ≠ none := fun h => by rw [h] at hsome; cases hsome
      have hadaptive := hafter.adaptive_eq (congrArg AssemblyState.completedChunks hstate)
      change s'.rank (names budgets) ≤ s.rank (names budgets)
      rw [rank, rank, if_neg hcohort, failuresLeft, hadaptive]
      exact Nat.le_add_right _ _
  · intro e s' hraised
    refine ensures_ite.2 ⟨fun _ => ?_, fun _ => trivial⟩
    have hs₀ : s₀.Within budgets := hs
    exact (recoverTurn_spec rt hs₀ hraised e).mono (fun t s'' h => h) fun _ _ _ => trivial

/-! ## Stretches of rounds -/

/-- Rounds from `s` on in which no chunk is committed, `n` of them with a control signal: these are about
    allocation failures, and no external recovery is reported behind them. -/
inductive Stretch (s : Driver W H) : ℕ → Driver W H → Prop
  | start : Stretch s 0 s
  | went {n : ℕ} {s' s'' : Driver W H} (h : Stretch s n s') (hturn : turn rt s' = .ok .went s'')
      (hstate : s''.coordinator.state = s'.coordinator.state) : Stretch s n s''
  | failed {n : ℕ} {s' s'' : Driver W H} {loading : Bool} {allocations : List Allocation}
      {window : Option (ℤ × ℤ)} (h : Stretch s n s')
      (hturn : turn rt s' = .ok (.recovered loading allocations window none) s'')
      (hcauses : Causes loading allocations) (hwindow : externalPressureRecovered window = false)
      (hstate : s''.coordinator.state = s'.coordinator.state) : Stretch s (n + 1) s''

variable {rt}

theorem Stretch.rank_le (hs : s.Within budgets) (hloading : s.loading = false) {n : ℕ} (h : Stretch rt s n s') :
    s'.Within budgets ∧ s'.loading = false ∧ s'.rank (names budgets) + n ≤ s.rank (names budgets) := by
  induction h with
  | start => exact ⟨hs, hloading, le_rfl⟩
  | went h hturn hstate ih =>
    obtain ⟨hwithin, hloading', hle⟩ := ih
    have hspec := turn_spec rt hwithin hloading'
    rw [ensures_of_ok hturn] at hspec
    have hrank := hspec.2.2.2 hstate
    rw [Decreases] at hrank
    exact ⟨hspec.1, hspec.2.1, by omega⟩
  | failed h hturn hcauses hwindow hstate ih =>
    obtain ⟨hwithin, hloading', hle⟩ := ih
    have hspec := turn_spec rt hwithin hloading'
    rw [ensures_of_ok hturn] at hspec
    have hrank := (hspec.2.2.2 hstate hcauses hwindow).1 rfl
    exact ⟨hspec.1, hspec.2.1, by omega⟩

/-- What holds before a round holds behind it. -/
theorem within_of_round (hs : s.Within budgets) (hloading : s.loading = false)
    (h : round rt s = .ok false s') : s'.Within budgets ∧ s'.loading = false := by
  rw [round_eq] at h
  obtain ⟨t, s₁, hturn, hfinish⟩ := run_bind_eq_ok.1 h
  have hspec := turn_spec rt hs hloading
  rw [ensures_of_ok hturn] at hspec
  have hsame : s' = s₁ := by
    cases t with
    | left => cases hfinish
    | went => exact (EStateM.Result.ok.inj hfinish).2.symm
    | recovered loading allocations window raised =>
      cases raised with
      | none => exact (EStateM.Result.ok.inj hfinish).2.symm
      | some e => cases hfinish
  exact hsame ▸ ⟨hspec.1, hspec.2.1⟩

theorem within_of_rounds (hs : s.Within budgets) (hloading : s.loading = false)
    (h : ReflTransGen (fun s s' => round rt s = .ok false s') s s') :
    s'.Within budgets ∧ s'.loading = false := by
  induction h with
  | refl => exact ⟨hs, hloading⟩
  | tail _ hround ih => exact within_of_round ih.1 ih.2 hround

/-- The ratios of the baselines to the minimums. -/
noncomputable def ratios (budgets : AList fun _ : String => AdaptiveChunkState) : List ℝ :=
  budgets.entries.map fun e => (e.2.baselineSeconds : ℝ) / e.2.minimumSeconds

/-- A bound on the rounds of a stretch: a failed load of every worker behind each failure of an inference,
    and before the first one. -/
noncomputable def allocationRounds (ratios : List ℝ) : ℕ :=
  (ratios.length + 1) * (ratios.map fun r => 3 * ⌈Real.logb 2 r⌉₊ + 2).sum + ratios.length

theorem rank_le_allocationRounds (hs : s.Within budgets) :
    s.rank (names budgets) ≤ allocationRounds (ratios budgets) := by
  have hcard : (names budgets).card = (ratios budgets).length := by
    rw [names, List.toFinset_card_of_nodup budgets.keys_nodup, ratios, List.length_map, AList.keys, List.keys,
      List.length_map]
  have hleft : s.failuresLeft (names budgets) ≤
      ((ratios budgets).map fun r => 3 * ⌈Real.logb 2 r⌉₊ + 2).sum := by
    calc s.failuresLeft (names budgets)
        ≤ ∑ worker ∈ names budgets, (budgets.lookup worker).elim 0 fun a₀ =>
            3 * AdaptiveChunkState.halvings a₀.baselineSeconds a₀.minimumSeconds + 2 := by
          refine Finset.sum_le_sum fun worker _ => ?_
          cases ha : s.adaptive.lookup worker with
          | none => exact Nat.zero_le _
          | some a =>
            obtain ⟨a₀, ha₀, hin⟩ := hs worker a ha
            rw [ha₀]
            change a.failuresLeft ≤ 3 * AdaptiveChunkState.halvings a₀.baselineSeconds a₀.minimumSeconds + 2
            rw [← hin.minimum, ← hin.baseline]
            exact AdaptiveChunkState.failuresLeft_le (hin.baseline ▸ hin.le)
      _ = ((ratios budgets).map fun r => 3 * ⌈Real.logb 2 r⌉₊ + 2).sum := by
          rw [names, List.sum_toFinset _ budgets.keys_nodup, AList.keys, List.keys, List.map_map, ratios, List.map_map]
          refine congrArg List.sum (List.map_congr_left fun e he => ?_)
          rw [Function.comp_apply, Function.comp_apply, AList.mem_lookup_iff.2 he]
          rfl
  have hloadable : (if s.cohort = none then (s.loadable (names budgets)).card else 0) ≤ (names budgets).card := by
    split_ifs
    · exact Finset.card_filter_le _ _
    · exact Nat.zero_le _
  rw [rank, allocationRounds, ← hcard]
  exact Nat.add_le_add (Nat.mul_le_mul_left _ hleft) hloadable

theorem within_of_new {d : ℚ} {world : W} (hbudgets : ∀ e ∈ budgets.entries, e.2.currentSeconds ≤ e.2.baselineSeconds)
    (h : new d budgets world = .ok s) : s.Within budgets ∧ s.loading = false := by
  rw [new] at h
  split_ifs at h
  obtain ⟨c, hc, h⟩ := bind_eq_ok.1 h
  cases h
  refine ⟨fun worker a ha => ⟨a, ha, rfl, rfl, ?_⟩, rfl⟩
  exact hbudgets ⟨worker, a⟩ (AList.mem_lookup_iff.1 ha)

/-- From any state that the rounds of a file reach, a stretch of rounds that only allocation failures
    interrupt is bounded by the number of the workers and the ratios of their baselines to their minimums;
    at the bound the next round of this kind raises the failure. Over a cohort of workers, every round that
    has an allocation failure is of this kind. -/
theorem allocation_rounds_bounded {d : ℚ} {world : W} {s₀ s₁ : Driver W H}
    (hbudgets : ∀ e ∈ budgets.entries, e.2.currentSeconds ≤ e.2.baselineSeconds)
    (hnew : new d budgets world = .ok s₀) (hreach : ReflTransGen (fun s s' => round rt s = .ok false s') s₀ s₁)
    {n : ℕ} (hstretch : Stretch rt s₁ n s) :
    n ≤ allocationRounds (ratios budgets) ∧
      (n = allocationRounds (ratios budgets) → ∀ loading allocations window raised s',
        turn rt s = .ok (.recovered loading allocations window raised) s' → Causes loading allocations →
        externalPressureRecovered window = false → s'.coordinator.state = s.coordinator.state →
        ∃ phase worker attempted,
          round rt s = .error (.workerAllocationFailure phase worker attempted) s') ∧
      (OverCohort rt → ∀ loading allocations window raised s',
        turn rt s = .ok (.recovered loading allocations window raised) s' → allocations ≠ [] →
        Causes loading allocations) := by
  obtain ⟨hs₀, hloading₀⟩ := within_of_new hbudgets hnew
  have hstart := within_of_rounds hs₀ hloading₀ hreach
  have hbound : ∀ {m : ℕ} {s' : Driver W H}, Stretch rt s₁ m s' → m ≤ allocationRounds (ratios budgets) :=
    fun h => (Nat.le_add_left _ _).trans
      ((h.rank_le hstart.1 hstart.2).2.2.trans (rank_le_allocationRounds hstart.1))
  refine ⟨hbound hstretch, fun hn loading allocations window raised s' hturn hcauses hwindow hstate => ?_,
    fun hcohort loading allocations window raised s' hturn hne => causes_of_overCohort hcohort hturn hne⟩
  obtain ⟨hwithin, hloading, -⟩ := hstretch.rank_le hstart.1 hstart.2
  cases raised with
  | none =>
    -- One more round is one too many.
    have hle := hbound (hstretch.failed hturn hcauses hwindow hstate)
    omega
  | some e =>
    have hspec := turn_spec rt hwithin hloading
    rw [ensures_of_ok hturn] at hspec
    obtain ⟨phase, worker, attempted, rfl⟩ := (hspec.2.2.2 hstate hcauses hwindow).2 e rfl
    refine ⟨phase, worker, attempted, ?_⟩
    rw [round_eq, run_bind_of_ok hturn]
    rfl

end Driver

/-- A runtime in which the one worker cannot allocate its model. -/
def crowdedRuntime : Runtime (List (Option StagedChunk)) ℕ where
  Audio := Unit
  storage := memorySpool
  checkCancelled := pure ()
  checkHealthy := pure true
  cohortFactory := pure ⟨["a"], []⟩
  loadingPolls := pure 1
  loadingResult := throw (.workerAllocationFailure .load (some "a") none)
  cancelCohort _ := pure ()
  cancellationReason := pure none
  releaseCohort := pure ()
  waitDone _ := pure []
  waitUnwound _ := pure true
  futureResult _ := throw .cancelledError
  monotonic w := (0, w)
  extractChunk _ := pure ()
  submit _ _ _ _ := pure ()
  onEvent _ := pure ()
  waitForRecovery _ := pure (some (3, 3))
  finalizeAssembly _ := pure ()
  chunkTimeout := 3600

/-- The first failed load leads to a recovery, and the second one is raised. -/
def crowdedRounds : Bool :=
  match Driver.turn crowdedRuntime oneWorker with
  | .ok (.recovered true [(some "a", .load, none)] (some (3, 3)) none) s =>
    decide (s.coordinator.state = oneWorker.coordinator.state) &&
      match Driver.round crowdedRuntime s with
      | .error (.workerAllocationFailure .load (some "a") none) _ => true
      | _ => false
  | _ => false

theorem overCohort_crowdedRuntime : Driver.OverCohort crowdedRuntime where
  inference _ := ⟨fun _ => throw .cancelledError, none, 1, rfl⟩
  staging _ _ _ := ⟨trivial, trivial⟩
  checkCancelled _ _ := ⟨trivial, trivial⟩
  checkHealthy _ _ := ⟨trivial, trivial⟩
  cohortFactory _ _ := ⟨trivial, trivial⟩
  cancelCohort _ _ _ := ⟨trivial, trivial⟩
  cancellationReason _ _ := ⟨trivial, trivial⟩
  waitDone _ _ _ := ⟨trivial, trivial⟩
  extractChunk _ _ _ := ⟨trivial, trivial⟩
  submit _ _ _ _ _ _ := ⟨trivial, trivial⟩
  onEvent _ _ _ := ⟨trivial, trivial⟩
  storeResult _ _ _ := ⟨trivial, trivial⟩
  readResult handle := yields_get_bind fun (chunks : List (Option StagedChunk)) _ => by
    cases chunks.getD handle none with
    | some staged => exact yields_pure trivial
    | none => exact yields_throw nofun
  discardResult _ _ _ := ⟨trivial, trivial⟩
  persistChunk _ _ _ _ _ := ⟨trivial, trivial⟩

/-- The first failed load is one round of a stretch; the second one is raised. -/
theorem allocation_rounds_bounded_crowded :
    ∃ s, Driver.Stretch crowdedRuntime oneWorker 1 s ∧
      1 ≤ Driver.allocationRounds (Driver.ratios oneBudget) ∧
      ∃ s', Driver.round crowdedRuntime s = .error (.workerAllocationFailure .load (some "a") none) s' := by
  have hturns : crowdedRounds = true := by decide +kernel
  have hbudgets : ∀ e ∈ oneBudget.entries, e.2.currentSeconds ≤ e.2.baselineSeconds := by decide
  unfold crowdedRounds at hturns
  split at hturns
  case h_1 s hturn =>
    obtain ⟨hstate, hround⟩ := Bool.and_eq_true_iff.1 hturns
    have hcauses := (Driver.allocation_rounds_bounded hbudgets oneWorker_new .refl .start).2.2
      overCohort_crowdedRuntime _ _ _ _ _ hturn (List.cons_ne_nil _ _)
    have hstretch : Driver.Stretch crowdedRuntime oneWorker 1 s :=
      Driver.Stretch.start.failed hturn hcauses (by decide) (of_decide_eq_true hstate)
    refine ⟨s, hstretch, (Driver.allocation_rounds_bounded hbudgets oneWorker_new .refl hstretch).1, ?_⟩
    split at hround
    case h_1 s' hs' => exact ⟨s', hs'⟩
    case h_2 => cases hround
  case h_2 => cases hturns

end Subgen

import Subgen.Parallel.ForwardProgress
import Subgen.Segmentation.Budget

/-!
# The passes of the driver's loop

What a round does to the budgets and to the counts of failed loads. A round that is interrupted by a control
signal keeps the allocation failures it was given, the window that the recovery returned, and what it raises
in the end (`turn`); `round_eq` says that a round is that, with the raise at the end.

* `ledger`: what is counted, and what decides which counts matter;
* `schedule_ledger`: up to a commit, a round leaves the budgets as they are, and resets the counts of failed
  loads only by a load that succeeds.
-/

namespace Subgen

open Procedure

variable {W H : Type}

namespace Driver

/-- The last allocation failure of a worker. -/
abbrev Allocation := Option String × AllocationPhase × Option ℚ

/-- What a round did. Behind a control signal: whether its load was still under way, its allocation failures,
    what `wait_for_recovery` returned, and what the round raises. -/
inductive Turn
  | left
  | went
  | recovered (loading : Bool) (allocations : List Allocation) (window : Option (ℤ × ℤ)) (raised : Option Exc)

variable (rt : Runtime W H)

/-- `awaitRecovery`, with the raise at its end as a value. -/
def awaitTurn (loading : Bool) (control : Exc) (allocations : List Allocation) :
    EStateM Exc (Driver W H) Turn := do
  let exhausted ← recordFailures allocations
  let s ← get
  onWorld (rt.onEvent (.yielded control s.coordinator.state))
  let recoveryWindow ← onWorld (rt.waitForRecovery control)
  onWorld rt.checkCancelled
  if allocations ≠ [] ∧ externalPressureRecovered recoveryWindow then do
    modify fun s => s.forgiveAllocations (allocations.filterMap Prod.fst)
    pure (.recovered loading allocations recoveryWindow none)
  else
    pure (.recovered loading allocations recoveryWindow (if exhausted then some control else none))

/-- What `resume` decides, without what it does then. -/
def resumeTurn (loading : Bool) (error : Exc) (reason : String) (failures : List Exc) :
    EStateM Exc (Driver W H) Turn :=
  match terminalErrors failures with
  | terminal :: _ => throw terminal
  | [] => do
    onWorld rt.checkCancelled
    if allocationsByWorker failures = [] ∧ reason ≠ "pressure" then
      throw error
    else
      modify fun s => { s with cohort := none }
      awaitTurn rt loading (controlError error (allocationsByWorker failures)) (allocationsByWorker failures)

/-- What `recover` decides. -/
def recoverTurn (error : Exc) : EStateM Exc (Driver W H) Turn := do
  let start ← get
  let reason ← drainReason rt error
  onSelf (Coordinator.pauseDispatch (.bool true))
  let s ← get
  let drained ← drain rt reason true
  resumeTurn rt start.loading error reason (s.errors ++ [error] ++ drained)

/-- A round up to its control signal, if there is one. -/
def body : EStateM Exc (Driver W H) Turn := do
  let progress ← schedule rt
  match progress with
  | .complete => pure .left
  | .committed => pure .went
  | .dispatched =>
    requireProgress rt
    pure .went

/-- What a round decides. -/
def turn : EStateM Exc (Driver W H) Turn := do
  modify fun s => { s with errors := [] }
  tryCatch (body rt) fun e => if isControl e then recoverTurn rt e else throw e

/-- What the round returns or raises. -/
def Turn.finish : Turn → EStateM Exc (Driver W H) Bool
  | .left => pure true
  | .went => pure false
  | .recovered _ _ _ raised => raised.elim (pure false) throw

/-! ## A round is a turn -/

/-- The wait for a recovery, as its turn and what follows on it. -/
theorem awaitRecovery_eq (loading : Bool) (control : Exc) (allocations : List Allocation) :
    (awaitRecovery rt control allocations >>= fun _ => pure false) =
      awaitTurn rt loading control allocations >>= Turn.finish := by
  rw [awaitRecovery, awaitTurn]
  simp only [bind_assoc]
  congr 1
  funext exhausted
  congr 1
  funext s
  congr 1
  funext _
  congr 1
  funext window
  congr 1
  funext _
  by_cases hrecovered : allocations ≠ [] ∧ externalPressureRecovered window
  · rw [if_pos hrecovered, if_pos hrecovered]
    rfl
  · rw [if_neg hrecovered, if_neg hrecovered]
    cases exhausted with
    | true => rfl
    | false => rfl

/-- `resume`, as its turn and what follows on it. -/
theorem resume_eq (loading : Bool) (error : Exc) (reason : String) (failures : List Exc) :
    (resume rt error reason failures >>= fun _ => pure false) =
      resumeTurn rt loading error reason failures >>= Turn.finish := by
  rw [resume, resumeTurn]
  cases terminalErrors failures with
  | cons terminal _ => rfl
  | nil =>
    simp only [bind_assoc]
    congr 1
    funext _
    by_cases hstop : allocationsByWorker failures = [] ∧ reason ≠ "pressure"
    · rw [if_pos hstop, if_pos hstop]
      rfl
    · rw [if_neg hstop, if_neg hstop, bind_assoc, bind_assoc]
      congr 1
      funext _
      exact awaitRecovery_eq rt loading _ _

/-- `recover`, as its turn and what follows on it. -/
theorem recover_eq (error : Exc) :
    (recover rt error >>= fun _ => pure false) = recoverTurn rt error >>= Turn.finish := by
  rw [recover, recoverTurn]
  simp only [bind_assoc]
  funext s
  change _ = (drainReason rt error >>= _) s
  refine congrFun (congrArg (drainReason rt error >>= ·) (funext fun reason => ?_)) s
  congr 1
  funext _
  congr 1
  funext s'
  congr 1
  funext drained
  exact resume_eq rt s.loading error reason _

/-- What follows a procedure with a handler can be done inside of it, if it does not raise there. -/
theorem tryCatch_bind {α β : Type} {m : EStateM Exc (Driver W H) α} {h : Exc → EStateM Exc (Driver W H) α}
    {k : α → EStateM Exc (Driver W H) β}
    (hm : ∀ s, Ensures m s (fun a _ => ∃ b, k a = pure b) fun _ _ => True) :
    (tryCatch m h >>= k) = tryCatch (m >>= k) fun e => h e >>= k := by
  funext s
  change EStateM.bind (EStateM.tryCatch m h) k s = EStateM.tryCatch (EStateM.bind m k) (fun e => EStateM.bind (h e) k) s
  have hs := hm s
  rw [Ensures] at hs
  rw [EStateM.bind, EStateM.tryCatch, EStateM.tryCatch, EStateM.bind]
  cases hresult : m s with
  | ok a s' =>
    rw [hresult] at hs
    obtain ⟨b, hb⟩ := hs
    dsimp only
    rw [hb]
    rfl
  | error e s' => rfl

/-- A body that returns has nothing left to do. -/
theorem body_finish (s : Driver W H) :
    Ensures (body rt) s (fun t _ => ∃ b, t.finish = (pure b : EStateM Exc (Driver W H) Bool)) fun _ _ => True := by
  rw [body, ensures_bind]
  refine ensures_of_forall (fun progress s' => ?_) fun _ _ => trivial
  cases progress with
  | complete => exact ⟨true, rfl⟩
  | committed => exact ⟨false, rfl⟩
  | dispatched =>
    rw [ensures_bind]
    exact ensures_of_forall (fun _ _ => ⟨false, rfl⟩) fun _ _ => trivial

/-- A round, as its turn and what follows on it. -/
theorem round_eq : round rt = turn rt >>= Turn.finish := by
  rw [round, turn, bind_assoc, tryCatch_bind (body_finish rt)]
  congr 1
  funext _
  congr 1
  · rw [body, bind_assoc]
    congr 1
    funext progress
    cases progress with
    | complete => rfl
    | committed => rfl
    | dispatched =>
      rw [bind_assoc]
      rfl
  · funext e
    by_cases he : isControl e
    · rw [if_pos he, if_pos he]
      exact recover_eq rt e
    · rw [if_neg he, if_neg he]
      rfl

/-! ## What is counted -/

/-- The budgets and the counts of failed loads, with what resets them. -/
def ledger (s : Driver W H) : (AList fun _ : String => AdaptiveChunkState) × (AList fun _ : String => ℕ) ×
    Bool × Option Cohort × AssemblyState :=
  (s.adaptive, s.loadFailures, s.loading, s.cohort, s.coordinator.state)

/-- A procedure that counts nothing, also when it raises. -/
def Uncounted {α : Type} (m : EStateM Exc (Driver W H) α) : Prop :=
  ∀ x, Preserves (fun s => s.ledger = x) m

/-- The world does not count. -/
theorem uncounted_onWorld {α : Type} (m : EStateM Exc W α) :
    Uncounted (onWorld m : EStateM Exc (Driver W H) α) := by
  intro x s hs
  rw [onWorld, ensures_onScheduler, Scheduler.ensures_onWorld]
  exact ensures_of_forall (fun _ _ => hs) fun _ _ => hs

/-- The coordinator does not count, outside of its state. -/
theorem uncounted_onSelf {α : Type} {m : EStateM Exc (Coordinator H) α}
    (hm : ∀ x, Preserves (fun c => c.state = x) m) :
    Uncounted (onSelf m : EStateM Exc (Driver W H) α) := by
  intro x s hs
  rw [ensures_onSelf]
  refine (hm s.coordinator.state s.coordinator rfl).mono (fun _ c hc => ?_) fun _ c hc => ?_
  · rw [← hs, ledger, ledger, ← hc]
  · rw [← hs, ledger, ledger, ← hc]

/-- The check counts nothing. -/
theorem uncounted_check : Uncounted (check rt : EStateM Exc (Driver W H) Unit) := fun x =>
  preserves_get_bind fun _ => preserves_bind (uncounted_onWorld _ x) fun _ => preserves_pure _

/-- Nor does the wait for a load. -/
theorem uncounted_pollLoading (polls : ℕ) :
    Uncounted (pollLoading rt polls : EStateM Exc (Driver W H) Unit) := by
  intro x
  induction polls with
  | zero => exact preserves_pure _
  | succ polls ih => exact preserves_bind (uncounted_check rt x) fun _ => ih

/-- Nor does a call of the cohort. -/
theorem uncounted_onCohort (m : EStateM Exc W Unit) :
    Uncounted (onCohort m : EStateM Exc (Driver W H) Unit) := fun x =>
  preserves_get_bind fun _ => preserves_ite (fun _ => uncounted_onWorld _ x) fun _ => preserves_pure _

/-- Nor does the reason of a drain. -/
theorem uncounted_drainReason (e : Exc) :
    Uncounted (drainReason rt e : EStateM Exc (Driver W H) String) := by
  intro x
  refine preserves_get_bind fun s => preserves_ite (fun _ => preserves_pure _) fun _ => ?_
  refine preserves_ite (fun _ => ?_) fun _ => preserves_pure _
  exact preserves_bind (uncounted_onWorld _ x) fun _ => preserves_pure _

/-- Nor does the check that something goes on. -/
theorem uncounted_requireProgress : Uncounted (requireProgress rt : EStateM Exc (Driver W H) Unit) := by
  intro x
  refine preserves_get_bind fun s => preserves_ite (fun _ => ?_) fun _ => preserves_pure _
  exact preserves_bind (uncounted_check rt x) fun _ => preserves_throw _

/-- Nor does a yield. -/
theorem uncounted_yielded (assignment : Option ChunkAssignment) :
    Uncounted (onSelf (Coordinator.yielded assignment) : EStateM Exc (Driver W H) Unit) := by
  refine uncounted_onSelf fun x c hc => ?_
  rw [Coordinator.yielded, ensures_bind]
  refine (Coordinator.requireAttempt_spec assignment).mono ?_ ?_
  · rintro a c' ⟨rfl, -⟩
    exact hc
  · rintro e c' rfl
    exact hc

/-- Nor does a claim. -/
theorem uncounted_claim (worker : String) (seconds : ℚ) :
    Uncounted (onSelf (Coordinator.claim worker seconds) : EStateM Exc (Driver W H) _) := by
  refine uncounted_onSelf fun x c hc => ?_
  refine (Coordinator.claim_spec worker seconds).mono ?_ ?_
  · rintro a? c' (⟨-, rfl⟩ | ⟨window, -, -, -, rfl⟩)
    · exact hc
    · exact hc
  · rintro e c' rfl
    exact hc

/-- A completed attempt is spooled: nothing is committed. -/
theorem uncounted_stage (a : ChunkAssignment) (started : ℚ) :
    Uncounted (stage rt a started : EStateM Exc (Driver W H) Unit) := by
  intro x
  refine preserves_bind (uncounted_onWorld _ x) fun result => preserves_bind ?_ fun _ => ?_
  · intro s hs
    rw [ensures_onScheduler]
    refine (Scheduler.completed_spec (fun _ => True) s.scheduler trivial).mono ?_ ?_
    · rintro _ t ⟨-, b, handle, -, -, hself⟩
      rw [← hs, ledger, ledger]
      change (_, _, _, _, t.self.state) = _
      rw [hself]
      rfl
    · rintro e t ⟨-, hself⟩
      rw [← hs, ledger, ledger]
      change (_, _, _, _, t.self.state) = _
      rw [hself]
  · exact preserves_modify fun _ hs => hs

/-- Nor does a result that is staged, or yielded. -/
theorem uncounted_stageOrYield (a : ChunkAssignment) (started : ℚ) :
    Uncounted (stageOrYield rt a started : EStateM Exc (Driver W H) (List Exc)) := fun x =>
  preserves_tryCatch (preserves_bind (uncounted_stage rt a started x) fun _ => preserves_pure _)
    fun _ => preserves_bind (uncounted_yielded _ x) fun _ => preserves_pure _

/-- Nor does the harvest. -/
theorem uncounted_harvest (done : List ChunkAssignment) :
    Uncounted (harvest rt done : EStateM Exc (Driver W H) (List Exc)) := by
  intro x
  induction done with
  | nil => exact preserves_pure _
  | cons a done ih =>
    refine preserves_get_bind fun s => ?_
    cases s.active.find? (fun y => y.assignment = a) with
    | none => exact ih
    | some y =>
      refine preserves_bind (preserves_modify fun _ hs => hs) fun _ => ?_
      exact preserves_bind (uncounted_stageOrYield rt a _ x) fun _ =>
        preserves_bind ih fun _ => preserves_pure _

/-- Nor do the attempts that are staged at the end. -/
theorem uncounted_stageActive (active : List ActiveChunk) :
    Uncounted (stageActive rt active : EStateM Exc (Driver W H) (List Exc)) := by
  intro x
  induction active with
  | nil => exact preserves_pure _
  | cons y rest ih =>
    refine preserves_bind (uncounted_stageOrYield rt _ _ x) fun _ => ?_
    exact preserves_bind (preserves_modify fun _ hs => hs) fun _ => preserves_bind ih fun _ => preserves_pure _

/-- Nor does a launch. -/
theorem uncounted_launch (a : ChunkAssignment) :
    Uncounted (launch rt a : EStateM Exc (Driver W H) Unit) := by
  intro x
  refine preserves_bind (uncounted_onWorld _ x) fun started => preserves_get_bind fun s => ?_
  refine preserves_tryCatch ?_ fun e => preserves_bind (uncounted_yielded _ x) fun _ => preserves_throw _
  refine preserves_bind (uncounted_onWorld _ x) fun _ => preserves_bind (uncounted_onWorld _ x) fun audio => ?_
  refine preserves_bind (uncounted_check rt x) fun _ => preserves_bind (uncounted_onWorld _ x) fun now => ?_
  refine preserves_ite (fun _ => preserves_throw _) fun _ => ?_
  exact preserves_bind (uncounted_onWorld _ x) fun _ => preserves_modify fun _ hs => hs

/-- Nor does the dispatch to a worker. -/
theorem uncounted_dispatchTo (worker : String) :
    Uncounted (dispatchTo rt worker : EStateM Exc (Driver W H) Unit) := by
  intro x
  refine preserves_bind (uncounted_check rt x) fun _ => preserves_get_bind fun s => ?_
  cases s.adaptive.lookup worker with
  | none => exact preserves_throw _
  | some adaptive =>
    refine preserves_bind (uncounted_claim _ _ x) fun claimed => ?_
    cases claimed with
    | none => exact preserves_pure _
    | some a => exact uncounted_launch rt a x

/-- Nor does the whole dispatch. -/
theorem uncounted_dispatch (busy workers : List String) :
    Uncounted (dispatch rt busy workers : EStateM Exc (Driver W H) Unit) := by
  intro x
  induction workers with
  | nil => exact preserves_pure _
  | cons worker workers ih =>
    exact preserves_ite (fun _ => ih) fun _ => preserves_bind (uncounted_dispatchTo rt worker x) fun _ => ih

/-! ## Commits and credits -/

/-- A list that maps keys does not shrink when one is set. -/
theorem length_le_insert {α : Type} {β : α → Type} [DecidableEq α] (l : AList β) (a : α) (b : β a) :
    l.entries.length ≤ (l.insert a b).entries.length := by
  have hkeys := congrArg List.length (AList.keys_insert (a := a) (b := b) l)
  rw [List.length_cons, List.length_erase] at hkeys
  simp only [AList.keys, List.keys, List.length_map] at hkeys
  split_ifs at hkeys <;> omega

/-- Only a commit takes a chunk out of the spool, and every commit is counted. -/
theorem spooled_of_steps {cb : Callbacks W H} {t t' : Scheduler W H}
    (h : Scheduler.Steps cb (fun _ => True) t t') :
    t.self.state.completedChunks ≤ t'.self.state.completedChunks ∧
      (t'.self.state.completedChunks = t.self.state.completedChunks →
        t.self.ready.entries.length ≤ t'.self.ready.entries.length) := by
  refine Scheduler.steps_invariant (I := fun t' => t.self.state.completedChunks ≤ t'.self.state.completedChunks ∧
    (t'.self.state.completedChunks = t.self.state.completedChunks →
      t.self.ready.entries.length ≤ t'.self.ready.entries.length)) ?_ h ⟨le_rfl, fun _ => le_rfl⟩
  rintro t₁ t₂ hstep ⟨hle, hspooled⟩
  cases hstep with
  | spool a result staged handle world hmade ha hstaged hstore =>
    exact ⟨hle, fun hsame => (hspooled hsame).trans (length_le_insert _ _ _)⟩
  | commit window handle staged nextState world world' hready hread hchecked hpersist =>
    obtain ⟨-, -, -, -, -, hnext⟩ := eq_of_prepareCommit hchecked
    have hlt : t.self.state.completedChunks < nextState.completedChunks := hnext ▸ Nat.lt_succ_of_le hle
    exact ⟨hlt.le, fun hsame => absurd hsame hlt.ne'⟩
  | assign | putBack | pause | storeRaises | read | persistRaises | check => exact ⟨hle, hspooled⟩

/-- Every budget is one of those of the file, in its range. -/
def Within (budgets : AList fun _ : String => AdaptiveChunkState) (s : Driver W H) : Prop :=
  ∀ worker a, s.adaptive.lookup worker = some a → ∃ a₀, budgets.lookup worker = some a₀ ∧
    a.InRange a₀.minimumSeconds a₀.baselineSeconds

/-- The counts of failed loads, and what resets them, are as before. -/
structure SameLoads (s s' : Driver W H) : Prop where
  loadFailures : s'.loadFailures = s.loadFailures
  loading : s'.loading = s.loading
  cohort : s'.cohort = s.cohort

/-- Commits only go forward; without one the budgets are as before. -/
structure After (s s' : Driver W H) : Prop where
  completed_le : s.coordinator.state.completedChunks ≤ s'.coordinator.state.completedChunks
  adaptive_eq : s'.coordinator.state.completedChunks = s.coordinator.state.completedChunks →
    s'.adaptive = s.adaptive
  within : ∀ budgets, s.Within budgets → s'.Within budgets

variable {s s' s'' : Driver W H}

/-- The loads are the same as themselves. -/
theorem SameLoads.refl (s : Driver W H) : SameLoads s s := ⟨rfl, rfl, rfl⟩

/-- They are the same behind two procedures. -/
theorem SameLoads.trans (h : SameLoads s s') (h' : SameLoads s' s'') : SameLoads s s'' :=
  ⟨h'.loadFailures.trans h.loadFailures, h'.loading.trans h.loading, h'.cohort.trans h.cohort⟩

/-- Where nothing was counted nothing has shrunk. -/
theorem After.of_eq (hadaptive : s'.adaptive = s.adaptive)
    (hstate : s'.coordinator.state = s.coordinator.state) : After s s' :=
  ⟨(congrArg _ hstate).ge, fun _ => hadaptive, fun budgets h => by rwa [Within, hadaptive]⟩

/-- A state is behind itself. -/
theorem After.refl (s : Driver W H) : After s s := .of_eq rfl rfl

/-- What is behind a later state is behind an earlier one. -/
theorem After.trans (h : After s s') (h' : After s' s'') : After s s'' := by
  refine ⟨h.completed_le.trans h'.completed_le, fun hsame => ?_, fun budgets hs => h'.within _ (h.within _ hs)⟩
  have hle := h.completed_le
  have hle' := h'.completed_le
  exact (h'.adaptive_eq (by omega)).trans (h.adaptive_eq (by omega))

/-- The ledger determines what is counted. -/
theorem eq_of_ledger (h : s'.ledger = s.ledger) : s'.adaptive = s.adaptive ∧
    s'.coordinator.state = s.coordinator.state ∧ SameLoads s s' := by
  simp only [ledger, Prod.mk.injEq] at h
  exact ⟨h.1, h.2.2.2.2, h.2.1, h.2.2.1, h.2.2.2.1⟩

/-- Where nothing is counted, everything is as before. -/
theorem Uncounted.spec {α : Type} {m : EStateM Exc (Driver W H) α} (hm : Uncounted m) (s : Driver W H) :
    Ensures m s (fun _ s' => After s s' ∧ SameLoads s s') (fun _ s' => After s s' ∧ SameLoads s s') := by
  refine (hm s.ledger s rfl).mono (fun _ s' h => ?_) fun _ s' h => ?_
  · obtain ⟨hadaptive, hstate, hloads⟩ := eq_of_ledger h
    exact ⟨.of_eq hadaptive hstate, hloads⟩
  · obtain ⟨hadaptive, hstate, hloads⟩ := eq_of_ledger h
    exact ⟨.of_eq hadaptive hstate, hloads⟩

/-- A budget is replaced by one in the same range. -/
theorem Within.insert {budgets : AList fun _ : String => AdaptiveChunkState} (h : s.Within budgets)
    {worker : String} {a a' : AdaptiveChunkState} (ha : s.adaptive.lookup worker = some a)
    (hrange : ∀ {m b : ℕ}, a.InRange m b → a'.InRange m b)
    (hs' : s'.adaptive = s.adaptive.insert worker a') : s'.Within budgets := by
  intro worker' a'' ha''
  rw [hs'] at ha''
  by_cases heq : worker' = worker
  · subst heq
    rw [AList.lookup_insert, Option.some.injEq] at ha''
    obtain ⟨a₀, ha₀, hin⟩ := h _ _ ha
    exact ⟨a₀, ha₀, ha'' ▸ hrange hin⟩
  · rw [AList.lookup_insert_ne heq] at ha''
    exact h _ _ ha''

/-- The account of one commit. -/
theorem committed_ledger (window : ChunkWindow) (s : Driver W H) :
    Ensures (committed rt window) s
      (fun _ s' => s'.coordinator.state = s.coordinator.state ∧ SameLoads s s' ∧
        ∀ budgets, s.Within budgets → s'.Within budgets)
      (fun _ s' => s'.coordinator.state = s.coordinator.state ∧ SameLoads s s' ∧
        ∀ budgets, s.Within budgets → s'.Within budgets) := by
  have hsame : ∀ s' : Driver W H, s'.adaptive = s.adaptive → ∀ budgets, s.Within budgets → s'.Within budgets :=
    fun s' h budgets hs => by rwa [Within, h]
  rw [committed, ensures_bind, ensures_get]
  cases s.stagedOwners.lookup window.coreStart with
  | none => exact ⟨rfl, .refl s, hsame s rfl⟩
  | some entry =>
    obtain ⟨owner, completedGeneration⟩ := entry
    -- The callback sees the world only: the account is that of the state before it.
    have hevent : ∀ s₁ : Driver W H, s₁.coordinator.state = s.coordinator.state → SameLoads s s₁ →
        (∀ budgets, s.Within budgets → s₁.Within budgets) →
        Ensures (onWorld (rt.onEvent (.committed owner window s.coordinator.state))) s₁
          (fun _ s' => s'.coordinator.state = s.coordinator.state ∧ SameLoads s s' ∧
            ∀ budgets, s.Within budgets → s'.Within budgets)
          (fun _ s' => s'.coordinator.state = s.coordinator.state ∧ SameLoads s s' ∧
            ∀ budgets, s.Within budgets → s'.Within budgets) := by
      intro s₁ hstate hloads hwithin
      refine (uncounted_onWorld _ s₁.ledger s₁ rfl).mono (fun _ s' h => ?_) fun _ s' h => ?_
      · obtain ⟨hadaptive, hstate', hloads'⟩ := eq_of_ledger h
        exact ⟨hstate'.trans hstate, hloads.trans hloads', fun budgets hs => by
          rw [Within, hadaptive]
          exact hwithin budgets hs⟩
      · obtain ⟨hadaptive, hstate', hloads'⟩ := eq_of_ledger h
        exact ⟨hstate'.trans hstate, hloads.trans hloads', fun budgets hs => by
          rw [Within, hadaptive]
          exact hwithin budgets hs⟩
    dsimp only
    rw [ensures_bind, ensures_modify, ensures_bind, creditOwner, ensures_bind, ensures_get, ensures_ite]
    refine ⟨fun _ => ?_, fun _ => hevent _ rfl ⟨rfl, rfl, rfl⟩ (hsame _ rfl)⟩
    dsimp only
    -- A success leaves the counters within their budgets.
    cases ha : s.adaptive.lookup owner with
    | none => exact ⟨rfl, ⟨rfl, rfl, rfl⟩, hsame _ rfl⟩
    | some a =>
      rw [ensures_modify]
      exact hevent _ rfl ⟨rfl, rfl, rfl⟩ fun budgets hs =>
        hs.insert ha (fun hin => hin.recordSuccess true) rfl

/-- A commit is counted before its credit is. -/
theorem commitAllReady_ledger (rounds : ℕ) (s : Driver W H) :
    Ensures (commitAllReady rt rounds) s (fun _ s' => After s s' ∧ SameLoads s s')
      (fun _ s' => After s s' ∧ SameLoads s s') := by
  induction rounds generalizing s with
  | zero => exact ⟨.refl s, .refl s⟩
  | succ rounds ih =>
    rw [commitAllReady, ensures_bind, ensures_get, ensures_bind, ensures_onScheduler]
    have hafter : ∀ t, Scheduler.Steps rt.storage (fun _ => True) s.scheduler t →
        After s { s with scheduler := t } := fun t hsteps =>
      ⟨(spooled_of_steps hsteps).1, fun _ => rfl, fun _ h => h⟩
    refine ((Scheduler.commitReady_spec (fun _ => True) trivial s.scheduler).and
      (Scheduler.commitReady_one (runtimeCheck_ne_false rt s.cohort.isSome) s.scheduler)).mono ?_
      fun _ t ht => ⟨hafter t ht.1.1, rfl, rfl, rfl⟩
    rintro windows t ⟨⟨hsteps, _⟩, _, hcons⟩
    cases windows with
    | nil => exact ⟨hafter t hsteps, rfl, rfl, rfl⟩
    | cons window _ =>
      obtain ⟨hle, hspooled⟩ := spooled_of_steps hsteps
      have hlt : s.coordinator.state.completedChunks < t.self.state.completedChunks :=
        lt_of_le_of_ne hle fun heq => absurd (hcons (List.cons_ne_nil _ _)) (hspooled heq.symm).not_gt
      have hcredited : ∀ s₁ : Driver W H, s₁.coordinator.state = t.self.state →
          (∀ budgets, Within budgets { s with scheduler := t } → s₁.Within budgets) → After s s₁ := by
        intro s₁ hstate hwithin
        rw [← hstate] at hlt
        exact ⟨hlt.le, fun hsame => absurd hsame hlt.ne', fun budgets h => hwithin budgets h⟩
      rw [ensures_bind]
      refine (committed_ledger rt window _).mono ?_ ?_
      · rintro _ s₁ ⟨hstate, hloads, hwithin⟩
        have hfirst := hcredited s₁ hstate hwithin
        have hloads' : SameLoads s s₁ := ⟨hloads.loadFailures, hloads.loading, hloads.cohort⟩
        exact (ih s₁).mono (fun _ _ h => ⟨hfirst.trans h.1, hloads'.trans h.2⟩)
          fun _ _ h => ⟨hfirst.trans h.1, hloads'.trans h.2⟩
      · rintro _ s₁ ⟨hstate, hloads, hwithin⟩
        exact ⟨hcredited s₁ hstate hwithin, hloads.loadFailures, hloads.loading, hloads.cohort⟩

/-! ## A round up to its control signal -/

/-- A round that raises with its load under way had no cohort, and has reset no count. -/
structure Raised (s s' : Driver W H) : Prop where
  after : After s s'
  loading : s'.loading = true → s.cohort = none ∧ s'.loadFailures = s.loadFailures

/-- What was raised outside of a load counts nothing. -/
theorem Raised.of_not_loading (hafter : After s s') (h : s'.loading = false) : Raised s s' :=
  ⟨hafter, fun hloading => by rw [h] at hloading; cases hloading⟩

/-- Only a load that succeeds resets the counts of failed loads. -/
theorem loadCohort_ledger (hloading : s.loading = false) :
    Ensures (loadCohort rt) s (fun _ s' => After s s' ∧ s'.loading = false ∧ s'.cohort.isSome = true)
      (fun _ s' => Raised s s') := by
  rw [loadCohort, ensures_bind, ensures_get, ensures_ite]
  refine ⟨fun hsome => ⟨.refl s, hloading, hsome⟩, fun hcohort => ?_⟩
  have hnone : s.cohort = none := Option.not_isSome_iff_eq_none.1 hcohort
  rw [ensures_bind]
  refine ((uncounted_onWorld _).spec s).mono ?_ fun _ s' h => .of_not_loading h.1 (h.2.loading.trans hloading)
  rintro candidate s₁ ⟨h₁, hloads₁⟩
  have hloading₁ := hloads₁.loading.trans hloading
  have hafter₁ : ∀ s' : Driver W H, s'.adaptive = s₁.adaptive →
      s'.coordinator.state = s₁.coordinator.state → After s s' := fun s' ha hc => h₁.trans (.of_eq ha hc)
  rw [ensures_bind, ensures_modify, ensures_ite]
  refine ⟨fun _ => .of_not_loading (hafter₁ _ rfl rfl) hloading₁, fun _ => ensures_ite.2
    ⟨fun _ => .of_not_loading (hafter₁ _ rfl rfl) hloading₁, fun _ => ?_⟩⟩
  rw [ensures_bind, ensures_modify, ensures_bind]
  set s₂ : Driver W H :=
    { s₁ with cohort := some candidate, identity := some candidate.identity, loading := true }
  have h₂ : After s s₂ := hafter₁ s₂ rfl rfl
  -- While the load is under way, nothing is counted.
  have hraised : ∀ s' : Driver W H, After s₂ s' ∧ SameLoads s₂ s' → Raised s s' := fun s' h =>
    ⟨h₂.trans h.1, fun _ => ⟨hnone, h.2.loadFailures.trans hloads₁.loadFailures⟩⟩
  refine ((uncounted_onWorld _).spec s₂).mono ?_ fun _ s' h => hraised s' h
  intro polls s₃ h₃
  rw [ensures_bind]
  have hpoll := (uncounted_pollLoading rt polls).spec s₃
  refine hpoll.mono ?_ fun _ s' h => hraised s' ⟨h₃.1.trans h.1, h₃.2.trans h.2⟩
  intro _ s₄ h₄
  rw [ensures_bind, ensures_tryCatch]
  refine ((uncounted_onWorld _).spec s₄).mono ?_ fun _ s' h =>
    hraised s' ⟨(h₃.1.trans h₄.1).trans h.1, (h₃.2.trans h₄.2).trans h.2⟩
  intro _ s₅ h₅
  rw [ensures_bind, ensures_modify, ensures_bind, ensures_onSelf, Coordinator.pauseDispatch,
    ensures_modify, ensures_bind, ensures_get]
  set s₆ : Driver W H := { s₅ with
    scheduler := ⟨{ s₅.coordinator with dispatchPaused := false }, s₅.scheduler.world⟩
    loading := false
    loadFailures := (s₅.coordinator.workers.map fun w => (⟨w, 0⟩ : Sigma fun _ => ℕ)).toAList
    generation := s₅.generation + 1 }
  have hafter₆ : After s s₆ :=
    h₂.trans (((h₃.1.trans h₄.1).trans h₅.1).trans (.of_eq rfl rfl))
  have hcohort₆ : s₆.cohort = some candidate :=
    h₅.2.cohort.trans (h₄.2.cohort.trans h₃.2.cohort)
  refine ((uncounted_onWorld _).spec s₆).mono ?_ fun _ s' h => .of_not_loading (hafter₆.trans h.1) h.2.loading
  intro _ s₇ h₇
  exact ⟨hafter₆.trans h₇.1, h₇.2.loading, by rw [h₇.2.cohort, hcohort₆]; rfl⟩

/-- The schedule counts its commits only. -/
theorem schedule_ledger (hloading : s.loading = false) :
    Ensures (schedule rt) s
      (fun progress s' => After s s' ∧ s'.loading = false ∧ (progress ≠ .complete → s'.cohort.isSome = true))
      (fun _ s' => Raised s s') := by
  rw [schedule, ensures_bind]
  refine ((uncounted_check rt).spec s).mono ?_ fun _ s' h => .of_not_loading h.1 (h.2.loading.trans hloading)
  rintro _ s₁ ⟨h₁, hloads₁⟩
  have hloading₁ := hloads₁.loading.trans hloading
  rw [ensures_bind, ensures_get, ensures_ite]
  refine ⟨fun _ => ⟨h₁, hloading₁, fun h => absurd rfl h⟩, fun _ => ?_⟩
  rw [ensures_bind]
  refine (loadCohort_ledger rt hloading₁).mono ?_ fun _ s' h => ⟨h₁.trans h.after, fun hload => ?_⟩
  · rintro _ s₂ ⟨h₂, hloading₂, hsome₂⟩
    -- From here on there is a cohort, and no load.
    have hraised : ∀ s' : Driver W H, After s₂ s' ∧ SameLoads s₂ s' → Raised s s' := fun s' h =>
      .of_not_loading ((h₁.trans h₂).trans h.1) (h.2.loading.trans hloading₂)
    have hreturned : ∀ s' : Driver W H, After s₂ s' ∧ SameLoads s₂ s' → ∀ progress : Progress,
        After s s' ∧ s'.loading = false ∧ (progress ≠ .complete → s'.cohort.isSome = true) := fun s' h _ =>
      ⟨(h₁.trans h₂).trans h.1, h.2.loading.trans hloading₂, fun _ => h.2.cohort ▸ hsome₂⟩
    rw [ensures_bind, ensures_get, ensures_bind]
    refine ((uncounted_onWorld _).spec s₂).mono ?_ fun _ s' h => hraised s' h
    intro done s₃ h₃
    rw [ensures_bind]
    refine ((uncounted_harvest rt done).spec s₃).mono ?_ fun _ s' h =>
      hraised s' ⟨h₃.1.trans h.1, h₃.2.trans h.2⟩
    intro errors s₄ h₄
    rw [ensures_bind, ensures_modify]
    have h₄' : After s₂ { s₄ with errors := errors } ∧ SameLoads s₂ { s₄ with errors := errors } :=
      ⟨(h₃.1.trans h₄.1).trans (.of_eq rfl rfl), (h₃.2.trans h₄.2).trans ⟨rfl, rfl, rfl⟩⟩
    cases harvestError errors with
    | some e => exact hraised _ h₄'
    | none =>
      rw [ensures_bind, ensures_get, ensures_bind]
      refine (commitAllReady_ledger rt _ _).mono ?_ fun _ s' h =>
        hraised s' ⟨h₄'.1.trans h.1, h₄'.2.trans h.2⟩
      intro _ s₅ h₅
      have h₅' : After s₂ s₅ ∧ SameLoads s₂ s₅ := ⟨h₄'.1.trans h₅.1, h₄'.2.trans h₅.2⟩
      rw [ensures_bind, ensures_get, ensures_ite]
      refine ⟨fun _ => hreturned s₅ h₅' _, fun _ => ?_⟩
      rw [ensures_bind]
      exact ((uncounted_dispatch rt _ _).spec s₅).mono
        (fun _ s' h => hreturned s' ⟨h₅'.1.trans h.1, h₅'.2.trans h.2⟩ _)
        fun _ s' h => hraised s' ⟨h₅'.1.trans h.1, h₅'.2.trans h.2⟩
  · obtain ⟨hnone, hcounts⟩ := h.loading hload
    exact ⟨hloads₁.cohort.symm.trans hnone, hcounts.trans hloads₁.loadFailures⟩

/-- A round that is not interrupted ends with a cohort, unless it is the last one. -/
theorem body_ledger (hloading : s.loading = false) :
    Ensures (body rt) s
      (fun t s' => After s s' ∧ s'.loading = false ∧ (t = .left ∨ t = .went ∧ s'.cohort.isSome = true))
      (fun _ s' => Raised s s') := by
  rw [body, ensures_bind]
  refine (schedule_ledger rt hloading).mono ?_ fun _ _ h => h
  rintro progress s₁ ⟨h₁, hloading₁, hsome₁⟩
  cases progress with
  | complete => exact ⟨h₁, hloading₁, .inl rfl⟩
  | committed => exact ⟨h₁, hloading₁, .inr ⟨rfl, hsome₁ nofun⟩⟩
  | dispatched =>
    rw [ensures_bind]
    refine ((uncounted_requireProgress rt).spec s₁).mono ?_ fun _ s' h =>
      .of_not_loading (h₁.trans h.1) (h.2.loading.trans hloading₁)
    intro _ s₂ h₂
    exact ⟨h₁.trans h₂.1, h₂.2.loading.trans hloading₁, .inr ⟨rfl, h₂.2.cohort ▸ hsome₁ nofun⟩⟩

/-- A drain ends the load, and leaves the counts as they are. -/
theorem drain_ledger (reason : String) (release : Bool) :
    Ensures (drain rt reason release) s
      (fun _ s' => After s s' ∧ s'.coordinator.state = s.coordinator.state ∧ s'.loadFailures = s.loadFailures ∧
        s'.loading = false)
      (fun _ _ => True) := by
  have hsame : ∀ {s₁ s₂ : Driver W H}, s₂.ledger = s₁.ledger → s₂.adaptive = s₁.adaptive ∧
      s₂.coordinator.state = s₁.coordinator.state ∧ s₂.loadFailures = s₁.loadFailures ∧
        s₂.loading = s₁.loading := by
    intro s₁ s₂ h
    obtain ⟨hadaptive, hstate, hloads⟩ := eq_of_ledger h
    exact ⟨hadaptive, hstate, hloads.loadFailures, hloads.loading⟩
  rw [drain, ensures_bind]
  refine (uncounted_onCohort _ s.ledger s rfl).mono ?_ fun _ _ _ => trivial
  intro _ s₁ h₁
  rw [ensures_bind, ensures_get, ensures_bind]
  refine (uncounted_onWorld _ s.ledger s₁ h₁).mono ?_ fun _ _ _ => trivial
  intro unwound s₂ h₂
  refine ensures_ite.2 ⟨fun _ => ?_, fun _ => trivial⟩
  -- The load is over, whether the world ends it well or raises.
  have htake : Ensures (takeLoading rt) s₂
      (fun _ s' => s'.ledger = { s with loading := false }.ledger) (fun _ _ => True) := by
    rw [takeLoading, ensures_bind, ensures_get, ensures_ite]
    constructor
    · intro _
      rw [ensures_bind, ensures_tryCatch, ensures_bind]
      have hfalse : ∀ s' : Driver W H, s'.ledger = s.ledger →
          { s' with loading := false }.ledger = { s with loading := false }.ledger := by
        intro s' h
        simp only [ledger, Prod.mk.injEq] at h ⊢
        exact ⟨h.1, h.2.1, trivial, h.2.2.2⟩
      exact (uncounted_onWorld _ s.ledger s₂ h₂).mono (fun _ s' h => hfalse s' h) fun _ s' h => hfalse s' h
    · intro hnot
      have hloading : s.loading = false := by
        rw [← (eq_of_ledger h₂).2.2.loading]
        exact Bool.eq_false_iff.2 hnot
      refine h₂.trans ?_
      rw [ledger, ledger, hloading]
  rw [ensures_bind]
  refine htake.mono ?_ fun _ _ _ => trivial
  intro failures s₃ h₃
  rw [ensures_bind, ensures_get, ensures_bind]
  refine (uncounted_stageActive rt _ _ s₃ h₃).mono ?_ fun _ _ _ => trivial
  intro more s₄ h₄
  rw [ensures_bind]
  refine (uncounted_onCohort _ _ s₄ h₄).mono ?_ fun _ _ _ => trivial
  intro _ s₅ h₅
  obtain ⟨hadaptive, hstate, hcounts, hloading⟩ := hsame h₅
  exact ⟨.of_eq hadaptive hstate, hstate, hcounts, hloading⟩

end Driver

end Subgen

import Subgen.Parallel.Driver

/-!
# The driver makes progress

A round ends with a check that something is active, unless the file is complete; the
branch that raises there is never taken. The driver keeps the attempts in flight and
the futures in its pool the same (`Held`), so that with an empty pool nothing is in
flight; the commit loop stops only when the front is not spooled; and dispatch is
paused only without a cohort. In that state the first worker claims the front.

Most of what a round does has nothing to do with this: it asks the world, counts failures, or waits. Such a
procedure changes nothing that the invariant looks at (`view`, `Quiet`), and there is one lemma for each
(`quiet_check`, `quiet_awaitRecovery` and so on). What is left are the procedures that stage, give back,
commit and claim chunks, with a lemma of their own each (`stage_spec`, `harvest_spec`, `drain_spec`,
`commitAllReady_spec`, `launch_spec`, `dispatchTo_spec`).

* `schedule_spec`: a round up to its last check never comes to it with an empty pool;
* `scheduler_never_wedges`: the same for calls from outside and for the driver.
-/

namespace Subgen

open Procedure

variable {W H : Type}

namespace Coordinator

/-- What every step of an open coordinator keeps. -/
structure Sound (d v : ℚ) (c : Coordinator H) : Prop where
  opened : c.closed = false
  timeline : c.Timeline d v
  bounded : c.Bounded

/-- The steps of the scheduler keep the coordinator sound. -/
theorem Sound.steps {d v : ℚ} {cb : Callbacks W H} {Made : Call W → Prop}
    {s s' : Scheduler W H} (h : Sound d v s.self) (hsteps : Scheduler.Steps cb Made s s') :
    Sound d v s'.self :=
  Scheduler.steps_invariant (I := fun s => Sound d v s.self)
    (fun _ _ hstep h => ⟨hstep.closed_eq.trans h.opened, Scheduler.timeline_step hstep h.timeline,
      Scheduler.bounded_step hstep h.timeline h.bounded⟩) hsteps h

/-- A new coordinator is sound. -/
theorem sound_of_new {d v : ℚ} {workers : List String} {c : Coordinator H}
    (h : new d workers v = .ok c) : Sound d v c := by
  refine ⟨?_, timeline_of_new h, bounded_of_new h⟩
  obtain ⟨_, _, _, rfl⟩ := new_eq_ok_iff.1 h
  rfl

/-- A pause of the dispatch is not looked at. -/
theorem Sound.pause {d v : ℚ} {c : Coordinator H} (h : c.Sound d v) (b : Bool) :
    ({ c with dispatchPaused := b } : Coordinator H).Sound d v :=
  ⟨h.opened, h.timeline.pause b, h.bounded.pause b⟩

/-- A window that may be claimed is assigned. -/
theorem Sound.assign {d v : ℚ} {c : Coordinator H} (h : c.Sound d v) {worker : String}
    {seconds : ℚ} {window : ChunkWindow} (hclaimable : c.Claimable worker seconds)
    (hplan : planNextWindow c.nextRange.1 c.state.mediaDuration
      (min seconds (c.nextRange.2 - c.nextRange.1)) c.attempt c.overlap = .ok (some window)) :
    (c.assign worker window).Sound d v :=
  ⟨h.opened, h.timeline.assign hclaimable.free (c.fits_exact seconds) hplan,
    h.bounded.assign h.timeline hclaimable (c.fits_exact seconds) hplan⟩

/-- An assignment is given back. -/
theorem Sound.putBack {d v : ℚ} {c : Coordinator H} (h : c.Sound d v) {a : ChunkAssignment}
    (ha : c.inflight.lookup a.worker = some a) : (c.putBack a).Sound d v :=
  ⟨h.opened, h.timeline.putBack ha, h.bounded.putBack ha⟩

/-- The attempts in flight. -/
def assignments (c : Coordinator H) : List ChunkAssignment := c.inflight.entries.map fun e => e.2

/-- An assignment is found by its worker. -/
theorem Timeline.lookup_of_mem {d v : ℚ} {c : Coordinator H} (h : c.Timeline d v)
    {a : ChunkAssignment} (ha : a ∈ c.assignments) : c.inflight.lookup a.worker = some a := by
  obtain ⟨⟨w, b⟩, he, rfl⟩ := List.mem_map.1 ha
  obtain rfl : b.worker = w := h.inflight_worker _ he
  exact AList.mem_lookup_iff.2 he

/-- The assignments are one and the others. -/
theorem assignments_erase {c : Coordinator H} {a : ChunkAssignment}
    (h : c.inflight.lookup a.worker = some a) :
    c.assignments.Perm (a :: (c.inflight.erase a.worker).entries.map fun e => e.2) := by
  have := (perm_erase_of_lookup h).map fun e : Sigma fun _ => ChunkAssignment => e.2
  rwa [List.map_cons] at this

/-- An attempt in flight can be given back. -/
theorem yielded_eq {c : Coordinator H} {a : ChunkAssignment} (hopen : c.closed = false)
    (ha : c.inflight.lookup a.worker = some a) :
    yielded (some a) c = .ok () (c.putBack a) := by
  simp only [yielded, requireAttempt, bind, EStateM.bind, get, getThe, MonadStateOf.get,
    EStateM.get, hopen, Bool.false_eq_true, if_false, ha, if_true, pure, EStateM.pure, modify,
    modifyGet, MonadStateOf.modifyGet, EStateM.modifyGet]

end Coordinator

namespace Driver

/-- What the argument looks at: the scheduling state, the pool, and the cohort. -/
def view (s : Driver W H) : Coordinator H × List ActiveChunk × Option Cohort :=
  (s.coordinator, s.active, s.cohort)

/-- A procedure that changes none of it. -/
def Quiet {α : Type} (m : EStateM Exc (Driver W H) α) : Prop :=
  ∀ x, Preserves (fun s => s.view = x) m

/-- A procedure on the scheduler. -/
theorem ensures_onScheduler {α : Type} {m : EStateM Exc (Scheduler W H) α} {s : Driver W H}
    {Q : α → Driver W H → Prop} {E : Exc → Driver W H → Prop} :
    Ensures (onScheduler m) s Q E ↔ Ensures m s.scheduler
      (fun a t => Q a { s with scheduler := t }) (fun e t => E e { s with scheduler := t }) :=
  ensures_zoom

/-- A procedure on the coordinator. -/
theorem ensures_onSelf {α : Type} {m : EStateM Exc (Coordinator H) α} {s : Driver W H}
    {Q : α → Driver W H → Prop} {E : Exc → Driver W H → Prop} :
    Ensures (onSelf m) s Q E ↔ Ensures m s.coordinator
      (fun a c => Q a { s with scheduler := ⟨c, s.scheduler.world⟩ })
      (fun e c => E e { s with scheduler := ⟨c, s.scheduler.world⟩ }) := by
  rw [onSelf, ensures_onScheduler, Scheduler.ensures_onSelf]

/-- The world does not show in the view of the driver. -/
theorem quiet_onWorld {α : Type} (m : EStateM Exc W α) :
    Quiet (onWorld m : EStateM Exc (Driver W H) α) := by
  intro x s hs
  rw [onWorld, ensures_onScheduler, Scheduler.ensures_onWorld]
  exact ensures_of_forall (fun _ _ => hs) fun _ _ => hs

/-- Reading the clock changes nothing, and does not raise. -/
theorem clock_spec {s : Driver W H} (f : W → ℚ × W) :
    Ensures (onWorld (modifyGet f)) s (fun _ s' => s'.view = s.view) (fun _ _ => False) := by
  rw [onWorld, ensures_onScheduler, Scheduler.ensures_onWorld, ensures_modifyGet]
  rfl

variable (rt : Runtime W H)

/-- The check of the driver changes nothing that is looked at here. -/
theorem quiet_check : Quiet (check rt : EStateM Exc (Driver W H) Unit) := fun x =>
  preserves_get_bind fun _ => preserves_bind (quiet_onWorld _ x) fun _ => preserves_pure _

/-- Nor does the wait for a load. -/
theorem quiet_pollLoading (polls : ℕ) : Quiet (pollLoading rt polls : EStateM Exc (Driver W H) Unit) := by
  intro x
  induction polls with
  | zero => exact preserves_pure _
  | succ polls ih => exact preserves_bind (quiet_check rt x) fun _ => ih

/-- Nor does its end. -/
theorem quiet_takeLoading : Quiet (takeLoading rt : EStateM Exc (Driver W H) (List Exc)) := by
  intro x
  refine preserves_get_bind fun s => preserves_ite (fun _ => ?_) fun _ => preserves_pure _
  refine preserves_bind ?_ fun _ => ?_
  · exact preserves_tryCatch (preserves_bind (quiet_onWorld _ x) fun _ => preserves_pure _)
      fun _ => preserves_pure _
  · exact preserves_bind (preserves_modify fun _ hs => hs) fun _ => preserves_pure _

/-- A worker is credited with a commit. -/
theorem quiet_creditOwner (owner : String) (completedGeneration : ℕ) :
    Quiet (creditOwner owner completedGeneration : EStateM Exc (Driver W H) Unit) := by
  intro x
  refine preserves_get_bind fun s => preserves_ite (fun _ => ?_) fun _ => preserves_pure _
  cases s.adaptive.lookup owner with
  | none => exact preserves_throw _
  | some adaptive => exact preserves_modify fun _ hs => hs

/-- A commit is reported. -/
theorem quiet_committed (window : ChunkWindow) :
    Quiet (committed rt window : EStateM Exc (Driver W H) Unit) := by
  intro x
  refine preserves_get_bind fun s => ?_
  cases s.stagedOwners.lookup window.coreStart with
  | none => exact preserves_throw _
  | some owner =>
    exact preserves_bind (preserves_modify fun _ hs => hs) fun _ =>
      preserves_bind (quiet_creditOwner _ _ x) fun _ => quiet_onWorld _ x

/-- A failure to allocate is recorded. -/
theorem quiet_recordAllocation (allocation : Option String × AllocationPhase × Option ℚ) :
    Quiet (recordAllocation allocation : EStateM Exc (Driver W H) Bool) := by
  intro x
  obtain ⟨worker, phase, attempted⟩ := allocation
  cases worker with
  | none => exact preserves_throw _
  | some worker =>
    refine preserves_get_bind fun s => ?_
    cases s.adaptive.lookup worker with
    | none => exact preserves_throw _
    | some adaptive =>
      cases phase with
      | load => exact preserves_bind (preserves_modify fun _ hs => hs) fun _ => preserves_pure _
      | transcribe =>
        refine preserves_bind ?_ fun _ =>
          preserves_bind (preserves_modify fun _ hs => hs) fun _ => preserves_pure _
        exact fun s hs => ensures_ofExcept.2 ⟨fun _ _ => hs, fun _ _ => hs⟩

/-- Some of them are. -/
theorem quiet_recordAllocations (allocations : List (Option String × AllocationPhase × Option ℚ)) :
    Quiet (recordAllocations allocations : EStateM Exc (Driver W H) Bool) := by
  intro x
  induction allocations with
  | nil => exact preserves_pure _
  | cons allocation rest ih =>
    exact preserves_bind (quiet_recordAllocation allocation x) fun _ =>
      preserves_bind ih fun _ => preserves_pure _

/-- The failures are recorded, and the budgets shrink. -/
theorem quiet_recordFailures (allocations : List (Option String × AllocationPhase × Option ℚ)) :
    Quiet (recordFailures allocations : EStateM Exc (Driver W H) Bool) := fun x =>
  preserves_ite
    (fun _ => preserves_bind (preserves_modify fun _ hs => hs) fun _ => preserves_pure _)
    fun _ => quiet_recordAllocations _ x

/-- The driver waits for the recovery. -/
theorem quiet_awaitRecovery (control : Exc)
    (allocations : List (Option String × AllocationPhase × Option ℚ)) :
    Quiet (awaitRecovery rt control allocations : EStateM Exc (Driver W H) Unit) := by
  intro x
  refine preserves_bind (quiet_recordFailures _ x) fun exhausted => preserves_get_bind fun s => ?_
  refine preserves_bind (quiet_onWorld _ x) fun _ => preserves_bind (quiet_onWorld _ x) fun _ =>
    preserves_bind (quiet_onWorld _ x) fun _ => preserves_ite (fun _ => ?_) fun _ => ?_
  · exact preserves_modify fun _ hs => hs
  · exact preserves_ite (fun _ => preserves_throw _) fun _ => preserves_pure _

/-- A call of the cohort. -/
theorem quiet_onCohort (m : EStateM Exc W Unit) :
    Quiet (onCohort m : EStateM Exc (Driver W H) Unit) := fun x =>
  preserves_get_bind fun _ => preserves_ite (fun _ => quiet_onWorld _ x) fun _ => preserves_pure _

/-! ## Staging and draining -/

variable {d v : ℚ} {s s' : Driver W H}

/-- The attempts in flight are the futures in the pool. -/
structure Held (d v : ℚ) (s : Driver W H) : Prop where
  sound : s.coordinator.Sound d v
  active : s.coordinator.assignments.Perm (s.active.map ActiveChunk.assignment)

/-- The cohort, and whether dispatch is paused, are as before. -/
structure SameCohort (s s' : Driver W H) : Prop where
  cohort : s'.cohort = s.cohort
  paused : s'.coordinator.dispatchPaused = s.coordinator.dispatchPaused

/-- The cohort is the same as itself. -/
theorem SameCohort.refl (s : Driver W H) : SameCohort s s := ⟨rfl, rfl⟩

/-- It is the same behind two procedures. -/
theorem SameCohort.trans {s'' : Driver W H} (h : SameCohort s s') (h' : SameCohort s' s'') :
    SameCohort s s'' :=
  ⟨h'.cohort.trans h.cohort, h'.paused.trans h.paused⟩

/-- Only the view matters. -/
theorem Held.of_view (h : Held d v s) (hview : s'.view = s.view) : Held d v s' := by
  simp only [view, Prod.mk.injEq] at hview
  obtain ⟨hc, ha, -⟩ := hview
  exact ⟨hc ▸ h.sound, by rw [hc, ha]; exact h.active⟩

/-- The cohort is a part of the view. -/
theorem SameCohort.of_view (hview : s'.view = s.view) : SameCohort s s' := by
  simp only [view, Prod.mk.injEq] at hview
  exact ⟨hview.2.2, by rw [hview.1]⟩

variable {rt}

/-- A future that is staged has its attempt spooled; one that raises changes nothing. -/
theorem stage_spec (h : s.coordinator.Sound d v) {a : ChunkAssignment} {l : List ChunkAssignment}
    (hl : s.coordinator.assignments.Perm (a :: l)) (started : ℚ) :
    Ensures (stage rt a started) s
      (fun _ s' => s'.coordinator.Sound d v ∧ s'.coordinator.assignments.Perm l ∧
        s'.active = s.active ∧ SameCohort s s')
      (fun _ s' => s'.view = s.view) := by
  rw [stage, ensures_bind]
  refine (quiet_onWorld (rt.futureResult a) s.view s rfl).mono ?_ fun _ _ h => h
  rintro ⟨result, finished⟩ s₁ hview
  have hs₁ : s₁.coordinator = s.coordinator := congrArg Prod.fst hview
  rw [ensures_bind, ensures_onScheduler]
  refine (Scheduler.completed_spec (fun _ => True) s₁.scheduler trivial).mono ?_ ?_
  · rintro _ t ⟨hsteps, b, handle, hb, hlookup, hself⟩
    obtain rfl : a = b := Option.some.inj hb
    rw [ensures_modify]
    refine ⟨(hs₁ ▸ h : s₁.coordinator.Sound d v).steps hsteps, ?_, congrArg (·.2.1) hview,
      ⟨congrArg (·.2.2) hview, ?_⟩⟩
    · have hperm := Coordinator.assignments_erase hlookup
      have hassign : t.self.assignments =
          (s₁.coordinator.inflight.erase a.worker).entries.map fun e => e.2 := by
        rw [Coordinator.assignments, hself]
        rfl
      have : (a :: l).Perm (a :: t.self.assignments) := by
        rw [hassign]
        exact (hl.symm.trans (by rw [← hs₁])).trans hperm
      exact this.cons_inv.symm
    · change t.self.dispatchPaused = s.coordinator.dispatchPaused
      rw [hself, ← hs₁]
      rfl
  · rintro e t ⟨_, hself⟩
    have hactive : s₁.active = s.active := congrArg (·.2.1) hview
    have hcohort : s₁.cohort = s.cohort := congrArg (·.2.2) hview
    change (t.self, s₁.active, s₁.cohort) = s.view
    rw [hself.trans hs₁, hactive, hcohort]
    rfl

/-- Staged or given back, the attempt is no longer in flight, and nothing is raised. -/
theorem stageOrYield_spec (h : s.coordinator.Sound d v) {a : ChunkAssignment}
    {l : List ChunkAssignment} (hl : s.coordinator.assignments.Perm (a :: l)) (started : ℚ) :
    Ensures (stageOrYield rt a started) s
      (fun _ s' => s'.coordinator.Sound d v ∧ s'.coordinator.assignments.Perm l ∧
        s'.active = s.active ∧ SameCohort s s')
      (fun _ _ => False) := by
  rw [stageOrYield, ensures_tryCatch, ensures_bind]
  refine (stage_spec h hl started).mono (fun _ _ h => h) ?_
  intro e s₁ hview
  have hs₁ : s₁.coordinator = s.coordinator := congrArg Prod.fst hview
  have hlookup := h.timeline.lookup_of_mem (hl.mem_iff.2 List.mem_cons_self)
  rw [ensures_bind, ensures_onSelf, hs₁,
    ensures_of_ok (Coordinator.yielded_eq h.opened hlookup)]
  have hperm := hl.symm.trans (Coordinator.assignments_erase hlookup)
  exact ⟨h.putBack hlookup, hperm.cons_inv.symm, congrArg (·.2.1) hview,
    ⟨congrArg (·.2.2) hview, rfl⟩⟩

/-- The active attempts are one and the others. -/
theorem perm_eraseP {l : List ActiveChunk} {a : ChunkAssignment}
    (h : a ∈ l.map ActiveChunk.assignment) :
    (l.map ActiveChunk.assignment).Perm
      (a :: (l.eraseP fun x => x.assignment = a).map ActiveChunk.assignment) := by
  obtain ⟨x, hx, hxa⟩ := List.mem_map.1 h
  obtain ⟨y, l₁, l₂, -, hy, hl, he⟩ :=
    List.exists_of_eraseP (p := fun x : ActiveChunk => x.assignment = a) hx (by simpa using hxa)
  rw [he, hl, List.map_append, List.map_append, List.map_cons, of_decide_eq_true hy]
  exact List.perm_middle

/-- Taking the futures that are done keeps the pool and the attempts in flight the same. -/
theorem harvest_spec (h : Held d v s) (done : List ChunkAssignment) :
    Ensures (harvest rt done) s (fun _ s' => Held d v s' ∧ SameCohort s s')
      (fun _ _ => False) := by
  induction done generalizing s with
  | nil => exact ⟨h, .refl s⟩
  | cons a done ih =>
    rw [harvest, ensures_bind, ensures_get]
    cases hfind : s.active.find? (fun x => x.assignment = a) with
    | none => exact ih h
    | some x =>
      have hx : a ∈ s.active.map ActiveChunk.assignment := by
        have := List.find?_some hfind
        exact List.mem_map.2 ⟨x, List.mem_of_find?_eq_some hfind, of_decide_eq_true this⟩
      rw [ensures_bind, ensures_modify, ensures_bind]
      refine (stageOrYield_spec (s := { s with active := s.active.eraseP fun x => x.assignment = a })
        h.sound (h.active.trans (perm_eraseP hx)) x.started).mono ?_ fun _ _ h => h
      rintro errors s₁ ⟨hsound, hperm, hactive, hsame⟩
      rw [ensures_bind]
      refine (ih ⟨hsound, by rw [hactive]; exact hperm⟩).mono ?_ fun _ _ h => h
      rintro more s₂ ⟨hheld, hsame'⟩
      exact ⟨hheld, SameCohort.trans ⟨hsame.cohort, hsame.paused⟩ hsame'⟩

/-- A drain that returns leaves nothing in flight and nothing in the pool. -/
theorem stageActive_spec (h : Held d v s) {l : List ActiveChunk} (hl : s.active = l) :
    Ensures (stageActive rt l) s
      (fun _ s' => Held d v s' ∧ s'.active = [] ∧ SameCohort s s') (fun _ _ => False) := by
  induction l generalizing s with
  | nil => exact ⟨h, hl, .refl s⟩
  | cons x rest ih =>
    rw [stageActive, ensures_bind]
    have hactive : s.coordinator.assignments.Perm
        (x.assignment :: rest.map ActiveChunk.assignment) := by
      have := h.active
      rwa [hl] at this
    refine (stageOrYield_spec h.sound hactive x.started).mono ?_ fun _ _ h => h
    rintro errors s₁ ⟨hsound, hperm, hsame₁, hsame⟩
    rw [ensures_bind, ensures_modify, ensures_bind]
    have hrest : (s₁.active.eraseP fun y => y.assignment = x.assignment) = rest := by
      rw [hsame₁, hl, List.eraseP_cons_of_pos (by simp)]
    have hheld : Held d v { s₁ with
        active := s₁.active.eraseP fun y => y.assignment = x.assignment } :=
      ⟨hsound, by rw [hrest]; exact hperm⟩
    refine (ih hheld hrest).mono ?_ fun _ _ h => h
    rintro more s₂ ⟨hheld, hnil, hsame'⟩
    exact ⟨hheld, hnil, hsame'.cohort.trans hsame.cohort, hsame'.paused.trans hsame.paused⟩

/-- The drain gives back all that was active. -/
theorem drain_spec (h : Held d v s) (reason : String) (release : Bool) :
    Ensures (drain rt reason release) s (fun _ s' => Held d v s' ∧ SameCohort s s')
      (fun _ _ => True) := by
  rw [drain, ensures_bind]
  refine (quiet_onCohort _ s.view s rfl).mono ?_ fun _ _ _ => trivial
  intro _ s₁ h₁
  rw [ensures_bind, ensures_get, ensures_bind]
  refine (quiet_onWorld _ s.view s₁ h₁).mono ?_ fun _ _ _ => trivial
  intro unwound s₂ h₂
  refine ensures_ite.2 ⟨fun _ => ?_, fun _ => trivial⟩
  rw [ensures_bind]
  refine (quiet_takeLoading rt s.view s₂ h₂).mono ?_ fun _ _ _ => trivial
  intro failures s₃ h₃
  rw [ensures_bind, ensures_get, ensures_bind]
  refine (stageActive_spec (h.of_view h₃) rfl).mono ?_ fun _ _ _ => trivial
  rintro more s₄ ⟨hheld, _, hsame⟩
  rw [ensures_bind]
  refine (quiet_onCohort _ s₄.view s₄ rfl).mono ?_ fun _ _ _ => trivial
  intro _ s₅ h₅
  exact ⟨hheld.of_view h₅, ((SameCohort.of_view h₃).trans hsame).trans (.of_view h₅)⟩

/-- The reason of a drain is only looked up. -/
theorem quiet_drainReason (e : Exc) : Quiet (drainReason rt e : EStateM Exc (Driver W H) String) := by
  intro x
  refine preserves_get_bind fun s => preserves_ite (fun _ => preserves_pure _) fun _ => ?_
  refine preserves_ite (fun _ => ?_) fun _ => preserves_pure _
  exact preserves_bind (quiet_onWorld _ x) fun _ => preserves_pure _

/-- A round that was interrupted, and goes on, goes on without a cohort. -/
theorem resume_spec (h : Held d v s) (e : Exc) (reason : String) (failures : List Exc) :
    Ensures (resume rt e reason failures) s (fun _ s' => Held d v s' ∧ s'.cohort = none)
      (fun _ _ => True) := by
  rw [resume]
  cases terminalErrors failures with
  | cons terminal _ => exact trivial
  | nil =>
    rw [ensures_bind]
    refine (quiet_onWorld _ s.view s rfl).mono ?_ fun _ _ _ => trivial
    intro _ s₁ h₁
    refine ensures_ite.2 ⟨fun _ => trivial, fun _ => ?_⟩
    rw [ensures_bind, ensures_modify]
    have h₁' := h.of_view h₁
    have hnone : Held d v { s₁ with cohort := none } := ⟨h₁'.sound, h₁'.active⟩
    refine (quiet_awaitRecovery rt _ _ _ { s₁ with cohort := none } rfl).mono ?_
      fun _ _ _ => trivial
    intro _ s₂ h₂
    exact ⟨hnone.of_view h₂, (SameCohort.of_view h₂).cohort⟩

/-- Behind a recovery there is no cohort. -/
theorem recover_spec (h : Held d v s) (e : Exc) :
    Ensures (recover rt e) s (fun _ s' => Held d v s' ∧ s'.cohort = none) (fun _ _ => True) := by
  rw [recover, ensures_bind]
  refine (quiet_drainReason e s.view s rfl).mono ?_ fun _ _ _ => trivial
  intro reason s₁ h₁
  have hheld := h.of_view h₁
  rw [ensures_bind, ensures_onSelf, Coordinator.pauseDispatch, ensures_modify, ensures_bind,
    ensures_get, ensures_bind]
  have hpaused : Held d v { s₁ with
      scheduler := ⟨{ s₁.coordinator with dispatchPaused := true }, s₁.scheduler.world⟩ } :=
    ⟨hheld.sound.pause true, hheld.active⟩
  refine (drain_spec hpaused reason true).mono ?_ fun _ _ _ => trivial
  rintro drained s₂ ⟨h₂, _⟩
  exact resume_spec h₂ e reason _

/-! ## A round -/

/-- Dispatch is paused only while there is no cohort. -/
def Dispatching (s : Driver W H) : Prop :=
  s.cohort.isSome = true → s.coordinator.dispatchPaused = false

/-- After the load there is a cohort, and dispatch is open. -/
theorem loadCohort_spec (h : Held d v s) (hd : s.Dispatching) :
    Ensures (loadCohort rt) s
      (fun _ s' => Held d v s' ∧ s'.cohort.isSome = true ∧ s'.coordinator.dispatchPaused = false)
      (fun _ s' => Held d v s') := by
  rw [loadCohort, ensures_bind, ensures_get, ensures_ite]
  refine ⟨fun hsome => ⟨h, hsome, hd hsome⟩, fun _ => ?_⟩
  rw [ensures_bind]
  refine (quiet_onWorld _ s.view s rfl).mono ?_ fun _ _ h₁ => h.of_view h₁
  intro candidate s₁ h₁
  have hheld₁ := h.of_view h₁
  rw [ensures_bind, ensures_modify, ensures_ite]
  refine ⟨fun _ => ⟨hheld₁.sound, hheld₁.active⟩, fun _ => ensures_ite.2 ⟨fun _ =>
    ⟨hheld₁.sound, hheld₁.active⟩, fun _ => ?_⟩⟩
  rw [ensures_bind, ensures_modify, ensures_bind]
  set s₂ : Driver W H :=
    { s₁ with cohort := some candidate, identity := some candidate.identity, loading := true }
  have hheld₂ : Held d v s₂ := ⟨hheld₁.sound, hheld₁.active⟩
  refine (quiet_onWorld _ s₂.view s₂ rfl).mono ?_ fun _ _ h => hheld₂.of_view h
  intro polls s₃ h₃
  rw [ensures_bind]
  refine (quiet_pollLoading rt polls s₂.view s₃ h₃).mono ?_ fun _ _ h => hheld₂.of_view h
  intro _ s₄ h₄
  rw [ensures_bind, ensures_tryCatch]
  refine (quiet_onWorld _ s₂.view s₄ h₄).mono ?_ fun _ _ h => hheld₂.of_view h
  intro _ s₅ h₅
  rw [ensures_bind, ensures_modify, ensures_bind, ensures_onSelf, Coordinator.pauseDispatch,
    ensures_modify, ensures_bind, ensures_get]
  have hheld₅ := hheld₂.of_view h₅
  set s₆ : Driver W H := { s₅ with
    scheduler := ⟨{ s₅.coordinator with dispatchPaused := false }, s₅.scheduler.world⟩
    loading := false
    loadFailures := (s₅.coordinator.workers.map fun w => (⟨w, 0⟩ : Sigma fun _ => ℕ)).toAList
    generation := s₅.generation + 1 }
  have hheld₆ : Held d v s₆ := ⟨hheld₅.sound.pause false, hheld₅.active⟩
  refine (quiet_onWorld _ s₆.view s₆ rfl).mono ?_ fun _ _ h => hheld₆.of_view h
  intro _ s₇ h₇
  have hsame := SameCohort.of_view h₇
  refine ⟨hheld₆.of_view h₇, ?_, hsame.paused⟩
  rw [hsame.cohort]
  change s₅.cohort.isSome = true
  rw [(SameCohort.of_view h₅).cohort]
  rfl

variable (rt) in
/-- The check of the runtime returns true or raises. -/
theorem runtimeCheck_ne_false (hasCohort : Bool) (w w' : W) :
    runtimeCheck rt hasCohort w ≠ .ok false w' := by
  have h : Ensures (runtimeCheck rt hasCohort) w (fun r _ => r = true) (fun _ _ => True) := by
    rw [runtimeCheck, ensures_bind]
    refine ensures_of_forall (fun _ s₁ => ?_) fun _ _ => trivial
    rw [ensures_bind]
    refine ensures_of_forall (fun healthy s₂ => ?_) fun _ _ => trivial
    refine ensures_ite.2 ⟨fun _ => rfl, fun _ => ?_⟩
    rw [ensures_bind]
    exact ensures_of_forall (fun _ _ => trivial) fun _ _ => trivial
  intro hfalse
  rw [ensures_of_ok hfalse] at h
  cases h

/-- The commit loop stops only when the front is not spooled. -/
theorem commitAllReady_spec (h : Held d v s) {rounds : ℕ}
    (hrounds : s.coordinator.ready.entries.length < rounds) :
    Ensures (commitAllReady rt rounds) s
      (fun _ s' => Held d v s' ∧ SameCohort s s' ∧
        s'.coordinator.state.cursor ∉ s'.coordinator.ready)
      (fun _ s' => Held d v s') := by
  -- Each commit takes a window out of the spool, which bounds the rounds.
  induction rounds generalizing s with
  | zero => omega
  | succ rounds ih =>
    rw [commitAllReady, ensures_bind, ensures_get, ensures_bind, ensures_onScheduler]
    have hheld : ∀ t, Scheduler.Steps rt.storage (fun _ => True) s.scheduler t →
        Scheduler.SameDispatch s.coordinator t.self → Held d v { s with scheduler := t } := by
      intro t hsteps hsame
      refine ⟨h.sound.steps hsteps, ?_⟩
      change t.self.assignments.Perm _
      rw [Coordinator.assignments, hsame.inflight]
      exact h.active
    refine ((Scheduler.commitReady_spec (fun _ => True) trivial s.scheduler).and
      (Scheduler.commitReady_one (runtimeCheck_ne_false rt s.cohort.isSome) s.scheduler)).mono ?_
      fun _ t ht => hheld t ht.1.1 ht.1.2
    rintro windows t ⟨⟨hsteps, hsame⟩, hnil, hcons⟩
    have ht := hheld t hsteps hsame
    have hcohort : SameCohort s { s with scheduler := t } := ⟨rfl, hsame.paused⟩
    cases windows with
    | nil => exact ⟨ht, hcohort, hnil rfl⟩
    | cons window _ =>
      rw [ensures_bind]
      refine (quiet_committed rt window _ { s with scheduler := t } rfl).mono ?_
        fun _ _ h => ht.of_view h
      intro _ s₁ h₁
      -- One window is committed, so that the spool is shorter by one at least.
      have hlength : s₁.coordinator.ready.entries.length < rounds := by
        have hself : s₁.coordinator = t.self := congrArg Prod.fst h₁
        rw [hself]
        exact (hcons (List.cons_ne_nil _ _)).trans_le (Nat.lt_succ_iff.1 hrounds)
      refine (ih (ht.of_view h₁) hlength).mono ?_ fun _ _ h => h
      rintro _ s₂ ⟨hheld₂, hsame₂, hfront⟩
      exact ⟨hheld₂, (hcohort.trans (.of_view h₁)).trans hsame₂, hfront⟩

/-- An attempt in flight outside the pool, given back. -/
theorem yielded_spec (h : s.coordinator.Sound d v) {a : ChunkAssignment}
    (hl : s.coordinator.assignments.Perm (a :: s.active.map ActiveChunk.assignment)) :
    Ensures (onSelf (Coordinator.yielded (some a))) s (fun _ s' => Held d v s')
      (fun _ _ => False) := by
  have hlookup := h.timeline.lookup_of_mem (hl.mem_iff.2 List.mem_cons_self)
  rw [ensures_onSelf, ensures_of_ok (Coordinator.yielded_eq h.opened hlookup)]
  have hperm := hl.symm.trans (Coordinator.assignments_erase hlookup)
  exact ⟨h.putBack hlookup, hperm.cons_inv.symm⟩

/-- A claimed window is in the pool after its launch, or given back if that raises. -/
theorem launch_spec (h : s.coordinator.Sound d v) {a : ChunkAssignment}
    (hl : s.coordinator.assignments.Perm (a :: s.active.map ActiveChunk.assignment)) :
    Ensures (launch rt a) s (fun _ s' => Held d v s' ∧ SameCohort s s' ∧ s'.active ≠ [])
      (fun _ s' => Held d v s') := by
  -- Wherever the launch raises, the window is still claimed, and the handler gives it back.
  have hraise : ∀ e s', s'.view = s.view →
      Ensures (onSelf (Coordinator.yielded (some a)) >>= fun _ => throw e :
        EStateM Exc (Driver W H) Unit) s'
        (fun _ s' => Held d v s' ∧ SameCohort s s' ∧ s'.active ≠ []) (fun _ s' => Held d v s') := by
    intro e s' hview
    have hc : s'.coordinator = s.coordinator := congrArg Prod.fst hview
    have ha : s'.active = s.active := congrArg (·.2.1) hview
    rw [ensures_bind]
    exact (yielded_spec (hc ▸ h) (by rw [hc, ha]; exact hl)).mono (fun _ _ h => h)
      fun _ _ h => h.elim
  rw [launch, ensures_bind]
  refine (clock_spec rt.monotonic).mono ?_ fun _ _ h => h.elim
  intro started s₀ h₀
  rw [ensures_bind, ensures_get, ensures_tryCatch, ensures_bind]
  refine (quiet_onWorld _ s.view s₀ h₀).mono ?_ hraise
  intro _ s₁ h₁
  rw [ensures_bind]
  refine (quiet_onWorld _ s.view s₁ h₁).mono ?_ hraise
  intro audio s₂ h₂
  rw [ensures_bind]
  refine (quiet_check rt s.view s₂ h₂).mono ?_ hraise
  intro _ s₃ h₃
  rw [ensures_bind]
  refine (quiet_onWorld _ s.view s₃ h₃).mono ?_ hraise
  intro now s₄ h₄
  refine ensures_ite.2 ⟨fun _ => hraise _ s₄ h₄, fun _ => ?_⟩
  rw [ensures_bind]
  refine (quiet_onWorld _ s.view s₄ h₄).mono ?_ hraise
  intro _ s₅ h₅
  -- Nothing raises behind the last check, so that the window enters the pool.
  rw [ensures_modify]
  have hc : s₅.coordinator = s.coordinator := congrArg Prod.fst h₅
  have ha : s₅.active = s.active := congrArg (·.2.1) h₅
  refine ⟨⟨hc ▸ h, ?_⟩, ⟨congrArg (·.2.2) h₅, by rw [← hc]⟩, by simp⟩
  change s₅.coordinator.assignments.Perm _
  rw [List.map_append, List.map_singleton, hc, ha]
  exact hl.trans (List.perm_append_singleton _ _).symm

/-- What lets an idle driver dispatch: the front can be claimed. -/
structure FrontFree (c : Coordinator H) : Prop where
  notPaused : c.dispatchPaused = false
  incomplete : c.state.complete = false
  notReady : c.state.cursor ∉ c.ready

/-- A worker is given some time. -/
theorem workerSeconds_pos (s : Driver W H) (adaptive : AdaptiveChunkState) (worker : String) :
    0 < s.workerSeconds adaptive worker := by
  have hmin := adaptive.minimum_pos
  have hcurrent := adaptive.minimum_le
  rw [workerSeconds]
  cases s.rates.lookup worker with
  | none => exact Nat.cast_pos.2 (hmin.trans_le hcurrent)
  | some rate =>
    dsimp only
    exact lt_max_of_lt_left (by exact_mod_cast hmin)

/-- The claimed window is one more in flight. -/
theorem perm_assign (h : Held d v s) {worker : String} (hfree : worker ∉ s.coordinator.inflight)
    (window : ChunkWindow) :
    (s.coordinator.assign worker window).assignments.Perm
      (⟨.claimed s.coordinator.attempt, worker, window⟩ :: s.active.map ActiveChunk.assignment) := by
  rw [Coordinator.assignments, Coordinator.assign,
    AList.entries_insert_of_notMem hfree, List.map_cons]
  exact h.active.cons _

/-- With an empty pool nothing is in flight, and a claim gives the front. -/
theorem claim_of_idle (h : Held d v s) {worker : String} {seconds : ℚ} (hseconds : 0 < seconds) :
    Ensures (Coordinator.claim worker seconds) s.coordinator
      (fun a? _ => s.active = [] → FrontFree s.coordinator → worker ∈ s.coordinator.workers →
        a? ≠ none)
      (fun _ _ => True) := by
  by_cases hfront : s.active = [] ∧ FrontFree s.coordinator ∧ worker ∈ s.coordinator.workers
  · obtain ⟨hidle, hfree, hworker⟩ := hfront
    have hinflight : s.coordinator.inflight = ∅ := by
      have := h.active.length_eq
      rw [hidle, Coordinator.assignments, List.length_map] at this
      exact AList.ext (List.eq_nil_of_length_eq_zero this)
    obtain ⟨-, a, hclaim, -⟩ := Coordinator.claim_front h.sound.bounded h.sound.timeline
      h.sound.opened hfree.notPaused hfree.incomplete hinflight hfree.notReady hworker hseconds
    rw [ensures_of_ok hclaim]
    exact fun _ _ _ hnone => nomatch hnone
  · exact ensures_of_forall (fun _ _ h₁ h₂ h₃ => absurd ⟨h₁, h₂, h₃⟩ hfront) fun _ _ => trivial

/-- A free worker is given a window, and it is given one if the pool was empty. -/
theorem dispatchTo_spec (h : Held d v s) (worker : String) :
    Ensures (dispatchTo rt worker) s
      (fun _ s' => Held d v s' ∧ (s'.active = [] → s.active = []) ∧
        (s.active = [] → FrontFree s.coordinator → worker ∈ s.coordinator.workers →
          s'.active ≠ []) ∧ SameCohort s s')
      (fun _ s' => Held d v s') := by
  rw [dispatchTo, ensures_bind]
  refine (quiet_check rt s.view s rfl).mono ?_ fun _ _ h₁ => h.of_view h₁
  intro _ s₁ h₁
  have hheld := h.of_view h₁
  have hc : s₁.coordinator = s.coordinator := congrArg Prod.fst h₁
  have ha : s₁.active = s.active := congrArg (·.2.1) h₁
  have hsame : SameCohort s s₁ := .of_view h₁
  rw [ensures_bind, ensures_get]
  cases s₁.adaptive.lookup worker with
  | none => exact hheld
  | some adaptive =>
    rw [ensures_bind, ensures_onSelf]
    refine ((Coordinator.claim_spec worker _).and
      (claim_of_idle hheld (workerSeconds_pos s₁ adaptive worker))).mono ?_ ?_
    · rintro a? c ⟨⟨rfl, rfl⟩ | ⟨window, rfl, hclaimable, hplan, rfl⟩, hidle⟩
      · refine ⟨⟨hheld.sound, hheld.active⟩, fun h => ha.symm.trans h, fun h₂ h₃ h₄ => ?_,
          hsame.cohort, hsame.paused⟩
        exact absurd rfl (hidle (ha.trans h₂) (hc ▸ h₃) (hc ▸ h₄))
      · refine (launch_spec (s := { s₁ with
          scheduler := ⟨s₁.coordinator.assign worker window, s₁.scheduler.world⟩ })
          (hheld.sound.assign hclaimable hplan) (perm_assign hheld hclaimable.free window)).mono ?_
          fun _ _ h => h
        rintro _ s₂ ⟨hheld₂, hsame₂, hactive⟩
        exact ⟨hheld₂, fun h => absurd h hactive, fun _ _ _ => hactive,
          hsame₂.cohort.trans hsame.cohort, hsame₂.paused.trans hsame.paused⟩
    · rintro e c ⟨rfl, -⟩
      exact ⟨hheld.sound, hheld.active⟩

/-- Behind the dispatch every idle worker has an attempt, if one may be claimed. -/
theorem dispatch_spec (h : Held d v s) (busy workers : List String) :
    Ensures (dispatch rt busy workers) s
      (fun _ s' => Held d v s' ∧ (s'.active = [] → s.active = []) ∧ SameCohort s s')
      (fun _ s' => Held d v s') := by
  induction workers generalizing s with
  | nil => exact ⟨h, id, .refl s⟩
  | cons worker workers ih =>
    rw [dispatch, ensures_ite]
    refine ⟨fun _ => ih h, fun _ => ?_⟩
    rw [ensures_bind]
    refine (dispatchTo_spec h worker).mono ?_ fun _ _ h => h
    rintro _ s₁ ⟨hheld, hactive, _, hsame⟩
    exact (ih hheld).mono (fun _ _ h => ⟨h.1, hactive ∘ h.2.1, hsame.trans h.2.2⟩) fun _ _ h => h

/-- A dispatch to all workers leaves the pool empty only if the front could not be claimed. -/
theorem dispatch_front (h : Held d v s) (hfree : FrontFree s.coordinator) :
    Ensures (dispatch rt (s.active.map fun x => x.assignment.worker) s.coordinator.workers) s
      (fun _ s' => Held d v s' ∧ s'.active ≠ [] ∧ SameCohort s s')
      (fun _ s' => Held d v s') := by
  by_cases hidle : s.active = []
  · cases hworkers : s.coordinator.workers with
    | nil => exact absurd h.sound.bounded.workers_pos (by rw [hworkers]; exact lt_irrefl 0)
    | cons worker workers =>
      rw [hidle, dispatch, ensures_ite]
      refine ⟨fun hbusy => (List.not_mem_nil hbusy).elim, fun _ => ?_⟩
      rw [ensures_bind]
      refine (dispatchTo_spec h worker).mono ?_ fun _ _ h => h
      rintro _ s₁ ⟨hheld, _, hactive, hsame⟩
      have hne := hactive hidle hfree (by rw [hworkers]; exact List.mem_cons_self)
      exact (dispatch_spec hheld _ workers).mono
        (fun _ _ h => ⟨h.1, fun hnil => hne (h.2.1 hnil), hsame.trans h.2.2⟩) fun _ _ h => h
  · exact (dispatch_spec h _ _).mono
      (fun _ _ h => ⟨h.1, fun hnil => hidle (h.2.1 hnil), h.2.2⟩) fun _ _ h => h

/-- The condition of the last check of a round. -/
def Stuck (s : Driver W H) : Prop := s.active = [] ∧ s.coordinator.state.complete = false

/-- A round up to its last check never comes to it with an empty pool. -/
theorem schedule_spec (h : Held d v s) (hd : s.Dispatching) :
    Ensures (schedule rt) s
      (fun progress s' => Held d v s' ∧ s'.Dispatching ∧ (progress = .dispatched → ¬ s'.Stuck))
      (fun _ s' => Held d v s') := by
  rw [schedule, ensures_bind]
  refine (quiet_check rt s.view s rfl).mono ?_ fun _ _ h₁ => h.of_view h₁
  intro _ s₁ h₁
  have hheld₁ := h.of_view h₁
  have hd₁ : s₁.Dispatching := by
    have hsame := SameCohort.of_view h₁
    rw [Dispatching, hsame.cohort, hsame.paused]
    exact hd
  rw [ensures_bind, ensures_get, ensures_ite]
  refine ⟨fun _ => ⟨hheld₁, hd₁, fun h => nomatch h⟩, fun _ => ?_⟩
  rw [ensures_bind]
  refine (loadCohort_spec hheld₁ hd₁).mono ?_ fun _ _ h => h
  rintro _ s₂ ⟨hheld₂, _, hpaused₂⟩
  rw [ensures_bind, ensures_get, ensures_bind]
  refine (quiet_onWorld _ s₂.view s₂ rfl).mono ?_ fun _ _ h₃ => hheld₂.of_view h₃
  intro done s₃ h₃
  rw [ensures_bind]
  refine (harvest_spec (hheld₂.of_view h₃) done).mono ?_ fun _ _ h => h.elim
  rintro errors s₄ ⟨hheld₄, hsame₄⟩
  have hpaused₄ : s₄.coordinator.dispatchPaused = false :=
    hsame₄.paused.trans ((SameCohort.of_view h₃).paused.trans hpaused₂)
  rw [ensures_bind, ensures_modify]
  have hheld₄' : Held d v { s₄ with errors := errors } := ⟨hheld₄.sound, hheld₄.active⟩
  cases harvestError errors with
  | some e => exact hheld₄'
  | none =>
    rw [ensures_bind, ensures_get, ensures_bind]
    refine (commitAllReady_spec hheld₄' (Nat.lt_succ_self _)).mono ?_ fun _ _ h => h
    rintro _ s₅ ⟨hheld₅, hsame₅, hfront⟩
    have hpaused₅ : s₅.coordinator.dispatchPaused = false := hsame₅.paused.trans hpaused₄
    rw [ensures_bind, ensures_get, ensures_ite]
    -- Where the run is not complete, the front of the timeline is dispatched, so one is active.
    refine ⟨fun _ => ⟨hheld₅, fun _ => hpaused₅, fun h => nomatch h⟩, fun hincomplete => ?_⟩
    rw [ensures_bind]
    refine (dispatch_front hheld₅ ⟨hpaused₅, Bool.eq_false_iff.2 hincomplete, hfront⟩).mono ?_
      fun _ _ h => h
    rintro _ s₆ ⟨hheld₆, hactive, hsame₆⟩
    exact ⟨hheld₆, fun _ => hsame₆.paused.trans hpaused₅, fun _ hstuck => hactive hstuck.1⟩

variable (rt) in
/-- The check that something goes on only looks. -/
theorem quiet_requireProgress : Quiet (requireProgress rt : EStateM Exc (Driver W H) Unit) := by
  intro x
  refine preserves_get_bind fun s => preserves_ite (fun _ => ?_) fun _ => preserves_pure _
  exact preserves_bind (quiet_check rt x) fun _ => preserves_throw _

/-- What holds at the start of a round holds at the start of the next one. -/
theorem round_spec (h : Held d v s) (hd : s.Dispatching) :
    Ensures (round rt) s (fun left s' => left = false → Held d v s' ∧ s'.Dispatching)
      (fun _ _ => True) := by
  rw [round, ensures_bind, ensures_modify, ensures_tryCatch, ensures_bind]
  have hcatch : ∀ e (s' : Driver W H), Held d v s' →
      Ensures (if isControl e then recover rt e >>= fun _ => pure false else throw e) s'
        (fun left s' => left = false → Held d v s' ∧ s'.Dispatching) (fun _ _ => True) := by
    intro e s' h'
    refine ensures_ite.2 ⟨fun _ => ?_, fun _ => trivial⟩
    rw [ensures_bind]
    refine (recover_spec h' e).mono ?_ fun _ _ _ => trivial
    rintro _ s'' ⟨hheld, hnone⟩ _
    exact ⟨hheld, fun hsome => by rw [hnone] at hsome; cases hsome⟩
  refine (schedule_spec (s := { s with errors := [] }) ⟨h.sound, h.active⟩ hd).mono ?_ hcatch
  rintro progress s₁ ⟨hheld, hdispatching, _⟩
  cases progress with
  | complete => exact fun h => nomatch h
  | committed => exact fun _ => ⟨hheld, hdispatching⟩
  | dispatched =>
    rw [ensures_bind]
    refine (quiet_requireProgress rt s₁.view s₁ rfl).mono ?_ fun e s' h => hcatch e s' (hheld.of_view h)
    intro _ s₂ h₂ _
    have hsame := SameCohort.of_view h₂
    refine ⟨hheld.of_view h₂, ?_⟩
    rw [Dispatching, hsame.cohort, hsame.paused]
    exact hdispatching

/-- Behind the rounds nothing is left to claim, or they ran out. -/
theorem rounds_spec (h : Held d v s) (hd : s.Dispatching) (n : ℕ) :
    Ensures (rounds rt n) s (fun left s' => left = false → Held d v s' ∧ s'.Dispatching)
      (fun _ _ => True) := by
  induction n generalizing s with
  | zero => exact fun _ => ⟨h, hd⟩
  | succ n ih =>
    rw [rounds, ensures_bind]
    refine (round_spec h hd).mono ?_ fun _ _ _ => trivial
    intro left s₁ hleft
    cases left with
    | true => exact fun h => nomatch h
    | false => exact ih (hleft rfl).1 (hleft rfl).2

/-- A new driver holds no attempt. -/
theorem held_of_new {adaptive : AList fun _ : String => AdaptiveChunkState} {world : W}
    (h : new d adaptive world = .ok s) : Held d defaultOverlapSeconds s ∧ s.Dispatching := by
  rw [new] at h
  by_cases hlength : ¬ (1 ≤ adaptive.entries.length ∧ adaptive.entries.length ≤ 32)
  · rw [if_pos hlength] at h
    cases h
  · rw [if_neg hlength] at h
    obtain ⟨c, hc, h⟩ := bind_eq_ok.1 h
    have hsound := Coordinator.sound_of_new hc
    obtain ⟨_, _, _, hc'⟩ := Coordinator.new_eq_ok_iff.1 hc
    cases h
    refine ⟨⟨hsound, ?_⟩, fun hsome => nomatch hsome⟩
    rw [hc']
    exact List.Perm.nil

end Driver

/-- In every open state that calls of the coordinator reach, with dispatch not paused, the
    file not complete, nothing in flight and the front not spooled, a claim by any worker
    and of any positive duration returns the front. And in no round of the driver, after
    whatever rounds before it, does the last check find the pool empty and the file
    incomplete: the branch that raises there is unreachable. -/
theorem scheduler_never_wedges {d v : ℚ} {workers : List String} {c : Coordinator H}
    (hnew : Coordinator.new d workers v = .ok c) (cb : Callbacks W H) (world : W)
    (calls : List (Call W)) :
    (∀ c' : Coordinator H, c' = (Scheduler.run cb ⟨c, world⟩ calls).self → c'.closed = false →
      c'.dispatchPaused = false → c'.state.complete = false → c'.inflight = ∅ →
      c'.state.cursor ∉ c'.ready → ∀ worker ∈ workers, ∀ seconds : ℚ, 0 < seconds →
        c'.pendingCount < c'.maximumPending ∧
          ∃ a c'', Coordinator.claim worker seconds c' = .ok (some a) c'' ∧
            a.window.coreStart = c'.state.cursor) ∧
    ∀ (rt : Runtime W H) (adaptive : AList fun _ : String => AdaptiveChunkState)
      (s₀ s s' : Driver W H) (n : ℕ), Driver.new d adaptive world = .ok s₀ →
      Driver.rounds rt n s₀ = .ok false s →
      Driver.schedule rt { s with errors := [] } = .ok .dispatched s' → ¬ s'.Stuck := by
  constructor
  · -- For calls from outside: what a claim needs holds along every run.
    intro c' hc' hopen hpaused hincomplete hinflight hready worker hworker seconds hseconds
    have hstart : c.Timeline d v ∧ c.Bounded ∧ c.workers = workers := by
      refine ⟨Coordinator.timeline_of_new hnew, Coordinator.bounded_of_new hnew, ?_⟩
      obtain ⟨_, _, _, rfl⟩ := Coordinator.new_eq_ok_iff.1 hnew
      rfl
    obtain ⟨htimeline, hbounded, hworkers⟩ := Scheduler.run_invariant (fun _ => True)
      (I := fun s => s.self.Timeline d v ∧ s.self.Bounded ∧ s.self.workers = workers)
      (fun s s' hstep h => ⟨Scheduler.timeline_step hstep h.1,
        Scheduler.bounded_step hstep h.1 h.2.1, hstep.workers_eq.trans h.2.2⟩)
      (s := ⟨c, world⟩) hstart (fun _ _ => trivial) (Scheduler.allFit_exact _ _ _) (hc' ▸ hopen)
    rw [← hc'] at htimeline hbounded hworkers
    obtain ⟨hpending, a, hclaim, hfront⟩ := Coordinator.claim_front hbounded htimeline hopen hpaused
      hincomplete hinflight hready (hworkers ▸ hworker) hseconds
    exact ⟨hpending, a, _, hclaim, hfront⟩
  · -- For the driver: a round that dispatches leaves a task in the pool.
    intro rt adaptive s₀ s s' n hs₀ hrounds hschedule
    obtain ⟨hheld₀, hd₀⟩ := Driver.held_of_new hs₀
    obtain ⟨hheld, hd⟩ := (ensures_of_ok hrounds).1 (Driver.rounds_spec hheld₀ hd₀ n) rfl
    have hheld' : Driver.Held d defaultOverlapSeconds { s with errors := [] } :=
      ⟨hheld.sound, hheld.active⟩
    exact ((ensures_of_ok hschedule).1 (Driver.schedule_spec hheld' hd)).2.2 rfl

/-- The first worker gives the front back, and the second has finished what is after it. -/
def frontReturned : List (Call (List (Option StagedChunk))) :=
  [.claim "a" 10, .claim "b" 10,
    .yielded (some ⟨.claimed 0, "a", ⟨0, 30, 0, 10, 0, 15, thirty_pos, opening_intervals⟩⟩),
    .completed (some ⟨.claimed 1, "b", ⟨1, 30, 10, 20, 5, 25, thirty_pos, middle_intervals⟩⟩)
      (.dict [("segments", .list [])])]

/-- A runtime in which everything succeeds and no inference is ever done. -/
def idleRuntime : Runtime (List (Option StagedChunk)) ℕ where
  Audio := Unit
  storage := memorySpool
  checkCancelled := pure ()
  checkHealthy := pure true
  cohortFactory := pure ⟨["a"], []⟩
  loadingPolls := pure 1
  loadingResult := pure ()
  cancelCohort _ := pure ()
  cancellationReason := pure none
  releaseCohort := pure ()
  waitDone _ := pure []
  waitUnwound _ := pure true
  futureResult _ := throw .cancelledError
  monotonic w := (0, w)
  extractChunk _ := pure ()
  submit _ _ _ _ := pure ()
  onEvent _ := pure ()
  waitForRecovery _ := pure none
  finalizeAssembly _ := pure ()
  chunkTimeout := 3600

/-- One worker, with a budget of ten seconds. -/
def oneBudget : AList fun _ : String => AdaptiveChunkState :=
  AList.singleton "a" ⟨10, 5, 3, 10, 0, 0, by decide, by decide, by decide⟩

/-- The driver before its first round. -/
def oneWorker : Driver (List (Option StagedChunk)) ℕ where
  scheduler := ⟨⟨.start 30 thirty_pos, ["a"], 5, 0, 0, ∅, ∅, [], false, false⟩, []⟩
  active := []
  errors := []
  stagedOwners := ∅
  rates := ∅
  adaptive := oneBudget
  cohort := none
  identity := none
  generation := 0
  loading := false
  unconfirmed := false
  loadFailures := AList.singleton "a" 0

/-- The driver of the example is a new one. -/
theorem oneWorker_new : Driver.new 30 oneBudget [] = .ok oneWorker := by rfl

/-- A fragmented timeline, whose front was given back: it is claimed again, and the driver goes on. -/
theorem scheduler_never_wedges_frontReturned :
    (∃ a c', Coordinator.claim "b" 4 (Scheduler.run memorySpool ⟨twoWorkers, []⟩ frontReturned).self =
      .ok (some a) c' ∧ a.window.coreStart = 0) ∧
    ∃ s', Driver.schedule idleRuntime oneWorker = .ok .dispatched s' ∧ ¬ s'.Stuck := by
  obtain ⟨hclaim, hdriver⟩ := scheduler_never_wedges twoWorkers_new memorySpool [] frontReturned
  constructor
  · have hcursor : (Scheduler.run memorySpool ⟨twoWorkers, []⟩ frontReturned).self.state.cursor = 0 := by
      decide +kernel
    rw [← hcursor]
    refine (hclaim _ rfl ?_ ?_ ?_ ?_ ?_ "b" (by decide) 4 (by norm_num)).2
    · decide +kernel
    · decide +kernel
    · decide +kernel
    · exact AList.ext (List.eq_nil_of_length_eq_zero (by decide +kernel))
    · decide +kernel
  · have hdispatched : (match Driver.schedule idleRuntime oneWorker with
        | .ok .dispatched _ => true
        | _ => false) = true := by decide +kernel
    split at hdispatched
    case h_1 s' hs' =>
      exact ⟨s', hs', hdriver idleRuntime oneBudget oneWorker oneWorker s' 0 oneWorker_new rfl hs'⟩
    case h_2 => cases hdispatched

end Subgen

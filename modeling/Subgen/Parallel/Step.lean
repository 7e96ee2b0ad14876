import Subgen.Parallel.Coordinator
import Mathlib.Logic.Relation

/-!
# What the coordinator can do

One call of the coordinator is a sequence of elementary steps, each of which moves
one piece of work or lets a callback act on its world. `Step` says once what these
are, with everything that the code has checked by then; `perform_steps` says that a
call does nothing else, whether it returns or raises.

An invariant of the coordinator is thereby a property that every `Step` keeps
(`run_invariant`).

The times of a window are rounded or exact, as the instance of `Rounding` says. Where they are exact, a window
that is claimed ends inside the range that it was planned in (`fits_exact`); where they are rounded this is a
condition on the claims of a run (`AllFit`), and the other steps do not depend on it.

* `Step`: the elementary steps;
* `perform_steps`: what a call does, however it ends;
* `run_invariant`: what every step keeps holds along every run.
-/

namespace Subgen

open Procedure Relation

variable {W H : Type}

namespace Coordinator

variable {c : Coordinator H}

/-- From 1 to 32 distinct worker identities. -/
structure ValidWorkers (workers : List String) : Prop where
  pos : 1 ≤ workers.length
  le : workers.length ≤ 32
  identity : ∀ w ∈ workers, w ≠ "" ∧ w.length ≤ 64
  nodup : workers.Nodup

/-- A coordinator is built for every media of positive duration and every valid tuple of
    workers; it is open, and nothing is in any place. -/
theorem new_eq_ok_iff {d v : ℚ} {workers : List String} :
    new d workers v = .ok c ↔ ∃ hd : 0 < d, 0 ≤ v ∧ ValidWorkers workers ∧
      c = ⟨.start d hd, workers, v, 0, 0, ∅, ∅, [], false, false⟩ := by
  rw [new]
  by_cases hworkers : ¬ (1 ≤ workers.length ∧ workers.length ≤ 32) ∨
      (∃ w ∈ workers, w = "" ∨ 64 < w.length) ∨ ¬ workers.Nodup
  · rw [if_pos hworkers]
    refine iff_of_false (fun h => nomatch h) fun ⟨_, _, hvalid, _⟩ => absurd hworkers ?_
    push Not
    exact ⟨⟨hvalid.pos, hvalid.le⟩, hvalid.identity, hvalid.nodup⟩
  · rw [if_neg hworkers, bind_eq_ok]
    push Not at hworkers
    constructor
    · rintro ⟨state, hstate, h⟩
      obtain ⟨hd, rfl⟩ := AssemblyState.eq_start_of_empty hstate
      split_ifs at h with hv
      exact ⟨hd, not_lt.1 hv, ⟨hworkers.1.1, hworkers.1.2, hworkers.2.1, hworkers.2.2⟩,
        (Except.ok.inj h).symm⟩
    · rintro ⟨hd, hv, _, hc⟩
      exact ⟨_, AssemblyState.empty_eq hd, by rw [if_neg (not_lt.2 hv), hc]⟩

/-- An attempt that passes is in flight, as the object that was passed. -/
theorem requireAttempt_spec (assignment : Option ChunkAssignment) :
    Ensures (requireAttempt assignment) c
      (fun a c' => c' = c ∧ assignment = some a ∧ c.inflight.lookup a.worker = some a)
      (fun _ c' => c' = c) := by
  rw [requireAttempt, ensures_bind, ensures_get, ensures_ite]
  refine ⟨fun _ => rfl, fun _ => ?_⟩
  cases assignment with
  | none => exact rfl
  | some a => exact ensures_ite.2 ⟨fun ha => ⟨rfl, rfl, ha⟩, fun _ => rfl⟩

/-- What lets a free worker have an assignment. -/
structure Claimable (c : Coordinator H) (worker : String) (seconds : ℚ) : Prop where
  worker_mem : worker ∈ c.workers
  seconds_pos : 0 < seconds
  free : worker ∉ c.inflight
  notPaused : c.dispatchPaused = false
  pending_lt : c.pendingCount < c.maximumPending

/-- The window of a claim ends inside the range that it is planned in. With exact times this is
    so of every claim; but the rounded sum of `start` and the rounded `limit - start` may be
    greater than `limit`, which only the end of the media cuts off. -/
def Fits [Rounding] (c : Coordinator H) (seconds : ℚ) : Prop :=
  min c.state.mediaDuration
    (rounded (c.nextRange.1 + min seconds (rounded (c.nextRange.2 - c.nextRange.1)))) ≤ c.nextRange.2

instance [Rounding] (c : Coordinator H) (seconds : ℚ) : Decidable (c.Fits seconds) :=
  inferInstanceAs (Decidable (_ ≤ _))

theorem fits_exact (c : Coordinator H) (seconds : ℚ) : c.Fits seconds := by
  have hle := min_le_right seconds (c.nextRange.2 - c.nextRange.1)
  refine (min_le_right _ _).trans ?_
  rw [Rounding.rounded_exact, Rounding.rounded_exact]
  linarith

/-- A claim assigns a window planned at the start of the next range, if the worker may have
    one, and changes nothing otherwise. -/
theorem claim_spec [Rounding] (worker : String) (seconds : ℚ) :
    Ensures (claim worker seconds) c
      (fun a? c' =>
        (a? = none ∧ c' = c) ∨
        ∃ window, a? = some ⟨.claimed c.attempt, worker, window⟩ ∧ c.Claimable worker seconds ∧
          planNextWindow c.nextRange.1 c.state.mediaDuration
            (min seconds (rounded (c.nextRange.2 - c.nextRange.1))) c.attempt c.overlap =
              .ok (some window) ∧
          c' = c.assign worker window)
      (fun _ c' => c' = c) := by
  rw [claim, ensures_bind, ensures_get, ensures_ite, ensures_ite]
  refine ⟨fun _ => rfl, fun _ => ⟨fun _ => rfl, fun hworker => ?_⟩⟩
  rw [ensures_bind, ensures_ofExcept]
  refine ⟨fun q hq => ?_, fun _ _ => rfl⟩
  obtain ⟨hpos, rfl⟩ : 0 < seconds ∧ q = seconds := by
    rw [positiveNumber] at hq
    split_ifs at hq with h
    exact ⟨not_le.1 h, (Except.ok.inj hq).symm⟩
  rw [ensures_ite, ensures_ite, ensures_ite]
  refine ⟨fun _ => rfl, fun hfree => ⟨fun _ => .inl ⟨rfl, rfl⟩, fun hbound => ?_⟩⟩
  refine ⟨fun _ => .inl ⟨rfl, rfl⟩, fun _ => ?_⟩
  rw [ensures_bind, ensures_ofExcept]
  refine ⟨fun window? hplan => ?_, fun _ _ => rfl⟩
  cases window? with
  | none => exact rfl
  | some window =>
    push Not at hworker hbound
    refine .inr ⟨window, rfl, ⟨hworker, hpos, hfree, ?_, hbound.2⟩, hplan, rfl⟩
    exact Bool.eq_false_iff.2 hbound.1

end Coordinator

/-- The claims of a call fit the state that it finds. -/
def Call.Fits [Rounding] (c : Coordinator H) : Call W → Prop
  | .claim _ seconds => c.Fits seconds
  | _ => True

instance [Rounding] (c : Coordinator H) (call : Call W) : Decidable (call.Fits c) :=
  match call with
  | .claim _ seconds => inferInstanceAs (Decidable (c.Fits seconds))
  | .yielded _ | .completed _ _ | .commitReady _ _ | .pauseDispatch _ | .close => isTrue trivial

theorem Call.fits_exact (c : Coordinator H) (call : Call W) : call.Fits c := by
  cases call with
  | claim worker seconds => exact c.fits_exact seconds
  | yielded | completed | commitReady | pauseDispatch | close => trivial

namespace Scheduler

theorem ensures_onWorld {α : Type} {m : EStateM Exc W α} {s : Scheduler W H}
    {Q : α → Scheduler W H → Prop} {E : Exc → Scheduler W H → Prop} :
    Ensures (onWorld m) s Q E ↔
      Ensures m s.world (fun a w => Q a ⟨s.self, w⟩) (fun e w => E e ⟨s.self, w⟩) :=
  ensures_zoom

theorem ensures_onSelf {α : Type} {m : EStateM Exc (Coordinator H) α} {s : Scheduler W H}
    {Q : α → Scheduler W H → Prop} {E : Exc → Scheduler W H → Prop} :
    Ensures (onSelf m) s Q E ↔
      Ensures m s.self (fun a c => Q a ⟨c, s.world⟩) (fun e c => E e ⟨c, s.world⟩) :=
  ensures_zoom

/-- What a commit leaves alone: the attempts in flight, and the dispatch. -/
structure SameDispatch (c c' : Coordinator H) : Prop where
  inflight : c'.inflight = c.inflight
  paused : c'.dispatchPaused = c.dispatchPaused
  workers : c'.workers = c.workers

theorem SameDispatch.refl (c : Coordinator H) : SameDispatch c c := ⟨rfl, rfl, rfl⟩

theorem SameDispatch.trans {c c' c'' : Coordinator H} (h : SameDispatch c c')
    (h' : SameDispatch c' c'') : SameDispatch c c'' :=
  ⟨h'.inflight.trans h.inflight, h'.paused.trans h.paused, h'.workers.trans h.workers⟩

theorem sameDispatch_advance {c c' : Coordinator H} {next : AssemblyState}
    (h : c' = c.advance next) : SameDispatch c c' := by
  subst h
  exact ⟨rfl, rfl, rfl⟩

section

variable [Rounding] (cb : Callbacks W H) (Made : Call W → Prop)

/-- An elementary step of the open coordinator, in a call that is among those in `Made`. -/
inductive Step : Scheduler W H → Scheduler W H → Prop
  | assign (s : Scheduler W H) (worker : String) (seconds : ℚ) (window : ChunkWindow)
      (hclaimable : s.self.Claimable worker seconds) (hfits : s.self.Fits seconds)
      (hplan : planNextWindow s.self.nextRange.1 s.self.state.mediaDuration
        (min seconds (rounded (s.self.nextRange.2 - s.self.nextRange.1))) s.self.attempt
        s.self.overlap = .ok (some window)) :
      Step s { s with self := s.self.assign worker window }
  | putBack (s : Scheduler W H) (a : ChunkAssignment)
      (ha : s.self.inflight.lookup a.worker = some a) :
      Step s { s with self := s.self.putBack a }
  | spool (s : Scheduler W H) (a : ChunkAssignment) (result : Value) (staged : StagedChunk)
      (handle : H) (world : W) (hmade : Made (.completed (some a) result))
      (ha : s.self.inflight.lookup a.worker = some a)
      (hstaged : stageChunkResult result a.window = .ok staged)
      (hstore : cb.storeResult staged s.world = .ok handle world) :
      Step s ⟨s.self.spool a handle, world⟩
  | commit (s : Scheduler W H) (window : ChunkWindow) (handle : H) (staged : StagedChunk)
      (nextState : AssemblyState) (world world' : W)
      (hready : s.self.ready.lookup s.self.state.cursor = some (window, handle))
      (hread : cb.readResult handle s.world = .ok staged world)
      (hchecked : prepareCommit s.self.state
        (window.withOrdinal s.self.state.completedChunks) staged = .ok nextState)
      (hpersist : cb.persistChunk (window.withOrdinal s.self.state.completedChunks) staged
        nextState world = .ok () world') :
      Step s ⟨s.self.advance nextState, after (cb.discardResult handle) world'⟩
  | pause (s : Scheduler W H) (b : Bool) :
      Step s { s with self := { s.self with dispatchPaused := b } }
  | storeRaises (s : Scheduler W H) (staged : StagedChunk) (e : Exc) (world : W)
      (hstore : cb.storeResult staged s.world = .error e world) : Step s { s with world := world }
  | read (s : Scheduler W H) (handle : H) :
      Step s { s with world := after (cb.readResult handle) s.world }
  | persistRaises (s : Scheduler W H) (window : ChunkWindow) (staged : StagedChunk)
      (nextState : AssemblyState) (e : Exc) (world : W)
      (hpersist : cb.persistChunk window staged nextState s.world = .error e world) :
      Step s { s with world := world }
  | check (s : Scheduler W H) (checkBeforeCommit : EStateM Exc W Bool) (maximumCommits : Value)
      (hmade : Made (.commitReady checkBeforeCommit maximumCommits)) :
      Step s { s with world := after checkBeforeCommit s.world }

variable {cb Made}

/-- A sequence of steps. -/
abbrev Steps (cb : Callbacks W H) (Made : Call W → Prop) :
    Scheduler W H → Scheduler W H → Prop :=
  ReflTransGen (Step cb Made)

theorem claim_steps (s : Scheduler W H) (worker : String) {seconds : ℚ}
    (hfits : s.self.Fits seconds) :
    Ensures (onSelf (Coordinator.claim worker seconds)) s (fun _ => Steps cb Made s)
      (fun _ => Steps cb Made s) := by
  rw [ensures_onSelf]
  refine (Coordinator.claim_spec worker seconds).mono ?_ ?_
  · rintro a? c' (⟨-, rfl⟩ | ⟨window, -, hclaimable, hplan, rfl⟩)
    · exact .refl
    · exact .single (.assign s worker seconds window hclaimable hfits hplan)
  · rintro e c' rfl
    exact .refl

theorem yielded_steps (s : Scheduler W H) (assignment : Option ChunkAssignment) :
    Ensures (onSelf (Coordinator.yielded assignment)) s (fun _ => Steps cb Made s)
      (fun _ => Steps cb Made s) := by
  rw [ensures_onSelf, Coordinator.yielded, ensures_bind]
  refine (Coordinator.requireAttempt_spec assignment).mono ?_ ?_
  · rintro a c' ⟨rfl, -, ha⟩
    exact .single (.putBack s a ha)
  · rintro e c' rfl
    exact .refl

variable (Made) in
/-- A completed attempt is spooled; one that raises stays in flight. -/
theorem completed_spec (s : Scheduler W H) {assignment : Option ChunkAssignment}
    {result : Value} (hmade : Made (.completed assignment result)) :
    Ensures (completed cb assignment result) s
      (fun _ s' => Steps cb Made s s' ∧ ∃ a handle, assignment = some a ∧
        s.self.inflight.lookup a.worker = some a ∧ s'.self = s.self.spool a handle)
      (fun _ s' => Steps cb Made s s' ∧ s'.self = s.self) := by
  rw [completed, ensures_bind, ensures_onSelf]
  refine (Coordinator.requireAttempt_spec assignment).mono ?_ ?_
  · rintro a c' ⟨rfl, hassignment, ha⟩
    rw [ensures_bind, ensures_ofExcept]
    refine ⟨fun staged hstaged => ?_, fun _ _ => ⟨.refl, rfl⟩⟩
    rw [ensures_bind, ensures_onWorld]
    cases hstore : cb.storeResult staged s.world with
    | ok handle world =>
      rw [ensures_of_ok hstore]
      exact ⟨.single (.spool s a result staged handle world (hassignment ▸ hmade) ha hstaged hstore),
        a, handle, hassignment, ha, rfl⟩
    | error e world =>
      rw [ensures_of_error hstore]
      exact ⟨.single (.storeRaises s staged e world hstore), rfl⟩
  · rintro e c' rfl
    exact ⟨.refl, rfl⟩

variable (Made) in
/-- The commit of the chunk at the cursor, after the health check: it returns with the
    chunk committed, and may raise before or after that. -/
theorem commitFront_spec (s : Scheduler W H) {window : ChunkWindow} {handle : H}
    (hready : s.self.ready.lookup s.self.state.cursor = some (window, handle)) :
    Ensures (commitFront cb window handle) s
      (fun _ s' => Steps cb Made s s' ∧ ∃ next, s'.self = s.self.advance next)
      (fun _ s' => Steps cb Made s s' ∧
        (s'.self = s.self ∨ ∃ next, s'.self = s.self.advance next)) := by
  have hreadStep : Steps cb Made s ⟨s.self, after (cb.readResult handle) s.world⟩ :=
    .single (.read s handle)
  rw [commitFront, ensures_bind, ensures_onWorld]
  cases hread : cb.readResult handle s.world with
  | error e world =>
    rw [after, hread] at hreadStep
    exact (ensures_of_error hread).2 ⟨hreadStep, .inl rfl⟩
  | ok staged world =>
    rw [after, hread] at hreadStep
    rw [ensures_of_ok hread, ensures_bind, ensures_onSelf, ensures_get, ensures_bind,
      ensures_onWorld]
    dsimp only
    cases hchecked : prepareCommit s.self.state
        (window.withOrdinal s.self.state.completedChunks) staged with
    | error e =>
      -- The read has happened; the checks stop the commit before the callback.
      simpa [commitChunk, hchecked] using hreadStep
    | ok nextState =>
      rw [commitChunk_eq hchecked, ensures_bind]
      cases hpersist : cb.persistChunk (window.withOrdinal s.self.state.completedChunks) staged
          nextState world with
      | error e world' =>
        rw [ensures_of_error hpersist]
        exact ⟨hreadStep.tail (.persistRaises _ _ staged nextState e world' hpersist), .inl rfl⟩
      | ok _ world' =>
        have hcommit : Steps cb Made s
            ⟨s.self.advance nextState, after (cb.discardResult handle) world'⟩ :=
          .single (.commit s window handle staged nextState world world' hready hread hchecked
            hpersist)
        rw [ensures_of_ok hpersist, ensures_pure, ensures_bind, ensures_onSelf, ensures_modify,
          ensures_bind, ensures_onWorld]
        have hdiscard := (ensures_iff_after (P := fun w =>
          Steps cb Made s ⟨s.self.advance nextState, w⟩)).2 hcommit
        exact hdiscard.mono (fun _ _ h => ⟨h, nextState, rfl⟩)
          fun _ _ h => ⟨h, .inr ⟨nextState, rfl⟩⟩

theorem commitLoop_spec {check : EStateM Exc W Bool} {maximumCommits : Value}
    (hmade : Made (.commitReady check maximumCommits)) (limit : Option ℕ) (s : Scheduler W H) (rounds : ℕ) (committed : List ChunkWindow) :
    Ensures (commitLoop cb check limit rounds committed) s
      (fun _ s' => Steps cb Made s s' ∧ SameDispatch s.self s'.self)
      (fun _ s' => Steps cb Made s s' ∧ SameDispatch s.self s'.self) := by
  induction rounds generalizing s committed with
  | zero => exact ⟨.refl, .refl _⟩
  | succ rounds ih =>
    rw [commitLoop, ensures_bind, ensures_onSelf, ensures_get]
    cases hready : s.self.ready.lookup s.self.state.cursor with
    | none => exact ⟨.refl, .refl _⟩
    | some entry =>
      obtain ⟨window, handle⟩ := entry
      refine ensures_ite.2 ⟨fun _ => ⟨.refl, .refl _⟩, fun _ => ?_⟩
      rw [ensures_bind, ensures_onWorld]
      have hchecked : Steps cb Made s ⟨s.self, after check s.world⟩ :=
        .single (.check s check maximumCommits hmade)
      cases hc : check s.world with
      | error e world =>
        rw [after, hc] at hchecked
        exact (ensures_of_error hc).2 ⟨hchecked, .refl _⟩
      | ok healthy world =>
        rw [after, hc] at hchecked
        refine (ensures_of_ok hc).2 (ensures_ite.2 ⟨fun _ => ?_, fun _ => ⟨hchecked, .refl _⟩⟩)
        rw [ensures_bind]
        refine (commitFront_spec Made ⟨s.self, world⟩ hready).mono ?_ ?_
        · rintro w s' ⟨hfront, next, hnext⟩
          have hsame : SameDispatch s.self s'.self := sameDispatch_advance hnext
          exact (ih s' (committed ++ [w])).mono
            (fun _ _ h => ⟨(hchecked.trans hfront).trans h.1, hsame.trans h.2⟩)
            fun _ _ h => ⟨(hchecked.trans hfront).trans h.1, hsame.trans h.2⟩
        · rintro e s' ⟨hfront, hself | ⟨next, hnext⟩⟩
          · exact ⟨hchecked.trans hfront, hself ▸ .refl _⟩
          · exact ⟨hchecked.trans hfront, sameDispatch_advance hnext⟩

variable (Made) in
theorem commitReady_spec {check : EStateM Exc W Bool} {maximumCommits : Value}
    (hmade : Made (.commitReady check maximumCommits)) (s : Scheduler W H) :
    Ensures (commitReady cb check maximumCommits) s
      (fun _ s' => Steps cb Made s s' ∧ SameDispatch s.self s'.self)
      (fun _ s' => Steps cb Made s s' ∧ SameDispatch s.self s'.self) := by
  rw [commitReady, ensures_bind, ensures_onSelf, ensures_get, ensures_ite]
  refine ⟨fun _ => ⟨.refl, .refl _⟩, fun _ => ?_⟩
  rw [ensures_bind, ensures_ofExcept]
  exact ⟨fun limit _ => commitLoop_spec hmade limit s _ [], fun _ _ => ⟨.refl, .refl _⟩⟩

theorem pauseDispatch_steps (s : Scheduler W H) (paused : Value) :
    Ensures (onSelf (Coordinator.pauseDispatch paused)) s (fun _ => Steps cb Made s)
      (fun _ => Steps cb Made s) := by
  rw [ensures_onSelf]
  cases paused with
  | bool b => exact .single (.pause s b)
  | _ => exact .refl

/-- A call other than `close` is a sequence of steps, whether it returns or raises. -/
theorem perform_steps (s : Scheduler W H) {call : Call W} (hcall : call ≠ .close)
    (hmade : Made call) (hfits : call.Fits s.self) : Steps cb Made s (after (perform cb call) s) := by
  rw [← ensures_iff_after (P := Steps cb Made s)]
  cases call with
  | claim worker seconds => simpa [perform] using claim_steps s worker hfits
  | yielded assignment => exact yielded_steps s assignment
  | completed assignment result =>
    exact (completed_spec Made s hmade).mono (fun _ _ h => h.1) fun _ _ h => h.1
  | commitReady check maximumCommits =>
    simpa [perform] using (commitReady_spec Made hmade s).mono
      (fun _ _ h => h.1) fun _ _ h => h.1
  | pauseDispatch paused => exact pauseDispatch_steps s paused
  | close => exact absurd rfl hcall

/-! ## Runs -/

/-- What every step keeps, a sequence of steps keeps. -/
theorem steps_invariant {I : Scheduler W H → Prop}
    (hstep : ∀ s s', Step cb Made s s' → I s → I s') {s s' : Scheduler W H}
    (h : Steps cb Made s s') (hs : I s) : I s' := by
  induction h with
  | refl => exact hs
  | tail _ hlast ih => exact hstep _ _ hlast ih

theorem Step.closed_eq {s s' : Scheduler W H} (h : Step cb Made s s') :
    s'.self.closed = s.self.closed := by
  cases h <;> rfl

theorem Step.workers_eq {s s' : Scheduler W H} (h : Step cb Made s s') :
    s'.self.workers = s.self.workers := by
  cases h <;> rfl

/-- A closed coordinator stays closed, and `close` closes it. -/
theorem closed_perform (s : Scheduler W H) {call : Call W}
    (h : s.self.closed = true ∨ call = .close) :
    (after (perform cb call) s).self.closed = true := by
  by_cases hcall : call = .close
  · subst hcall
    have hdiscard : ∀ l : List (Sigma fun _ : ℚ => ChunkWindow × H),
        Preserves (fun s : Scheduler W H => s.self.closed = true)
          (forM l fun entry => onWorld (cb.discardResult entry.2.2)) := by
      refine fun l => preserves_forM fun entry _ s hs => ?_
      rw [ensures_onWorld]
      exact ensures_of_forall (fun _ _ => hs) fun _ _ => hs
    refine (ensures_iff_after (P := fun s : Scheduler W H => s.self.closed = true)).1 ?_
    simp only [perform, close, ensures_bind, ensures_onSelf, ensures_modify, ensures_get,
      ensures_tryCatch, ensures_throw]
    exact hdiscard _ _ rfl
  · have hs := h.resolve_right hcall
    have hkept (hfits : call.Fits s.self) : (after (perform cb call) s).self.closed = true := by
      have hsteps : Steps cb (fun _ => True) s (after (perform cb call) s) :=
        perform_steps s hcall trivial hfits
      exact steps_invariant (I := fun s => s.self.closed = true)
        (fun _ _ hstep h => hstep.closed_eq.trans h) hsteps hs
    cases call with
    | claim worker seconds =>
      -- It raises before it plans anything.
      refine (ensures_iff_after (P := fun s : Scheduler W H => s.self.closed = true)).1 ?_
      rw [perform, ensures_bind, ensures_onSelf, Coordinator.claim, ensures_bind, ensures_get,
        ensures_ite]
      exact ⟨fun _ => hs, fun hopen => absurd hs hopen⟩
    | yielded | completed | commitReady | pauseDispatch => exact hkept trivial
    | close => exact absurd rfl hcall

theorem closed_run (s : Scheduler W H) (calls : List (Call W)) (h : s.self.closed = true) :
    (run cb s calls).self.closed = true := by
  induction calls generalizing s with
  | nil => exact h
  | cons call calls ih => exact ih _ (closed_perform s (.inl h))

/-- Every claim of a run fits the state that it finds. -/
def AllFit (cb : Callbacks W H) : Scheduler W H → List (Call W) → Prop
  | _, [] => True
  | s, call :: calls => call.Fits s.self ∧ AllFit cb (after (perform cb call) s) calls

instance decidableAllFit (cb : Callbacks W H) (s : Scheduler W H) (calls : List (Call W)) :
    Decidable (AllFit cb s calls) :=
  match calls with
  | [] => isTrue trivial
  | _ :: calls => @instDecidableAnd _ _ _ (decidableAllFit cb _ calls)

variable (Made) in
/-- What holds of the coordinator at the start and is kept by every step holds in every
    state that a run of claims that fit reaches without closing it. -/
theorem run_invariant {I : Scheduler W H → Prop}
    (hstep : ∀ s s', Step cb Made s s' → I s → I s') {s : Scheduler W H} (hs : I s)
    {calls : List (Call W)} (hcalls : ∀ call ∈ calls, Made call) (hfits : AllFit cb s calls)
    (hopen : (run cb s calls).self.closed = false) : I (run cb s calls) := by
  induction calls generalizing s with
  | nil => exact hs
  | cons call calls ih =>
    by_cases hcall : call = .close
    · rw [run, List.foldl_cons, ← run, closed_run _ _ (closed_perform s (.inr hcall))] at hopen
      cases hopen
    · refine ih ?_ (fun c hc => hcalls c (List.mem_cons_of_mem _ hc)) hfits.2 hopen
      exact steps_invariant hstep
        (perform_steps s hcall (hcalls call List.mem_cons_self) hfits.1) hs

end

/-- With exact times every claim fits. -/
theorem allFit_exact (cb : Callbacks W H) (s : Scheduler W H) (calls : List (Call W)) :
    AllFit cb s calls := by
  induction calls generalizing s with
  | nil => trivial
  | cons call calls ih => exact ⟨call.fits_exact s.self, ih _⟩

end Scheduler

end Subgen

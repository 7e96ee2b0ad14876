import Subgen.Segmentation.Sequential
import Subgen.Lib.Partition
import Mathlib.Data.List.Chain

/-!
# The lifecycle of the sequential driver

Every attempt that is started is settled once, before the next one starts and before
the run ends, however it ends: it is unwound, or it is committed. What is handed to
the persistence callback follows the file from its start, and the assembly is
finalised once, when it is complete.

* `Episode`: what one attempt leaves on the trace;
* `round_spec`, `loop_spec`: a round adds one episode at the cursor of its state, and
  the loop a chain of them (`Chained`);
* `sequential_lifecycle`: what that says about the trace of a whole run.
-/

namespace Subgen

open Procedure

/-- An attempt, as it ended: unwound before its chunk was handed over, unwound because the
    persistence callback raised, or committed. -/
inductive Episode
  | failed (window : ChunkWindow)
  | refused (window : ChunkWindow) (staged : StagedChunk) (state : AssemblyState)
  | committed (window : ChunkWindow) (staged : StagedChunk) (state : AssemblyState)

namespace Episode

/-- The window of an episode. -/
def window : Episode → ChunkWindow
  | failed w | refused w _ _ | committed w _ _ => w

/-- What follows the start of the attempt on the trace. -/
def rest : Episode → List Event
  | failed w => [.unwound w]
  | refused w c t => [.handed w c t, .unwound w]
  | committed w c t => [.handed w c t, .persisted w, .committed w t]

/-- The attempt on the trace. -/
def events (e : Episode) : List Event := .started e.window :: e.rest

/-- An attempt at the cursor of `s`, after which the run goes on in `t`. -/
def Extends (s t : AssemblyState) : Episode → Prop
  | failed w => w.coreStart = s.cursor ∧ w.ordinal = s.completedChunks ∧ t = s
  | refused _ _ _ => False
  | committed w c u => prepareCommit s w c = .ok u ∧ t = u

/-- An attempt at the cursor of `s` that ended the run. -/
def Ends (s : AssemblyState) : Episode → Prop
  | refused w c u => prepareCommit s w c = .ok u
  | e => ∃ t, e.Extends s t

end Episode

/-- Attempts one after another, from `s` to `t`. -/
def Chained : AssemblyState → List Episode → AssemblyState → Prop
  | s, [], t => s = t
  | s, e :: l, t => ∃ u, e.Extends s u ∧ Chained u l t

namespace Session

variable {W : Type} (cb : SegmentedCallbacks W)

/-- A procedure that neither records an event nor sets the flag. -/
def Silent {α : Type} (m : EStateM Exc (Session W) α) : Prop :=
  ∀ events b, Preserves (fun s => s.events = events ∧ s.chunkIsUncommitted = b) m

theorem silent_call {α : Type} (m : EStateM Exc W α) : Silent (call m) := by
  intro events b s hs
  rw [call, ensures_zoom]
  exact ensures_of_forall (fun _ _ => hs) fun _ _ => hs

theorem silent_transcribe (audio : cb.Audio) (window : ChunkWindow) :
    Silent (transcribe cb audio window) := by
  intro events b
  refine preserves_tryCatch ?_ fun e => preserves_ite (fun _ => preserves_pure _) fun _ =>
    preserves_ite (fun _ => ?_) fun _ => preserves_throw _
  · exact fun s hs => ensures_map.2 (silent_call _ events b s hs)
  · exact preserves_bind (silent_call _ events b) fun _ =>
      preserves_ite (fun _ => preserves_pure _) fun _ => preserves_throw _

theorem silent_checkHealth (staged : StagedChunk) : Silent (checkHealth cb staged) := by
  intro events b
  refine preserves_tryCatch ?_ fun e => preserves_ite (fun _ => preserves_pure _) fun _ =>
    preserves_throw _
  exact fun s hs => ensures_map.2 (silent_call _ events b s hs)

/-- Until it is started an attempt leaves no trace; once it is, the flag is set. -/
theorem attemptBody_spec {s : Session W} (hs : s.chunkIsUncommitted = false) (audio : cb.Audio)
    (window : ChunkWindow) :
    Ensures (attemptBody cb audio window) s
      (fun _ s' => s'.events = s.events ++ [.started window] ∧ s'.chunkIsUncommitted = true)
      (fun _ s' => (s'.events = s.events ∧ s'.chunkIsUncommitted = false) ∨
        (s'.events = s.events ++ [.started window] ∧ s'.chunkIsUncommitted = true)) := by
  rw [attemptBody, ensures_bind]
  refine (silent_call _ s.events false s ⟨rfl, hs⟩).mono ?_ fun _ _ h => .inl h
  rintro _ s₁ ⟨h₁, _⟩
  rw [ensures_bind, chunkStarted, record, ensures_bind, ensures_modify, ensures_modify,
    ensures_bind, setUncommitted, ensures_modify]
  rw [h₁]
  -- What is left keeps the events and the flag, whatever it returns.
  have hrest : ∀ {m : EStateM Exc (Session W) Attempt} {s₂ : Session W},
      Preserves (fun s' : Session W => s'.events = s.events ++ [.started window] ∧
        s'.chunkIsUncommitted = true) m →
      s₂.events = s.events ++ [.started window] → s₂.chunkIsUncommitted = true →
      Ensures m s₂ (fun _ s' => s'.events = s.events ++ [.started window] ∧ s'.chunkIsUncommitted = true)
        fun _ s' => (s'.events = s.events ∧ s'.chunkIsUncommitted = false) ∨
          (s'.events = s.events ++ [.started window] ∧ s'.chunkIsUncommitted = true) :=
    fun hm hevents hflag => (hm _ ⟨hevents, hflag⟩).mono (fun _ _ h => h) fun _ _ h => .inr h
  refine hrest (preserves_bind (silent_transcribe cb audio window _ _) fun outcome => ?_) rfl rfl
  cases outcome with
  | error attempt => exact preserves_pure _
  | ok result =>
    refine preserves_bind (silent_call _ _ _) fun _ => preserves_bind ?_ fun staged =>
      preserves_bind (silent_call _ _ _) fun _ => silent_checkHealth cb staged _ _
    exact fun s hs => ensures_ofExcept.2 ⟨fun _ _ => hs, fun _ _ => hs⟩

/-- The flag decides whether the window is unwound. -/
theorem unwindUncommitted_spec (s : Session W) (window : ChunkWindow) :
    Ensures (unwindUncommitted cb window) s
      (fun _ s' => s'.events = if s.chunkIsUncommitted then s.events ++ [.unwound window]
        else s.events)
      (fun _ _ => False) := by
  rw [unwindUncommitted, ensures_bind, ensures_get, ensures_ite]
  constructor
  · intro h
    rw [if_pos h]
    rfl
  · intro h
    rw [if_neg h]
    rfl

/-- An attempt that raises leaves no trace, or is unwound. -/
theorem attempt_spec {s : Session W} (hs : s.chunkIsUncommitted = false) (audio : cb.Audio)
    (window : ChunkWindow) :
    Ensures (attempt cb audio window) s
      (fun _ s' => s'.events = s.events ++ [.started window] ∧ s'.chunkIsUncommitted = true)
      (fun _ s' => s'.events = s.events ∨
        s'.events = s.events ++ (Episode.failed window).events) := by
  rw [attempt, ensures_tryCatch]
  refine (attemptBody_spec cb hs audio window).mono (fun _ _ h => h) ?_
  intro e s₁ h₁
  rw [ensures_bind]
  refine (unwindUncommitted_spec cb s₁ window).mono (fun _ s₂ h₂ => ?_) fun _ _ h => h.elim
  rw [ensures_throw, h₂]
  rcases h₁ with ⟨hevents, hflag⟩ | ⟨hevents, hflag⟩
  · exact .inl (by rw [hflag]; exact hevents)
  · refine .inr ?_
    rw [hflag, if_pos rfl, hevents, List.append_assoc]
    rfl

/-- A failed attempt is unwound before anything else. -/
theorem recoverFrom_spec (s : Session W) (e : Exc) (window : ChunkWindow) (isAllocation : Bool) :
    Ensures (recoverFrom cb e window isAllocation) s
      (fun _ s' => s'.events = s.events ++ [.unwound window])
      (fun _ s' => s'.events = s.events ++ [.unwound window]) := by
  rw [recoverFrom, ensures_bind, chunkUnwound, record, ensures_bind, ensures_modify,
    ensures_modify, ensures_bind, setUncommitted, ensures_modify]
  have hrest : Preserves (fun s' : Session W => s'.events = s.events ++ [.unwound window] ∧
      s'.chunkIsUncommitted = false) (do
        call (cb.releaseFailure e window)
        call cb.checkCancelled
        let exhausted ← call (if isAllocation then cb.recordAllocationFailure
          else (fun _ => false) <$> cb.recordPressureYield)
        let recoveryWindow ← call (cb.waitForRecovery e window)
        call cb.checkCancelled
        if isAllocation ∧ externalPressureRecovered recoveryWindow then
          call cb.recordExternalPressureRecovery
        else if exhausted then
          throw e
        else
          pure ()) :=
    preserves_bind (silent_call _ _ _) fun _ => preserves_bind (silent_call _ _ _) fun _ =>
      preserves_bind (silent_call _ _ _) fun _ => preserves_bind (silent_call _ _ _) fun _ =>
        preserves_bind (silent_call _ _ _) fun _ => preserves_ite (fun _ => silent_call _ _ _)
          fun _ => preserves_ite (fun _ => preserves_throw _) fun _ => preserves_pure _
  exact (hrest _ ⟨rfl, rfl⟩).mono (fun _ _ h => h.1) fun _ _ h => h.1

/-- The observer of commits is called when, and only when, the chunk was persisted. -/
theorem commitBody_spec {s : Session W} (hs : s.chunkIsUncommitted = true) (state : AssemblyState)
    (window : ChunkWindow) (staged : StagedChunk) :
    Ensures (commitBody cb state window staged) s
      (fun next s' => prepareCommit state window staged = .ok next ∧
        s'.events = s.events ++ (Episode.committed window staged next).rest ∧
        s'.chunkIsUncommitted = false)
      (fun _ s' => s'.chunkIsUncommitted = true ∧ (s'.events = s.events ∨
        ∃ next, prepareCommit state window staged = .ok next ∧
          s'.events = s.events ++ [.handed window staged next])) := by
  rw [commitBody, ensures_bind]
  cases hchecked : prepareCommit state window staged with
  | error e =>
    rw [commitChunk, hchecked]
    exact ⟨hs, .inl rfl⟩
  | ok next =>
    rw [commitChunk_eq hchecked, ensures_bind, persistChunk, ensures_bind, record, ensures_modify,
      ensures_bind]
    refine (silent_call _ (s.events ++ [.handed window staged next]) true
      { s with events := s.events ++ [.handed window staged next] } ⟨rfl, hs⟩).mono ?_ ?_
    · rintro _ s₁ ⟨hevents, _⟩
      refine ⟨rfl, ?_, rfl⟩
      change s₁.events ++ [.persisted window] ++ [.committed window next] = _
      rw [hevents, List.append_assoc, List.append_assoc]
      rfl
    · rintro _ s₁ ⟨hevents, hflag⟩
      exact ⟨hflag, .inr ⟨next, rfl, hevents⟩⟩

/-- A staged chunk is committed, or unwound; what raises after the commit leaves it
    committed. -/
theorem commit_spec {s : Session W} (hs : s.chunkIsUncommitted = true) (state : AssemblyState)
    {window : ChunkWindow} (staged : StagedChunk) (healthy : Bool)
    (hstart : window.coreStart = state.cursor) (hordinal : window.ordinal = state.completedChunks) :
    Ensures (commit cb state window staged healthy) s
      (fun next s' => ∃ e : Episode, e.window = window ∧ e.Extends state next ∧
        s'.events = s.events ++ e.rest)
      (fun _ s' => ∃ e : Episode, e.window = window ∧ e.Ends state ∧
        s'.events = s.events ++ e.rest) := by
  rw [commit, ensures_bind, ensures_tryCatch]
  refine (commitBody_spec cb hs state window staged).mono ?_ ?_
  · rintro next s₁ ⟨hchecked, hevents, hflag⟩
    have hextends : (Episode.committed window staged next).Extends state next := ⟨hchecked, rfl⟩
    rw [ensures_bind]
    refine (unwindUncommitted_spec cb s₁ window).mono (fun _ s₂ h₂ => ?_) fun _ _ h => h.elim
    rw [hflag, if_neg (by simp), hevents] at h₂
    have hends : ∀ s' : Session W,
        s'.events = s.events ++ (Episode.committed window staged next).rest →
        ∃ e : Episode, e.window = window ∧ e.Ends state ∧ s'.events = s.events ++ e.rest :=
      fun s' h => ⟨.committed window staged next, rfl, ⟨next, hextends⟩, h⟩
    rw [ensures_bind]
    refine (silent_call _ _ _ s₂ ⟨h₂, rfl⟩).mono ?_ fun _ s' h => hends s' h.1
    intro _ s₃ h₃
    rw [ensures_bind]
    refine (silent_call _ _ _ s₃ ⟨h₃.1, rfl⟩).mono ?_ fun _ s' h => hends s' h.1
    intro _ s₄ h₄
    exact ⟨.committed window staged next, rfl, hextends, h₄.1⟩
  · rintro e s₁ ⟨hflag, hevents⟩
    rw [ensures_bind]
    refine (unwindUncommitted_spec cb s₁ window).mono (fun _ s₂ h₂ => ?_) fun _ _ h => h.elim
    rw [hflag, if_pos rfl] at h₂
    rcases hevents with hevents | ⟨next, hchecked, hevents⟩
    · exact ⟨.failed window, rfl, ⟨state, hstart, hordinal, rfl⟩, by rw [h₂, hevents]; rfl⟩
    · refine ⟨.refused window staged next, rfl, hchecked, ?_⟩
      rw [h₂, hevents, List.append_assoc]
      rfl

/-- One round: an attempt at the cursor of the state, or nothing, if the file is complete
    or what comes before the attempt raises. -/
theorem round_spec (s : Session W) (state : AssemblyState) :
    Ensures (round cb state) s
      (fun r s' => (r = (state, true) ∧ state.cursor = state.mediaDuration ∧
          s'.events = s.events) ∨
        ∃ e : Episode, r.2 = false ∧ e.Extends state r.1 ∧ s'.events = s.events ++ e.events)
      (fun _ s' => s'.events = s.events ∨
        ∃ e : Episode, e.Ends state ∧ s'.events = s.events ++ e.events) := by
  rw [round, ensures_bind]
  refine (silent_call _ s.events _ s ⟨rfl, rfl⟩).mono ?_ fun _ _ h => .inl h.1
  intro _ s₁ h₁
  rw [ensures_bind]
  refine (silent_call _ s.events _ s₁ h₁).mono ?_ fun _ _ h => .inl h.1
  intro seconds s₂ h₂
  rw [ensures_bind, ensures_ofExcept]
  refine ⟨fun window? hplan => ?_, fun _ _ => .inl h₂.1⟩
  cases window? with
  | none => exact .inl ⟨rfl, eq_of_planNextWindow_none hplan, h₂.1⟩
  | some window =>
    obtain ⟨-, hordinal, hstart⟩ := eq_of_planned hplan
    have hfailed : (Episode.failed window).Extends state state := ⟨hstart, hordinal, rfl⟩
    rw [ensures_bind]
    refine (silent_call _ s.events _ s₂ h₂).mono ?_ fun _ _ h => .inl h.1
    intro _ s₃ h₃
    rw [ensures_bind]
    refine (silent_call _ s.events _ s₃ h₃).mono ?_ fun _ _ h => .inl h.1
    intro audio s₄ h₄
    rw [ensures_bind, setUncommitted, ensures_modify, ensures_bind]
    refine (attempt_spec cb (s := { s₄ with chunkIsUncommitted := false }) rfl audio window).mono ?_ ?_
    · rintro outcome s₅ ⟨h₅, hflag⟩
      replace h₅ : s₅.events = s.events ++ [.started window] := h₅.trans (by rw [h₄.1])
      -- The events of a failed attempt, once it has been unwound.
      have hunwound : ∀ s' : Session W, s'.events = s₅.events ++ [.unwound window] →
          s'.events = s.events ++ (Episode.failed window).events := by
        intro s' h
        rw [h, h₅, List.append_assoc]
        rfl
      cases outcome with
      | pressure e =>
        rw [ensures_bind]
        exact (recoverFrom_spec cb s₅ e window false).mono
          (fun _ s₆ h => .inr ⟨_, rfl, hfailed, hunwound s₆ h⟩)
          fun _ s₆ h => .inr ⟨.failed window, ⟨state, hfailed⟩, hunwound s₆ h⟩
      | allocation e =>
        rw [ensures_bind]
        exact (recoverFrom_spec cb s₅ e window true).mono
          (fun _ s₆ h => .inr ⟨_, rfl, hfailed, hunwound s₆ h⟩)
          fun _ s₆ h => .inr ⟨.failed window, ⟨state, hfailed⟩, hunwound s₆ h⟩
      | staged staged healthy =>
        have hevents : ∀ (s' : Session W) (e : Episode), e.window = window →
            s'.events = s₅.events ++ e.rest → s'.events = s.events ++ e.events := by
          intro s' e he h
          rw [h, h₅, List.append_assoc, Episode.events, he]
          rfl
        rw [ensures_bind]
        refine (commit_spec cb hflag state staged healthy hstart hordinal).mono ?_ ?_
        · rintro next s₆ ⟨e, he, hextends, h⟩
          exact .inr ⟨e, rfl, hextends, hevents s₆ e he h⟩
        · rintro _ s₆ ⟨e, he, hends, h⟩
          exact .inr ⟨e, hends, hevents s₆ e he h⟩
    · intro _ s₅ h₅
      rcases h₅ with h₅ | h₅
      · exact .inl (h₅.trans h₄.1)
      · exact .inr ⟨.failed window, ⟨state, hfailed⟩, h₅.trans (by rw [h₄.1])⟩

/-- The loop adds a chain of attempts; it is left in a complete state, and a run that raises
    in it has one more attempt at most, which ended it. -/
theorem loop_spec (s : Session W) (state : AssemblyState) (fuel : ℕ) :
    Ensures (loop cb fuel state) s
      (fun r s' => ∃ l t, Chained state l t ∧ s'.events = s.events ++ l.flatMap Episode.events ∧
        ∀ u, r = some u → u = t ∧ t.cursor = t.mediaDuration)
      (fun _ s' => ∃ l t, Chained state l t ∧
        (s'.events = s.events ++ l.flatMap Episode.events ∨
          ∃ e : Episode, e.Ends t ∧
            s'.events = s.events ++ l.flatMap Episode.events ++ e.events)) := by
  induction fuel generalizing s state with
  | zero => exact ⟨[], state, rfl, by simp, fun _ h => nomatch h⟩
  | succ fuel ih =>
    rw [loop, ensures_ite]
    refine ⟨fun hcomplete => ⟨[], state, rfl, by simp, fun u hu => ?_⟩, fun _ => ?_⟩
    · exact ⟨(Option.some.inj hu).symm, of_decide_eq_true hcomplete⟩
    · rw [ensures_bind]
      refine (round_spec cb s state).mono ?_ ?_
      · intro r s₁ h₁
        rcases h₁ with ⟨rfl, hend, hevents⟩ | ⟨e, hleft, hextends, hevents⟩
        · refine ⟨[], state, rfl, by simpa using hevents, fun u hu => ?_⟩
          exact ⟨(Option.some.inj hu).symm, hend⟩
        · obtain ⟨next, left⟩ := r
          obtain rfl : left = false := hleft
          refine ensures_ite.2 ⟨fun h => Bool.noConfusion h, fun _ => ?_⟩
          refine (ih s₁ next).mono ?_ ?_
          · rintro r s₂ ⟨l, t, hchained, hevents₂, hleft⟩
            refine ⟨e :: l, t, ⟨next, hextends, hchained⟩, ?_, hleft⟩
            rw [hevents₂, hevents, List.flatMap_cons, List.append_assoc]
          · rintro _ s₂ ⟨l, t, hchained, hevents₂⟩
            refine ⟨e :: l, t, ⟨next, hextends, hchained⟩, ?_⟩
            rw [hevents] at hevents₂
            simpa only [List.flatMap_cons, List.append_assoc] using hevents₂
      · intro _ s₁ h₁
        refine ⟨[], state, rfl, ?_⟩
        simpa using h₁

/-- The end of a run records one event at most, the assembly that is finalised. -/
theorem finish_spec (s : Session W) (state : AssemblyState) :
    Ensures (finish cb state) s (fun _ s' => s'.events = s.events ++ [.finalized state])
      (fun _ s' => s'.events = s.events ∨ s'.events = s.events ++ [.finalized state]) := by
  rw [finish, ensures_bind]
  refine (silent_call _ s.events _ s ⟨rfl, rfl⟩).mono ?_ fun _ _ h => .inl h.1
  intro _ s₁ h₁
  rw [ensures_bind, record, ensures_modify]
  have hrest : Preserves (fun s' : Session W => s'.events = s.events ++ [.finalized state] ∧
      s'.chunkIsUncommitted = s₁.chunkIsUncommitted) (do
        let result ← call (cb.finalizeAssembly state)
        call cb.checkCancelled
        pure result) :=
    preserves_bind (silent_call _ _ _) fun _ => preserves_bind (silent_call _ _ _) fun _ =>
      preserves_pure _
  refine (hrest { s₁ with events := s₁.events ++ [.finalized state] } ⟨?_, rfl⟩).mono
    (fun _ _ h => h.1) fun _ _ h => .inr h.1
  rw [h₁.1]

end Session

/-! ## The trace of a run -/

/-- What a run leaves on the trace from a state on: attempts one after another, and at the
    end nothing, one attempt that ended the run, or the finalisation of a complete assembly. -/
inductive Trace : AssemblyState → List Event → Prop
  | stop (s) : Trace s []
  | final {s} : s.cursor = s.mediaDuration → Trace s [.finalized s]
  | last {s} {e : Episode} : e.Ends s → Trace s e.events
  | next {s t events} {e : Episode} : e.Extends s t → Trace t events →
      Trace s (e.events ++ events)

theorem Chained.trace {s t : AssemblyState} {l : List Episode} {events : List Event}
    (h : Chained s l t) (ht : Trace t events) : Trace s (l.flatMap Episode.events ++ events) := by
  induction l generalizing s with
  | nil =>
    obtain rfl : s = t := h
    exact ht
  | cons e l ih =>
    obtain ⟨u, hextends, h⟩ := h
    rw [List.flatMap_cons, List.append_assoc]
    exact .next hextends (ih h)

/-- A run on a media of duration `d` leaves the trace of an assembly that starts empty, or
    nothing if `d` is refused. -/
theorem Session.run_trace {W : Type} (cb : SegmentedCallbacks W) (world : W) (d : ℚ) (fuel : ℕ) :
    (∃ hd : 0 < d, Trace (.start d hd)
      (after (runSegmentedTranscription cb d fuel) ⟨world, [], false⟩).events) ∨
      (after (runSegmentedTranscription cb d fuel) ⟨world, [], false⟩).events = [] := by
  refine (ensures_iff_after (P := fun s : Session W =>
    (∃ hd : 0 < d, Trace (.start d hd) s.events) ∨ s.events = [])).1 ?_
  rw [runSegmentedTranscription, ensures_bind, ensures_ofExcept]
  refine ⟨fun duration hduration => ?_, fun _ _ => .inr rfl⟩
  obtain rfl : duration = d := by
    rw [positiveNumber] at hduration
    split_ifs at hduration
    exact (Except.ok.inj hduration).symm
  rw [ensures_bind, ensures_ofExcept]
  refine ⟨fun state hstate => ?_, fun _ _ => .inr rfl⟩
  obtain ⟨hd, rfl⟩ := AssemblyState.eq_start_of_empty hstate
  rw [ensures_bind]
  refine (loop_spec cb _ _ fuel).mono ?_ ?_
  · rintro left s₁ ⟨l, t, hchained, hevents, hleft⟩
    rw [List.nil_append] at hevents
    have hstop : Trace (.start duration hd) s₁.events := by
      simpa [hevents] using hchained.trace (.stop t)
    -- Without fuel the loop returns nothing, and otherwise a complete state.
    cases left with
    | none => exact .inl ⟨hd, hstop⟩
    | some u =>
      obtain ⟨rfl, hend⟩ := hleft u rfl
      have hfinal : Trace (.start duration hd) (s₁.events ++ [.finalized u]) :=
        hevents ▸ hchained.trace (.final hend)
      rw [ensures_map]
      refine (finish_spec cb s₁ u).mono (fun _ s₂ h => .inl ⟨hd, h ▸ hfinal⟩) fun _ s₂ h => ?_
      rcases h with h | h
      · exact .inl ⟨hd, h ▸ hstop⟩
      · exact .inl ⟨hd, h ▸ hfinal⟩
  · rintro _ s₁ ⟨l, t, hchained, hevents⟩
    rw [List.nil_append] at hevents
    rcases hevents with hevents | ⟨e, hends, hevents⟩
    · exact .inl ⟨hd, by simpa [hevents] using hchained.trace (.stop t)⟩
    · exact .inl ⟨hd, hevents ▸ hchained.trace (.last hends)⟩

/-! ## What a trace says -/

namespace Event

/-- The window that was handed to the persistence callback. -/
def handed? : Event → Option ChunkWindow
  | handed w _ _ => some w
  | _ => none

/-- The window that was persisted. -/
def persisted? : Event → Option ChunkWindow
  | persisted w => some w
  | _ => none

/-- The window that was committed. -/
def committed? : Event → Option ChunkWindow
  | committed w _ => some w
  | _ => none

/-- The state that was finalized. -/
def finalized? : Event → Option AssemblyState
  | finalized s => some s
  | _ => none

/-- A window was started. -/
def isStart : Event → Bool
  | started _ => true
  | _ => false

/-- A call of one of the two observers that end an attempt. -/
def isSettlement : Event → Bool
  | unwound _ | committed _ _ => true
  | _ => false

end Event

/-- The windows passed to the persistence callback. -/
def handedWindows (events : List Event) : List ChunkWindow := events.filterMap Event.handed?

/-- The attempts of a trace: each started window, with what happens up to the next start. -/
def attempts : List Event → List (ChunkWindow × List Event)
  | [] => []
  | .started w :: events => (w, events.takeWhile (!·.isStart)) :: attempts events
  | _ :: events => attempts events

/-- The attempt `b` starts where `a` leaves the file: at the same cursor and ordinal if `a` was
    unwound, and behind it if it was committed. -/
def Resumes (a b : ChunkWindow × List Event) : Prop :=
  (.unwound a.1 ∈ a.2 → b.1.coreStart = a.1.coreStart ∧ b.1.ordinal = a.1.ordinal) ∧
    ∀ t, .committed a.1 t ∈ a.2 → b.1.coreStart = a.1.coreEnd ∧ b.1.ordinal = a.1.ordinal + 1

/-- Exactly one observer was called for the attempt, with its window. -/
def Settled (a : ChunkWindow × List Event) : Prop :=
  a.2.filter Event.isSettlement = [.unwound a.1] ∨
    ∃ t, a.2.filter Event.isSettlement = [.committed a.1 t]

section Trace

variable {s t : AssemblyState} {e : Episode} {events : List Event}

theorem Episode.Extends.start (h : e.Extends s t) :
    e.window.coreStart = s.cursor ∧ e.window.ordinal = s.completedChunks := by
  rcases e with w | ⟨w, c, u⟩ | ⟨w, c, u⟩
  · exact ⟨h.1, h.2.1⟩
  · exact h.elim
  · obtain ⟨-, hn, hc, -⟩ := eq_of_prepareCommit h.1
    exact ⟨hc, hn⟩

theorem Episode.Ends.start (h : e.Ends s) :
    e.window.coreStart = s.cursor ∧ e.window.ordinal = s.completedChunks := by
  rcases e with w | ⟨w, c, u⟩ | ⟨w, c, u⟩
  · exact h.choose_spec.start
  · obtain ⟨-, hn, hc, -⟩ := eq_of_prepareCommit h
    exact ⟨hc, hn⟩
  · exact h.choose_spec.start

theorem Episode.Extends.mediaDuration (h : e.Extends s t) : t.mediaDuration = s.mediaDuration := by
  rcases e with w | ⟨w, c, u⟩ | ⟨w, c, u⟩
  · rw [h.2.2]
  · exact h.elim
  · rw [h.2]
    exact (eq_of_prepareCommit h.1).2.2.2.1

/-- An attempt that raises is the last one, so what is handed over starts at the cursor and
    goes on from there. -/
theorem Trace.handed (h : Trace s events) :
    (∃ n, (handedWindows events).map ChunkWindow.ordinal = List.range' s.completedChunks n) ∧
      ∃ x ≤ s.mediaDuration, Tiles s.cursor x ((handedWindows events).map ChunkWindow.core) := by
  induction h with
  | stop s => exact ⟨⟨0, rfl⟩, s.cursor, s.cursor_le, rfl⟩
  | @final s _ => exact ⟨⟨0, rfl⟩, s.cursor, s.cursor_le, rfl⟩
  | @last s e hends =>
    rcases e with w | ⟨w, c, u⟩ | ⟨w, c, u⟩
    · exact ⟨⟨0, rfl⟩, s.cursor, s.cursor_le, rfl⟩
    · obtain ⟨hm, hn, hc, -⟩ := eq_of_prepareCommit hends
      exact ⟨⟨1, by rw [← hn]; rfl⟩, w.coreEnd, hm ▸ w.core_le_duration, hc, w.core_lt, rfl⟩
    · obtain ⟨hm, hn, hc, -⟩ := eq_of_prepareCommit hends.choose_spec.1
      exact ⟨⟨1, by rw [← hn]; rfl⟩, w.coreEnd, hm ▸ w.core_le_duration, hc, w.core_lt, rfl⟩
  | @next s t events e hextends _ ih =>
    rcases e with w | ⟨w, c, u⟩ | ⟨w, c, u⟩
    · rw [hextends.2.2] at ih
      exact ih
    · exact hextends.elim
    · obtain ⟨hchecked, rfl⟩ := hextends
      obtain ⟨-, hn, hc, hd, hcursor, hcount⟩ := eq_of_prepareCommit hchecked
      obtain ⟨⟨n, hordinals⟩, x, hx, htiles⟩ := ih
      rw [hcount] at hordinals
      rw [hcursor] at htiles
      refine ⟨⟨n + 1, ?_⟩, x, hd ▸ hx, hc, w.core_lt, htiles⟩
      rw [List.range'_succ, ← hordinals, ← hn]
      rfl

/-- The observer of commits is called for what was persisted. -/
theorem Trace.committed (h : Trace s events) :
    events.filterMap Event.committed? = events.filterMap Event.persisted? := by
  have hepisode : ∀ e : Episode,
      e.events.filterMap Event.committed? = e.events.filterMap Event.persisted? := by
    intro e
    cases e <;> rfl
  induction h with
  | stop => rfl
  | final => rfl
  | last => exact hepisode _
  | next _ _ ih => rw [List.filterMap_append, List.filterMap_append, hepisode, ih]

/-- One assembly at most is finalised, and it is complete. -/
theorem Trace.finalized (h : Trace s events) :
    events.filterMap Event.finalized? = [] ∨
      ∃ t, events.filterMap Event.finalized? = [t] ∧ t.mediaDuration = s.mediaDuration ∧
        t.cursor = t.mediaDuration := by
  have hepisode : ∀ e : Episode, e.events.filterMap Event.finalized? = [] := by
    intro e
    cases e <;> rfl
  induction h with
  | stop => exact .inl rfl
  | final hend => exact .inr ⟨_, rfl, rfl, hend⟩
  | last => exact .inl (hepisode _)
  | next hextends _ ih =>
    rw [List.filterMap_append, hepisode, List.nil_append]
    rcases ih with ih | ⟨t, ht, hd, hend⟩
    · exact .inl ih
    · exact .inr ⟨t, ht, hd.trans hextends.mediaDuration, hend⟩

theorem attempts_append (e : Episode) (events : List Event) :
    attempts (e.events ++ events) =
      (e.window, e.rest ++ events.takeWhile (!·.isStart)) :: attempts events := by
  cases e <;> rfl

/-- Nothing is settled before the first start. -/
theorem Trace.lead (h : Trace s events) :
    (events.takeWhile (!·.isStart)).filter Event.isSettlement = [] := by
  rcases h with _ | _ | _ | _ <;> rfl

/-- The settlement of an attempt tells how it ended. -/
theorem Episode.settlement (e : Episode) (h : Trace s events) :
    (e.rest ++ events.takeWhile (!·.isStart)).filter Event.isSettlement =
      match e with
      | .failed w | .refused w _ _ => [.unwound w]
      | .committed w _ u => [.committed w u] := by
  rw [List.filter_append, h.lead, List.append_nil]
  cases e <;> rfl

theorem Episode.settled (e : Episode) (h : Trace s events) :
    Settled (e.window, e.rest ++ events.takeWhile (!·.isStart)) := by
  rw [Settled, e.settlement h]
  rcases e with w | ⟨w, c, u⟩ | ⟨w, c, u⟩
  · exact .inl rfl
  · exact .inl rfl
  · exact .inr ⟨u, rfl⟩

/-- The run goes on at the cursor an attempt leaves. -/
theorem Episode.Extends.resumes (h : e.Extends s t) (ht : Trace t events)
    {b : ChunkWindow × List Event} (hc : b.1.coreStart = t.cursor)
    (hn : b.1.ordinal = t.completedChunks) :
    Resumes (e.window, e.rest ++ events.takeWhile (!·.isStart)) b := by
  have hmem : ∀ x : Event, x.isSettlement = true →
      x ∈ e.rest ++ events.takeWhile (!·.isStart) →
      x ∈ (e.rest ++ events.takeWhile (!·.isStart)).filter Event.isSettlement :=
    fun x hx hm => List.mem_filter.2 ⟨hm, hx⟩
  rw [e.settlement ht] at hmem
  rcases e with w | ⟨w, c, u⟩ | ⟨w, c, u⟩
  · obtain ⟨hstart, hordinal, rfl⟩ := h
    refine ⟨fun _ => ⟨hc.trans hstart.symm, hn.trans hordinal.symm⟩, fun v hv => ?_⟩
    cases List.mem_singleton.1 (hmem _ rfl hv)
  · exact h.elim
  · obtain ⟨hchecked, rfl⟩ := h
    obtain ⟨-, hordinal, -, -, hcursor, hcount⟩ := eq_of_prepareCommit hchecked
    refine ⟨fun hv => ?_, fun _ _ => ⟨hc.trans hcursor, ?_⟩⟩
    · cases List.mem_singleton.1 (hmem _ rfl hv)
    · rw [hn, hcount]
      exact congrArg (· + 1) hordinal.symm

/-- The attempts of a trace: each is settled, each starts where the one before it left the
    file, and the first at the cursor of the state. -/
theorem Trace.attempts (h : Trace s events) :
    (∀ a ∈ attempts events, Settled a) ∧ (Subgen.attempts events).IsChain Resumes ∧
      ∀ a ∈ (Subgen.attempts events).head?,
        a.1.coreStart = s.cursor ∧ a.1.ordinal = s.completedChunks := by
  induction h with
  | stop => exact ⟨by simp [Subgen.attempts], .nil, by simp [Subgen.attempts]⟩
  | final => exact ⟨by simp [Subgen.attempts], .nil, by simp [Subgen.attempts]⟩
  | @last s e hends =>
    rw [← List.append_nil e.events, attempts_append]
    refine ⟨fun a ha => ?_, .singleton _, fun a ha => ?_⟩
    · obtain rfl := List.mem_singleton.1 ha
      exact e.settled (.stop s)
    · obtain rfl := Option.some.inj ha
      exact hends.start
  | @next s t events e hextends ht ih =>
    obtain ⟨hsettled, hchain, hfirst⟩ := ih
    rw [attempts_append]
    refine ⟨fun a ha => ?_, ?_, fun a ha => ?_⟩
    · rcases List.mem_cons.1 ha with rfl | ha
      · exact e.settled ht
      · exact hsettled a ha
    · refine List.isChain_cons.2 ⟨fun b hb => ?_, hchain⟩
      obtain ⟨hc, hn⟩ := hfirst b hb
      exact hextends.resumes ht hc hn
    · obtain rfl := Option.some.inj ha
      exact hextends.start

end Trace

/-- The life cycle of a run of the sequential driver, whatever its callbacks do and however it
    ends: what is handed to storage follows the file from its start, and each attempt where the
    one before it left off; every attempt is settled once; the commits that are observed are
    those that were persisted; and only the complete assembly is finalised, once. -/
theorem sequential_lifecycle {W : Type} (cb : SegmentedCallbacks W) (world : W) (d : ℚ)
    (fuel : ℕ) :
    let events :=
      (after (Session.runSegmentedTranscription cb d fuel) ⟨world, [], false⟩).events
    ((∃ n, (handedWindows events).map ChunkWindow.ordinal = List.range n) ∧
      (∃ x ≤ max 0 d, Tiles 0 x ((handedWindows events).map ChunkWindow.core)) ∧
      (attempts events).IsChain Resumes) ∧
    (∀ a ∈ attempts events, Settled a) ∧
    events.filterMap Event.committed? = events.filterMap Event.persisted? ∧
    (events.filterMap Event.finalized? = [] ∨
      ∃ t, events.filterMap Event.finalized? = [t] ∧ t.mediaDuration = d ∧
        t.cursor = t.mediaDuration) := by
  intro events
  rcases Session.run_trace cb world d fuel with ⟨hd, htrace⟩ | hempty
  · obtain ⟨⟨n, hordinals⟩, x, hx, htiles⟩ := htrace.handed
    obtain ⟨hsettled, hchain, -⟩ := htrace.attempts
    refine ⟨⟨⟨n, ?_⟩, ⟨x, hx.trans (le_max_right 0 d), htiles⟩, hchain⟩, hsettled,
      htrace.committed, htrace.finalized⟩
    rw [List.range_eq_range']
    exact hordinals
  · -- The duration is refused before the first callback.
    change events = [] at hempty
    rw [hempty]
    exact ⟨⟨⟨0, rfl⟩, ⟨0, le_max_left 0 d, rfl⟩, .nil⟩, by simp [attempts], rfl, .inl rfl⟩

end Subgen

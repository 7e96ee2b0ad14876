import Subgen.Parallel.Timeline
import Mathlib.Data.List.GetD

/-!
# The parallel run refines the sequential one

Completions come out of order, ranges are split and tried again, and the ordinals
of the attempts say nothing about the file. What is persisted is nevertheless what a
sequential run persists: chunk after chunk from the start, each window planned at
the cursor that the one before it has reached, and numbered from zero.

* `Lossless`: what the storage callbacks promise, a chunk that is stored is read back
  as it was until it is discarded;
* `sequentialRun`: the commits in source order, over given ends of the cores;
* `Simulated`: the invariant, with the log of the sequential run up to the cursor;
* `parallel_refines_sequential`: every run that completes has the sequential log.
-/

namespace Subgen

open Procedure

/-- What the persistence callback is handed: the window, its content, the state reached. -/
abbrev Persisted := ChunkWindow × StagedChunk × AssemblyState

variable {W H : Type}

/-- A procedure of the world, beside a record of what was persisted. -/
def recording {α : Type} (m : EStateM Exc W α) : EStateM Exc (W × List Persisted) α :=
  zoom Prod.fst (fun s w => (w, s.2)) m

/-- The callbacks, with a record of what was persisted. A call of the persistence callback
    that raises has persisted nothing. -/
def Callbacks.recorded (cb : Callbacks W H) : Callbacks (W × List Persisted) H where
  storeResult staged := recording (cb.storeResult staged)
  readResult handle := recording (cb.readResult handle)
  discardResult handle := recording (cb.discardResult handle)
  persistChunk window staged nextState := do
    recording (cb.persistChunk window staged nextState)
    modify fun s => (s.1, s.2 ++ [(window, staged, nextState)])

/-- The same call, in the world with the record. -/
def Call.recorded : Call W → Call (W × List Persisted)
  | .claim worker coreSeconds => .claim worker coreSeconds
  | .yielded assignment => .yielded assignment
  | .completed assignment result => .completed assignment result
  | .commitReady check maximumCommits => .commitReady (recording check) maximumCommits
  | .pauseDispatch paused => .pauseDispatch paused
  | .close => .close

theorem recording_eq_ok {α : Type} {m : EStateM Exc W α} {s s' : W × List Persisted} {a : α} :
    recording m s = .ok a s' ↔ ∃ w, m s.1 = .ok a w ∧ s' = (w, s.2) := zoom_eq_ok

theorem recording_eq_error {α : Type} {m : EStateM Exc W α} {s s' : W × List Persisted} {e : Exc} :
    recording m s = .error e s' ↔ ∃ w, m s.1 = .error e w ∧ s' = (w, s.2) := zoom_eq_error

theorem after_recording {α : Type} (m : EStateM Exc W α) (s : W × List Persisted) :
    after (recording m) s = (after m s.1, s.2) := by
  rw [after, after, recording, zoom]
  cases m s.1 <;> rfl

/-- A chunk is on the record when the callback has returned. -/
theorem persistChunk_recorded_eq_ok {cb : Callbacks W H} {window : ChunkWindow}
    {staged : StagedChunk} {nextState : AssemblyState} {s s' : W × List Persisted} :
    cb.recorded.persistChunk window staged nextState s = .ok () s' ↔
      ∃ w, cb.persistChunk window staged nextState s.1 = .ok () w ∧
        s' = (w, s.2 ++ [(window, staged, nextState)]) := by
  refine run_bind_eq_ok.trans ⟨?_, ?_⟩
  · rintro ⟨_, _, h, hs'⟩
    obtain ⟨w, hw, rfl⟩ := recording_eq_ok.1 h
    cases hs'
    exact ⟨w, hw, rfl⟩
  · rintro ⟨w, hw, rfl⟩
    exact ⟨(), _, recording_eq_ok.2 ⟨w, hw, rfl⟩, rfl⟩

theorem persistChunk_recorded_eq_error {cb : Callbacks W H} {window : ChunkWindow}
    {staged : StagedChunk} {nextState : AssemblyState} {s s' : W × List Persisted} {e : Exc}
    (h : cb.recorded.persistChunk window staged nextState s = .error e s') :
    ∃ w, cb.persistChunk window staged nextState s.1 = .error e w ∧ s' = (w, s.2) := by
  change (recording (cb.persistChunk window staged nextState) >>= fun _ => modify _) s = _ at h
  cases hr : recording (cb.persistChunk window staged nextState) s with
  | ok _ _ =>
    change EStateM.bind _ _ s = _ at h
    rw [EStateM.bind, hr] at h
    cases h
  | error e' s'' =>
    change EStateM.bind _ _ s = _ at h
    rw [EStateM.bind, hr] at h
    cases h
    exact recording_eq_error.1 hr

section Lossless

variable (contents : W → H → Option StagedChunk)

/-- What is stored in `w` is still stored in `w'`. -/
def Keeps (w w' : W) : Prop := ∀ h c, contents w h = some c → contents w' h = some c

/-- A chunk that is stored gets a handle of its own, and is read back as it was stored
    until it is discarded; `contents` is what is stored under each handle. -/
structure Lossless (cb : Callbacks W H) : Prop where
  store : ∀ staged w, Ensures (cb.storeResult staged) w
    (fun h w' => contents w h = none ∧ contents w' h = some staged ∧ Keeps contents w w')
    (fun _ w' => Keeps contents w w')
  read : ∀ h w, Ensures (cb.readResult h) w
    (fun staged w' => (∀ c, contents w h = some c → staged = c) ∧ Keeps contents w w')
    (fun _ w' => Keeps contents w w')
  discard : ∀ h w h' c, h' ≠ h → contents w h' = some c →
    contents (after (cb.discardResult h) w) h' = some c
  persist : ∀ window staged nextState w,
    Keeps contents w (after (cb.persistChunk window staged nextState) w)

end Lossless

/-- The commits in source order: each window is planned at the cursor, with its core up to
    the given end. -/
def sequentialFold (d v : ℚ) :
    AssemblyState → List (ℚ × StagedChunk) → EStateM Exc (List Persisted) AssemblyState
  | state, [] => pure state
  | state, (coreEnd, staged) :: chunks => do
    let window? ← ofExcept
      (planNextWindow state.cursor d (coreEnd - state.cursor) state.completedChunks v)
    match window? with
    | none => pure state
    | some window =>
      let nextState ← commitChunk state window staged
        fun window staged nextState => modify (· ++ [(window, staged, nextState)])
      sequentialFold d v nextState chunks

/-- The sequential run, from the empty assembly. -/
def sequentialRun (d v : ℚ) (chunks : List (ℚ × StagedChunk)) :
    EStateM Exc (List Persisted) AssemblyState := do
  let state ← ofExcept (AssemblyState.empty d)
  sequentialFold d v state chunks

/-- The ends of the cores, and the contents. -/
def sources (log : List Persisted) : List (ℚ × StagedChunk) := log.map fun p => (p.1.coreEnd, p.2.1)

/-- A window is planned again from the ends of its core. -/
theorem plan_of_extracts {d v : ℚ} (hv : 0 ≤ v) {w : ChunkWindow} (h : w.Extracts d v)
    (n : ℕ) : planNextWindow w.coreStart d (w.coreEnd - w.coreStart) n v =
      .ok (some (w.withOrdinal n)) := by
  obtain ⟨hd, hstart, hend⟩ := h
  have hlt : w.coreStart < d := hd ▸ w.core_lt.trans_le w.core_le_duration
  rw [planNextWindow_eq n w.core_nonneg hlt (sub_pos.2 w.core_lt) hv]
  have hcore : min d (w.coreStart + (w.coreEnd - w.coreStart)) = w.coreEnd := by
    rw [add_sub_cancel]
    exact min_eq_right (hd ▸ w.core_le_duration)
  congr 2
  ext
  · rfl
  · exact hd.symm
  · rfl
  · exact hcore
  · exact hstart.symm
  · simp only [plannedWindow, hcore]
    exact hend.symm

/-- One more chunk at the end of a sequential run. -/
theorem sequentialFold_concat {d v : ℚ} {s t u : AssemblyState} {l : List (ℚ × StagedChunk)}
    {log log' : List Persisted} {w : ChunkWindow} {c : StagedChunk}
    (h : sequentialFold d v s l log = .ok t log')
    (hplan : planNextWindow t.cursor d (w.coreEnd - t.cursor) t.completedChunks v = .ok (some w))
    (hcommit : prepareCommit t w c = .ok u) :
    sequentialFold d v s (l ++ [(w.coreEnd, c)]) log = .ok u (log' ++ [(w, c, u)]) := by
  induction l generalizing s log with
  | nil =>
    cases h
    rw [List.nil_append, sequentialFold, run_bind_eq_ok]
    refine ⟨some w, log', run_ofExcept_eq_ok.2 ⟨hplan, rfl⟩, ?_⟩
    refine run_bind_eq_ok.2 ⟨u, log' ++ [(w, c, u)], ?_, rfl⟩
    rw [commitChunk_eq hcommit]
    rfl
  | cons p l ih =>
    obtain ⟨coreEnd, staged⟩ := p
    rw [sequentialFold, run_bind_eq_ok] at h
    rw [List.cons_append, sequentialFold, run_bind_eq_ok]
    obtain ⟨window?, log₁, hwindow, h⟩ := h
    refine ⟨window?, log₁, hwindow, ?_⟩
    cases window? with
    | none =>
      -- The run has stopped at the end, where no further window is planned.
      obtain ⟨hnone, -⟩ := run_ofExcept_eq_ok.1 hwindow
      cases h
      obtain ⟨-, hlt, -⟩ := planNextWindow_eq_some_iff.1 hplan
      exact absurd (eq_of_planNextWindow_none hnone) hlt.ne
    | some window =>
      obtain ⟨nextState, log₂, hnext, h⟩ := run_bind_eq_ok.1 h
      exact run_bind_eq_ok.2 ⟨nextState, log₂, hnext, ih h⟩

/-! ## The simulation -/

/-- The chunk was staged of the result that an attempt on the window was completed with. -/
def StagedBy (calls : List (Call W)) (window : ChunkWindow) (staged : StagedChunk) : Prop :=
  ∃ a result, Call.completed (some a) result ∈ calls ∧
    a.window.withOrdinal window.ordinal = window ∧ stageChunkResult result a.window = .ok staged

/-- What is spooled is stored, each chunk under its own handle; and what is persisted is the
    log of a sequential run that has reached the same state. -/
structure Simulated (d v : ℚ) (calls : List (Call W)) (contents : W → H → Option StagedChunk)
    (s : Scheduler (W × List Persisted) H) : Prop where
  timeline : s.self.Timeline d v
  stored : ∀ e ∈ s.self.ready.entries, ∃ staged,
    contents s.world.1 e.2.2 = some staged ∧ StagedBy calls e.2.1 staged
  handles : (s.self.ready.entries.map fun e => e.2.2).Nodup
  sequential : sequentialRun d v (sources s.world.2) [] = .ok s.self.state s.world.2
  completed : s.self.state.completedChunks = s.world.2.length
  ordinals : s.world.2.map (fun p => p.1.ordinal) = List.range s.world.2.length
  tiles : Tiles 0 s.self.state.cursor (s.world.2.map fun p => p.1.core)
  staged : ∀ p ∈ s.world.2, StagedBy calls p.1 p.2.1

namespace Simulated

variable {d v : ℚ} {calls : List (Call W)} {contents : W → H → Option StagedChunk}
  {s : Scheduler (W × List Persisted) H}

/-- Only the world of the callbacks has changed, and what was stored is still there. -/
theorem keep (h : Simulated d v calls contents s) {w : W} (hw : Keeps contents s.world.1 w) :
    Simulated d v calls contents { s with world := (w, s.world.2) } where
  timeline := h.timeline
  stored e he := by
    obtain ⟨staged, hstored, hby⟩ := h.stored e he
    exact ⟨staged, hw _ _ hstored, hby⟩
  handles := h.handles
  sequential := h.sequential
  completed := h.completed
  ordinals := h.ordinals
  tiles := h.tiles
  staged := h.staged

/-- Nothing that is spooled, persisted or committed has changed. -/
theorem same (h : Simulated d v calls contents s) {c : Coordinator H} (ht : c.Timeline d v)
    (hready : c.ready = s.self.ready) (hstate : c.state = s.self.state) :
    Simulated d v calls contents { s with self := c } where
  timeline := ht
  stored := by rw [hready]; exact h.stored
  handles := by rw [hready]; exact h.handles
  sequential := by rw [hstate]; exact h.sequential
  completed := by rw [hstate]; exact h.completed
  ordinals := h.ordinals
  tiles := by rw [hstate]; exact h.tiles
  staged := h.staged

/-- A chunk is stored under a new handle. -/
theorem spool (h : Simulated d v calls contents s) {a : ChunkAssignment} {result : Value}
    {staged : StagedChunk} {handle : H} {w : W}
    (ha : s.self.inflight.lookup a.worker = some a)
    (hmade : Call.completed (some a) result ∈ calls)
    (hstaged : stageChunkResult result a.window = .ok staged)
    (hfresh : contents s.world.1 handle = none) (hstored : contents w handle = some staged)
    (hkeeps : Keeps contents s.world.1 w) :
    Simulated d v calls contents ⟨s.self.spool a handle, (w, s.world.2)⟩ := by
  have hentries : (s.self.ready.insert a.window.coreStart (a.window, handle)).entries =
      ⟨a.window.coreStart, a.window, handle⟩ :: s.self.ready.entries :=
    AList.entries_insert_of_notMem (h.timeline.notMem_ready ha)
  have hkept := h.keep hkeeps
  refine ⟨h.timeline.spool ha, ?_, ?_, h.sequential, h.completed, h.ordinals, h.tiles, h.staged⟩
  · rw [Coordinator.spool, hentries, List.forall_mem_cons]
    exact ⟨⟨staged, hstored, a, result, hmade, rfl, hstaged⟩, hkept.stored⟩
  · rw [Coordinator.spool, hentries, List.map_cons, List.nodup_cons]
    refine ⟨fun hmem => ?_, h.handles⟩
    obtain ⟨e, he, hhandle⟩ := List.mem_map.1 hmem
    obtain ⟨c, hc, -⟩ := h.stored e he
    rw [hhandle, hfresh] at hc
    cases hc

/-- The chunk at the cursor is what the sequential run commits next. -/
theorem commit (h : Simulated d v calls contents s) {window : ChunkWindow} {handle : H}
    {staged : StagedChunk} {next : AssemblyState} {w : W}
    (hready : s.self.ready.lookup s.self.state.cursor = some (window, handle))
    (hcontents : contents s.world.1 handle = some staged)
    (hchecked : prepareCommit s.self.state
      (window.withOrdinal s.self.state.completedChunks) staged = .ok next)
    (hkeeps : ∀ h' c, h' ≠ handle → contents s.world.1 h' = some c → contents w h' = some c) :
    Simulated d v calls contents ⟨s.self.advance next,
      (w, s.world.2 ++ [(window.withOrdinal s.self.state.completedChunks, staged, next)])⟩ := by
  have hentry := AList.mem_lookup_iff.1 hready
  have hperm := perm_erase_of_lookup hready
  have hstart : window.coreStart = s.self.state.cursor := h.timeline.ready_start _ hentry
  have hplanned : window.Extracts d v := h.timeline.ready_planned _ hentry
  obtain ⟨-, -, -, hduration, hcursor, hcompleted⟩ := eq_of_prepareCommit hchecked
  have hnodup := (hperm.map fun e => e.2.2).nodup_iff.1 h.handles
  rw [List.map_cons, List.nodup_cons] at hnodup
  obtain ⟨staged', hstored, hby⟩ := h.stored _ hentry
  -- The result under the handle is the one that was staged for this window.
  obtain rfl : staged = staged' := Option.some.inj (hcontents.symm.trans hstored)
  refine ⟨h.timeline.advance hready (hduration.trans h.timeline.duration) hcursor, fun e he => ?_,
    hnodup.2, ?_, ?_, ?_, ?_, ?_⟩
  · obtain ⟨c, hc, hby⟩ := h.stored e (hperm.mem_iff.2 (List.mem_cons_of_mem _ he))
    refine ⟨c, hkeeps _ _ (fun heq => hnodup.1 ?_) hc, hby⟩
    exact List.mem_map.2 ⟨e, he, heq⟩
  · -- The sequential run goes on by the same window, which it would have planned itself.
    obtain ⟨start, log, hempty, hfold⟩ := run_bind_eq_ok.1 h.sequential
    obtain ⟨hstart', rfl⟩ := run_ofExcept_eq_ok.1 hempty
    refine run_bind_eq_ok.2 ⟨start, [], run_ofExcept_eq_ok.2 ⟨hstart', rfl⟩, ?_⟩
    rw [sources, List.map_append, List.map_singleton]
    refine sequentialFold_concat hfold ?_ hchecked
    rw [← hstart]
    exact plan_of_extracts h.timeline.overlap_nonneg hplanned _
  · rw [List.length_append, List.length_singleton, ← h.completed]
    exact hcompleted
  · rw [List.map_append, h.ordinals, List.length_append, List.length_singleton, List.range_succ,
      ← h.completed]
    rfl
  · -- The cores that are committed tile the timeline up to the new cursor.
    rw [List.map_append, tiles_append]
    refine ⟨s.self.state.cursor, h.tiles, hstart, window.core_lt, ?_⟩
    exact hcursor.symm
  · rw [List.forall_mem_append]
    refine ⟨h.staged, fun p hp => ?_⟩
    rw [List.mem_singleton.1 hp]
    obtain ⟨a, result, hmade, hwindow, hstaged⟩ := hby
    exact ⟨a, result, hmade,
      congrArg (fun w => w.withOrdinal s.self.state.completedChunks) hwindow, hstaged⟩

end Simulated

/-- Every step keeps the simulation. -/
theorem simulated_step {d v : ℚ} {calls : List (Call W)} {contents : W → H → Option StagedChunk}
    {cb : Callbacks W H} (hspool : Lossless contents cb)
    (hchecks : ∀ check maximumCommits w, Call.commitReady check maximumCommits ∈ calls →
      Keeps contents w (after check w))
    {s s' : Scheduler (W × List Persisted) H}
    (hstep : Scheduler.Step cb.recorded (fun call => ∃ c ∈ calls, c.recorded = call) s s')
    (h : Simulated d v calls contents s) : Simulated d v calls contents s' := by
  have ht := Scheduler.timeline_step hstep h.timeline
  -- Only a spooled result and a commit change what is held; everything else keeps it.
  cases hstep with
  | assign worker seconds window hclaimable hfits hplan => exact h.same ht rfl rfl
  | putBack a ha => exact h.same ht rfl rfl
  | pause b => exact h.same ht rfl rfl
  | spool a result staged handle world hmade ha hstaged hstore =>
    obtain ⟨w, hw, rfl⟩ := recording_eq_ok.1 hstore
    obtain ⟨hfresh, hstored, hkeeps⟩ := (ensures_of_ok hw).1 (hspool.store staged s.world.1)
    obtain ⟨call, hcall, hrecorded⟩ := hmade
    cases call with
    | completed assignment result' =>
      cases hrecorded
      exact h.spool ha hcall hstaged hfresh hstored hkeeps
    | _ => cases hrecorded
  | commit window handle staged nextState world world' hready hread hchecked hpersist =>
    obtain ⟨w₁, hw₁, rfl⟩ := recording_eq_ok.1 hread
    -- The spool gives back what was stored under the handle, and the callbacks keep the rest.
    obtain ⟨hvalue, hkeeps₁⟩ := (ensures_of_ok hw₁).1 (hspool.read handle s.world.1)
    obtain ⟨w₂, hw₂, rfl⟩ := persistChunk_recorded_eq_ok.1 hpersist
    have hkeeps₂ := hspool.persist (window.withOrdinal s.self.state.completedChunks) staged
      nextState w₁
    rw [after, hw₂] at hkeeps₂
    obtain ⟨staged', hstored, -⟩ := h.stored _ (AList.mem_lookup_iff.1 hready)
    obtain rfl : staged = staged' := hvalue _ hstored
    rw [show cb.recorded.discardResult handle = recording (cb.discardResult handle) from rfl,
      after_recording]
    exact h.commit hready hstored hchecked fun h' c hne hc =>
      hspool.discard handle w₂ h' c hne (hkeeps₂ _ _ (hkeeps₁ _ _ hc))
  | storeRaises staged e world hstore =>
    obtain ⟨w, hw, rfl⟩ := recording_eq_error.1 hstore
    exact h.keep ((ensures_of_error hw).1 (hspool.store staged s.world.1))
  | read handle =>
    rw [show cb.recorded.readResult handle = recording (cb.readResult handle) from rfl,
      after_recording]
    exact h.keep (ensures_iff_after.1 ((hspool.read handle s.world.1).mono (fun _ _ h => h.2)
      fun _ _ h => h))
  | persistRaises window staged nextState e world hpersist =>
    obtain ⟨w, hw, rfl⟩ := persistChunk_recorded_eq_error hpersist
    have hkeeps := hspool.persist window staged nextState s.world.1
    rw [after, hw] at hkeeps
    exact h.keep hkeeps
  | check checkBeforeCommit maximumCommits hmade =>
    obtain ⟨call, hcall, hrecorded⟩ := hmade
    cases call with
    | commitReady check maximumCommits' =>
      cases hrecorded
      rw [after_recording]
      exact h.keep (hchecks check maximumCommits s.world.1 hcall)
    | _ => cases hrecorded

theorem simulated_of_new {d v : ℚ} {workers : List String} {c : Coordinator H}
    (h : Coordinator.new d workers v = .ok c) (calls : List (Call W))
    (contents : W → H → Option StagedChunk) (world : W) :
    Simulated d v calls contents ⟨c, (world, [])⟩ := by
  have ht := Coordinator.timeline_of_new h
  obtain ⟨hd, _, _, rfl⟩ := Coordinator.new_eq_ok_iff.1 h
  refine ⟨ht, by simp, by simp, ?_, rfl, rfl, rfl, by simp⟩
  exact run_bind_eq_ok.2 ⟨_, [], run_ofExcept_eq_ok.2 ⟨AssemblyState.empty_eq hd, rfl⟩, rfl⟩

/-- Whatever the calls, with lossless storage: when the file is complete, the chunks that
    were persisted are numbered from zero, their cores tile the media from left to right,
    and no window was persisted twice; each was staged of the result that an attempt on its
    window was completed with; and a sequential run over the same core ends and the same
    contents persists the same chunks and ends in the same state. -/
theorem parallel_refines_sequential {d v : ℚ} {workers : List String} {c : Coordinator H}
    (hnew : Coordinator.new d workers v = .ok c) {cb : Callbacks W H}
    {contents : W → H → Option StagedChunk} (hspool : Lossless contents cb) (world : W)
    {calls : List (Call W)}
    (hchecks : ∀ check maximumCommits w, Call.commitReady check maximumCommits ∈ calls →
      Keeps contents w (after check w))
    {s : Scheduler (W × List Persisted) H}
    (hs : s = Scheduler.run cb.recorded ⟨c, (world, [])⟩ (calls.map Call.recorded))
    (hopen : s.self.closed = false) (hcomplete : s.self.state.complete = true) :
    s.world.2.map (fun p => p.1.ordinal) = List.range s.world.2.length ∧
    Tiles 0 d (s.world.2.map fun p => p.1.core) ∧
    (s.world.2.map fun p => p.1).Nodup ∧
    (∀ p ∈ s.world.2, ∃ a result, Call.completed (some a) result ∈ calls ∧
      a.window.withOrdinal p.1.ordinal = p.1 ∧ stageChunkResult result p.1 = .ok p.2.1) ∧
    sequentialRun d v (sources s.world.2) [] = .ok s.self.state s.world.2 := by
  have h : Simulated d v calls contents s := by
    rw [hs] at hopen ⊢
    exact Scheduler.run_invariant _ (fun _ _ => simulated_step hspool hchecks)
      (simulated_of_new hnew calls contents world)
      (fun call hcall => List.mem_map.1 hcall) (Scheduler.allFit_exact _ _ _) hopen
  -- The file is complete, so the tiles reach its end.
  have hend : s.self.state.cursor = d :=
    (of_decide_eq_true hcomplete).trans h.timeline.duration
  have htiles : Tiles 0 d (s.world.2.map fun p => p.1.core) := hend ▸ h.tiles
  refine ⟨h.ordinals, htiles, ?_, fun p hp => ?_, h.sequential⟩
  · -- Tiles that follow each other differ, and so do the windows.
    have hcores : (s.world.2.map fun p => p.1.core) =
        (s.world.2.map fun p => p.1).map ChunkWindow.core := by
      rw [List.map_map]
      rfl
    exact List.Nodup.of_map _ (hcores ▸ htiles.nodup)
  · obtain ⟨a, result, hmade, hwindow, hstaged⟩ := h.staged p hp
    refine ⟨a, result, hmade, hwindow, ?_⟩
    rw [← hwindow]
    exact hstaged

/-- What is stored in memory under a handle. -/
def memoryContents (chunks : List (Option StagedChunk)) (handle : ℕ) : Option StagedChunk :=
  chunks.getD handle none

theorem memorySpool_lossless : Lossless memoryContents memorySpool where
  store staged w := by
    refine ⟨?_, ?_, fun h c hc => ?_⟩
    · simp [memoryContents]
    · simp [memoryContents]
    · have hlt : h < w.length := by
        by_contra hge
        rw [memoryContents, List.getD_eq_default _ _ (not_lt.1 hge)] at hc
        cases hc
      rw [memoryContents, List.getD_append _ _ _ _ hlt]
      exact hc
  read h w := by
    simp only [memorySpool, ensures_bind, ensures_get]
    cases hc : w.getD h none with
    | none => exact fun _ _ h => h
    | some staged =>
      refine ⟨fun c hc' => ?_, fun _ _ h => h⟩
      rw [memoryContents, hc] at hc'
      exact Option.some.inj hc'
  discard h w h' c hne hc := by
    change memoryContents (w.set h none) h' = some c
    rw [memoryContents, List.getD_eq_getElem?_getD, List.getElem?_set_ne hne.symm,
      ← List.getD_eq_getElem?_getD]
    exact hc
  persist _ _ _ _ := fun _ _ h => h

/-- Two workers; what is second in the file is completed first. -/
def reversed : List (Call (List (Option StagedChunk))) :=
  [.claim "a" 20, .claim "b" 20,
    .completed (some ⟨.claimed 1, "b", ⟨1, 30, 20, 30, 15, 30, thirty_pos, by norm_num⟩⟩)
      (wordResult "b" 6 8),
    .commitReady (pure true) .none,
    .completed (some ⟨.claimed 0, "a", ⟨0, 30, 0, 20, 0, 25, thirty_pos, by norm_num⟩⟩)
      (wordResult "a" 1 2),
    .commitReady (pure true) (.int 1), .commitReady (pure false) .none,
    .commitReady (pure true) .none]

/-- The state after the last of them. -/
def afterReversed : Scheduler (List (Option StagedChunk) × List Persisted) ℕ :=
  Scheduler.run memorySpool.recorded ⟨twoWorkers, ([], [])⟩ (reversed.map Call.recorded)

theorem parallel_refines_sequential_reversed :
    afterReversed.world.2.map (fun p => (p.1.core, p.2.1.segments.length)) =
      [((0, 20), 1), ((20, 30), 1)] ∧
    sequentialRun 30 5 (sources afterReversed.world.2) [] =
      .ok afterReversed.self.state afterReversed.world.2 := by
  refine ⟨by decide +kernel, (parallel_refines_sequential twoWorkers_new memorySpool_lossless []
    (fun check maximumCommits w hcall => ?_) rfl (by decide +kernel) (by decide +kernel)).2.2.2.2⟩
  simp only [reversed, List.mem_cons, List.not_mem_nil, Call.commitReady.injEq, reduceCtorEq,
    false_or, or_false] at hcall
  rcases hcall with ⟨rfl, -⟩ | ⟨rfl, -⟩ | ⟨rfl, -⟩ | ⟨rfl, -⟩ <;> exact fun _ _ h => h

end Subgen

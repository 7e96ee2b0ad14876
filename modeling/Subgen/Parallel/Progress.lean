import Subgen.Parallel.Timeline

/-!
# The coordinator never wedges

The lookahead is bounded: at most `maximumPending` chunks are in flight or spooled.
It could fill up with later sections while the *front*, the chunk at the committed
cursor, has been given back. It does not: the front is always either held, or the
first thing that the next claim takes (`Timeline.nextRange_front`), so that the
bound is only ever reached with the front among what is pending (`Bounded`).

`claim_front`: when nothing is in flight and the front is not spooled, any worker
can claim, and gets the front.
-/

namespace Subgen

open Procedure Set

variable {W H : Type}

namespace Coordinator

variable {d v : ℚ} {c : Coordinator H}

/-- The chunk at the committed cursor is spooled, or in flight. -/
def FrontHeld (c : Coordinator H) : Prop :=
  c.state.cursor ∈ c.ready ∨
    ∃ e ∈ c.inflight.entries, e.2.window.coreStart = c.state.cursor

/-- A piece of the timeline other than the committed prefix is after it. -/
theorem Timeline.front_le [Rounding] (h : Timeline d v c) {p : ℚ × ℚ} (hp : p ∈ c.ranges.tail)
    (hlt : p.1 < p.2) : c.state.cursor ≤ p.1 := by
  have hmem : p.1 ∈ Ico 0 d :=
    h.partition.subset (List.mem_map_of_mem (List.mem_of_mem_tail hp)) (left_mem_piece hlt)
  by_contra hfront
  exact Set.disjoint_left.1 (h.partition.disjoint_piece hp) ⟨hmem.1, not_le.1 hfront⟩
    (left_mem_piece hlt)

/-- What is not held of the front is the start of the range that the next claim takes. -/
theorem Timeline.nextRange_front [Rounding] (h : Timeline d v c) (hfree : ¬ c.FrontHeld)
    (hincomplete : c.state.cursor < d) :
    c.nextRange.1 = c.state.cursor ∧ c.state.cursor < c.nextRange.2 := by
  obtain ⟨q, hq, hx⟩ := h.partition.mem_iff.1 ⟨c.state.cursor_nonneg, hincomplete⟩
  obtain ⟨p, hp, rfl⟩ := List.mem_map.1 hq
  obtain ⟨hpx, hxp⟩ := hx
  have hp' : p ∈ c.ranges.tail := by
    rcases List.mem_cons.1 hp with rfl | hp
    · exact absurd hxp (lt_irrefl _)
    · exact hp
  -- The piece with the front in it starts at the front.
  have hstart : p.1 = c.state.cursor := le_antisymm hpx (h.front_le hp' (hpx.trans_lt hxp))
  have hplaces : p ∈ c.ready.entries.map (fun e => e.2.1.core) ∨
      p ∈ c.inflight.entries.map (fun e => e.2.window.core) ∨ p ∈ c.retry ∨
        p = (c.cursor, c.state.mediaDuration) := by
    simpa [ranges, or_assoc] using hp'
  have htail : ∀ q ∈ c.retry, q ∈ c.ranges.tail := fun q hq => by simp [ranges, hq]
  rcases hplaces with hready | hinflight | hretry | rfl
  · obtain ⟨e, he, rfl⟩ := List.mem_map.1 hready
    refine absurd (.inl ?_) hfree
    exact AList.mem_keys.2 (List.mem_map.2 ⟨e, he, (h.ready_start e he).symm.trans hstart⟩)
  · obtain ⟨e, he, rfl⟩ := List.mem_map.1 hinflight
    exact absurd (.inr ⟨e, he, hstart⟩) hfree
  · -- Of the ranges to retry, the one at the front is the first.
    cases hr : c.retry with
    | nil => rw [hr] at hretry; cases hretry
    | cons q rest =>
      rw [hr] at hretry
      rcases List.mem_cons.1 hretry with rfl | hrest
      · simpa [nextRange, hr] using ⟨hstart, hxp⟩
      · have hq : q ∈ c.retry := by simp [hr]
        have hlt := h.retry_lt q hq
        have hapart : q.2 < p.1 := (List.pairwise_cons.1 (hr ▸ h.retry_apart)).1 p hrest
        exact absurd (h.front_le (htail q hq) hlt) (not_le.2 (hlt.trans (hapart.trans_eq hstart)))
  · -- The front is fresh: then nothing is left to retry.
    cases hr : c.retry with
    | nil => simpa [nextRange, hr] using ⟨hstart, hxp⟩
    | cons q rest =>
      have hq : q ∈ c.retry := by simp [hr]
      have hlt := h.retry_lt q hq
      have hmem : q.1 ∈ Ico 0 d := h.partition.subset
        (List.mem_map_of_mem (List.mem_of_mem_tail (htail q hq))) (left_mem_piece hlt)
      have hdisjoint : Disjoint (piece q) (piece (c.cursor, c.state.mediaDuration)) := by
        have := h.partition.disjoint
        simp only [ranges, pieces_append, List.pairwise_append] at this
        refine this.2.2 _ ?_ _ (by simp [pieces])
        simp [pieces, List.mem_map_of_mem hq]
      refine absurd ⟨?_, hmem.2.trans_eq h.duration.symm⟩
        (Set.disjoint_left.1 hdisjoint (left_mem_piece hlt))
      exact hstart.le.trans (h.front_le (htail q hq) hlt)

/-- The bound on what is pending is only reached with the front held. -/
structure Bounded (c : Coordinator H) : Prop where
  workers_pos : 0 < c.workers.length
  pending_le : c.pendingCount ≤ c.maximumPending
  pending_lt : ¬ c.FrontHeld → c.pendingCount < c.maximumPending

theorem length_of_lookup {α : Type} {β : α → Type} [DecidableEq α] {s : AList β} {a : α} {b : β a}
    (h : s.lookup a = some b) : s.entries.length = (s.erase a).entries.length + 1 := by
  rw [(perm_erase_of_lookup h).length_eq, List.length_cons]

/-- The front is held after the claim, if it was before or if the claim takes it. -/
theorem Bounded.assign [Rounding] (h : c.Bounded) (ht : Timeline d v c) {worker : String}
    {seconds : ℚ} {window : ChunkWindow} (hclaimable : c.Claimable worker seconds)
    (hfits : c.Fits seconds)
    (hplan : planNextWindow c.nextRange.1 c.state.mediaDuration
      (min seconds (rounded (c.nextRange.2 - c.nextRange.1))) c.attempt c.overlap =
        .ok (some window)) :
    (c.assign worker window).Bounded := by
  have hentries := AList.entries_insert_of_notMem
    (b := ⟨.claimed c.attempt, worker, window⟩) hclaimable.free
  have hcount : (c.assign worker window).pendingCount = c.pendingCount + 1 := by
    simp only [pendingCount, Coordinator.assign, hentries, List.length_cons]
    omega
  refine ⟨h.workers_pos, hcount.trans_le hclaimable.pending_lt, fun hfree => ?_⟩
  refine absurd ?_ hfree
  by_cases hheld : c.FrontHeld
  · rcases hheld with hready | ⟨e, he, hfront⟩
    · exact .inl hready
    · exact .inr ⟨e, by rw [Coordinator.assign, hentries]; exact List.mem_cons_of_mem _ he, hfront⟩
  · refine .inr ⟨⟨worker, ⟨.claimed c.attempt, worker, window⟩⟩, ?_, ?_⟩
    · rw [Coordinator.assign, hentries]
      exact List.mem_cons_self
    · -- The window is after the committed prefix, which is therefore not the whole media.
      have hmem : window.core ∈ (c.assign worker window).ranges.tail := by
        simp [ranges, Coordinator.assign]
      have hfront := (ht.assign hclaimable.free hfits hplan).front_le hmem window.core_lt
      obtain ⟨hplanned, hstart, -⟩ := ht.planned hfits hplan
      have hincomplete : c.state.cursor < d := (hfront.trans_lt window.core_lt).trans_le
        (hplanned.duration_eq ▸ window.core_le_duration)
      exact hstart.trans (ht.nextRange_front hheld hincomplete).1

theorem Bounded.putBack (h : c.Bounded) {a : ChunkAssignment}
    (ha : c.inflight.lookup a.worker = some a) : (c.putBack a).Bounded := by
  have hcount : (c.putBack a).pendingCount + 1 = c.pendingCount := by
    have := length_of_lookup ha
    simp only [pendingCount, Coordinator.putBack]
    omega
  have hle : (c.putBack a).pendingCount < c.maximumPending := by
    have := h.pending_le
    omega
  exact ⟨h.workers_pos, hle.le, fun _ => hle⟩

/-- Completing an attempt changes its place, and neither the count nor the front. -/
theorem Bounded.spool [Rounding] (h : c.Bounded) (ht : Timeline d v c) {a : ChunkAssignment} {handle : H}
    (ha : c.inflight.lookup a.worker = some a) : (c.spool a handle).Bounded := by
  have hready : (c.ready.insert a.window.coreStart (a.window, handle)).entries =
      ⟨a.window.coreStart, a.window, handle⟩ :: c.ready.entries :=
    AList.entries_insert_of_notMem (ht.notMem_ready ha)
  have hcount : (c.spool a handle).pendingCount = c.pendingCount := by
    have := length_of_lookup ha
    simp only [pendingCount, Coordinator.spool, hready, List.length_cons]
    omega
  refine ⟨h.workers_pos, hcount.trans_le h.pending_le, fun hfree => ?_⟩
  refine hcount.trans_lt (h.pending_lt fun hheld => hfree ?_)
  rcases hheld with hmem | ⟨e, he, hfront⟩
  · exact .inl (AList.mem_insert _ |>.2 (.inr hmem))
  · rcases List.mem_cons.1 ((perm_erase_of_lookup ha).mem_iff.1 he) with rfl | he
    · exact .inl (AList.mem_insert _ |>.2 (.inl hfront.symm))
    · exact .inr ⟨e, he, hfront⟩

theorem Bounded.advance (h : c.Bounded) {w : ChunkWindow} {handle : H} {next : AssemblyState}
    (hready : c.ready.lookup c.state.cursor = some (w, handle)) : (c.advance next).Bounded := by
  have hcount : (c.advance next).pendingCount + 1 = c.pendingCount := by
    have := length_of_lookup hready
    simp only [pendingCount, Coordinator.advance]
    omega
  have hle : (c.advance next).pendingCount < c.maximumPending := by
    have := h.pending_le
    omega
  exact ⟨h.workers_pos, hle.le, fun _ => hle⟩

theorem Bounded.pause (h : c.Bounded) (b : Bool) :
    ({ c with dispatchPaused := b } : Coordinator H).Bounded :=
  ⟨h.workers_pos, h.pending_le, h.pending_lt⟩

theorem bounded_of_new {workers : List String} (h : new d workers v = .ok c) : c.Bounded := by
  obtain ⟨_, _, hworkers, rfl⟩ := new_eq_ok_iff.1 h
  have hpos : 0 < 2 * workers.length := by
    have := hworkers.pos
    omega
  exact ⟨hworkers.pos, Nat.zero_le _, fun _ => hpos⟩

/-- What a claim does when the worker may have an assignment and a window is planned. -/
theorem claim_eq [Rounding] {worker : String} {seconds : ℚ} {window : ChunkWindow}
    (hopen : c.closed = false)
    (hclaimable : c.Claimable worker seconds) (hrange : c.nextRange.1 ≠ c.nextRange.2)
    (hplan : planNextWindow c.nextRange.1 c.state.mediaDuration
      (min seconds (rounded (c.nextRange.2 - c.nextRange.1))) c.attempt c.overlap =
        .ok (some window)) :
    claim worker seconds c =
      .ok (some ⟨.claimed c.attempt, worker, window⟩) (c.assign worker window) := by
  have hbound : ¬ (c.dispatchPaused = true ∨ c.maximumPending ≤ c.pendingCount) := by
    simp [hclaimable.notPaused, hclaimable.pending_lt]
  have hseconds : positiveNumber seconds "core_seconds" = .ok seconds :=
    if_neg (not_le.2 hclaimable.seconds_pos)
  simp only [claim, bind, EStateM.bind, get, getThe, MonadStateOf.get, EStateM.get, hopen,
    Bool.false_eq_true, if_false, hclaimable.worker_mem, not_true_eq_false, hseconds, ofExcept,
    pure, EStateM.pure, hclaimable.free, hbound, hrange, hplan, set, MonadStateOf.set, EStateM.set]

/-- With nothing in flight and the front not spooled, every worker gets the front. -/
theorem claim_front (h : c.Bounded) (ht : Timeline d v c) (hopen : c.closed = false)
    (hpaused : c.dispatchPaused = false) (hincomplete : c.state.complete = false)
    (hinflight : c.inflight = ∅) (hready : c.state.cursor ∉ c.ready) {worker : String}
    (hworker : worker ∈ c.workers) {seconds : ℚ} (hseconds : 0 < seconds) :
    c.pendingCount < c.maximumPending ∧
      ∃ a, claim worker seconds c = .ok (some a) (c.assign worker a.window) ∧
        a.window.coreStart = c.state.cursor := by
  have hfree : ¬ c.FrontHeld := by
    rintro (h | ⟨e, he, -⟩)
    · exact hready h
    · rw [hinflight] at he
      cases he
  have hpending := h.pending_lt hfree
  have hcursor : c.state.cursor < d := ht.duration ▸ AssemblyState.cursor_lt hincomplete
  obtain ⟨hstart, hlimit⟩ := ht.nextRange_front hfree hcursor
  have hinside : c.nextRange.1 < c.state.mediaDuration := by
    rw [hstart]
    exact AssemblyState.cursor_lt hincomplete
  have hplan := planNextWindow_eq c.attempt (hstart ▸ c.state.cursor_nonneg) hinside
    (lt_min hseconds (sub_pos.2 (hstart ▸ hlimit))) (ht.overlap ▸ ht.overlap_nonneg)
  have hclaimable : c.Claimable worker seconds :=
    ⟨hworker, hseconds, by rw [hinflight]; exact AList.notMem_empty _, hpaused, hpending⟩
  exact ⟨hpending, _, claim_eq hopen hclaimable (hstart ▸ hlimit.ne) hplan, hstart⟩

end Coordinator

namespace Scheduler

variable {cb : Callbacks W H} {Made : Call W → Prop} {d v : ℚ}

theorem bounded_step [Rounding] {s s' : Scheduler W H} (hstep : Step cb Made s s')
    (ht : s.self.Timeline d v) (h : s.self.Bounded) : s'.self.Bounded := by
  cases hstep with
  | assign worker seconds window hclaimable hfits hplan => exact h.assign ht hclaimable hfits hplan
  | putBack a ha => exact h.putBack ha
  | spool a result staged handle world hmade ha hstaged hstore => exact h.spool ht ha
  | commit window handle staged nextState world world' hready hread hchecked hpersist =>
    exact h.advance hready
  | pause b => exact h.pause b
  | storeRaises | read | persistRaises | check => exact h

/-- The loop ends at its limit. -/
theorem commitLoop_limit {check : EStateM Exc W Bool} {limit : ℕ} {s : Scheduler W H} {rounds : ℕ}
    {committed : List ChunkWindow} (h : limit ≤ committed.length)
    {Q : List ChunkWindow → Scheduler W H → Prop} {E : Exc → Scheduler W H → Prop}
    (hQ : Q committed s) : Ensures (commitLoop cb check (some limit) rounds committed) s Q E := by
  cases rounds with
  | zero => exact hQ
  | succ rounds =>
    rw [commitLoop, ensures_bind, ensures_onSelf, ensures_get]
    cases s.self.ready.lookup s.self.state.cursor with
    | none => exact hQ
    | some entry => exact ensures_ite.2 ⟨fun _ => hQ, fun hn => absurd h (by simpa using hn)⟩

/-- With a check that returns true or raises, a single commit that returns has either
    committed a chunk, or found nothing ready at the cursor. -/
theorem commitReady_one {check : EStateM Exc W Bool} (hcheck : ∀ w w', check w ≠ .ok false w')
    (s : Scheduler W H) :
    Ensures (commitReady cb check (.int 1)) s
      (fun windows s' => (windows = [] → s'.self.state.cursor ∉ s'.self.ready) ∧
        (windows ≠ [] → s'.self.ready.entries.length < s.self.ready.entries.length))
      (fun _ _ => True) := by
  rw [commitReady, ensures_bind, ensures_onSelf, ensures_get, ensures_ite]
  refine ⟨fun _ => trivial, fun _ => ?_⟩
  rw [ensures_bind, ensures_ofExcept]
  refine ⟨fun limit hlimit => ?_, fun _ _ => trivial⟩
  obtain rfl : some 1 = limit := Except.ok.inj hlimit
  cases hrounds : s.self.ready.entries.length with
  | zero =>
    refine ⟨fun _ hmem => ?_, fun h => absurd rfl h⟩
    rw [AList.mem_keys, AList.keys, List.eq_nil_of_length_eq_zero hrounds] at hmem
    cases hmem
  | succ rounds =>
    rw [commitLoop, ensures_bind, ensures_onSelf, ensures_get]
    cases hready : s.self.ready.lookup s.self.state.cursor with
    | none => exact ⟨fun _ => AList.lookup_eq_none.1 hready, fun h => absurd rfl h⟩
    | some entry =>
      obtain ⟨window, handle⟩ := entry
      refine ensures_ite.2 ⟨fun h => by simp at h, fun _ => ?_⟩
      rw [ensures_bind, ensures_onWorld]
      cases hc : check s.world with
      | error e world => exact (ensures_of_error hc).2 trivial
      | ok healthy world =>
        rw [ensures_of_ok hc]
        cases healthy with
        | false => exact absurd hc (hcheck _ _)
        | true =>
          refine ensures_ite.2 ⟨fun _ => ?_, fun h => absurd rfl h⟩
          rw [ensures_bind]
          refine (commitFront_spec (fun _ => True) ⟨s.self, world⟩ hready).mono ?_
            fun _ _ _ => trivial
          rintro w s' ⟨_, next, hnext⟩
          refine commitLoop_limit (by simp) ?_
          refine ⟨fun h => by simp at h, fun _ => ?_⟩
          have := Coordinator.length_of_lookup hready
          rw [hnext]
          change (s.self.ready.erase s.self.state.cursor).entries.length < _
          omega

end Scheduler

end Subgen

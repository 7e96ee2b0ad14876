import Subgen.Parallel.Step

/-!
# No source interval is lost or assigned twice

The five places of the timeline (`Coordinator.ranges`) partition the media, in
every state that the coordinator reaches. A claim cuts a range in two, a yielded
attempt is joined with the ranges that it touches, a completed one only changes
its place, and a commit joins a chunk to the committed prefix.

* `Timeline`: the invariant, with what each place says about its own pieces;
* `Timeline.step`: every step keeps it;
* `timeline_partitioned`: the partition, along every run.
-/

namespace Subgen

open Procedure Set

variable {W H : Type}

section Dictionary

variable {α : Type} {β : α → Type} [DecidableEq α] {s : AList β} {a : α} {b : β a}

theorem perm_erase_of_lookup (h : s.lookup a = some b) :
    s.entries.Perm (⟨a, b⟩ :: (s.erase a).entries) := by
  have hmem := AList.mem_lookup_iff.1 h
  obtain ⟨b', l₁, l₂, -, hs, he⟩ := List.exists_of_kerase (List.mem_keys_of_mem hmem)
  have hb : b' = b := by
    have : b' ∈ s.lookup a := AList.mem_lookup_iff.2 (by rw [hs]; simp)
    rw [h] at this
    exact (Option.some.inj this).symm
  have he' : (s.erase a).entries = l₁ ++ l₂ := he
  rw [he', hs, hb]
  exact List.perm_middle

end Dictionary

namespace Coordinator

/-- The pieces of the timeline: the committed prefix, the spooled chunks, the assignments
    in flight, the ranges to retry, and the fresh range. -/
def ranges (c : Coordinator H) : List (ℚ × ℚ) :=
  (0, c.state.cursor) :: (c.ready.entries.map fun e => e.2.1.core) ++
    (c.inflight.entries.map fun e => e.2.window.core) ++ c.retry ++
      [(c.cursor, c.state.mediaDuration)]

variable [Rounding]

/-- What the places of the timeline of a media of duration `d` say. -/
structure Timeline (d v : ℚ) (c : Coordinator H) : Prop where
  duration : c.state.mediaDuration = d
  overlap : c.overlap = v
  overlap_nonneg : 0 ≤ v
  cursor_le : c.cursor ≤ d
  partition : IsPartition (pieces c.ranges) (Ico 0 d)
  retry_lt : ∀ p ∈ c.retry, p.1 < p.2
  retry_apart : c.retry.Pairwise fun p q => p.2 < q.1
  ready_start : ∀ e ∈ c.ready.entries, e.2.1.coreStart = e.1
  inflight_worker : ∀ e ∈ c.inflight.entries, e.2.worker = e.1
  ready_planned : ∀ e ∈ c.ready.entries, e.2.1.Extracts d v
  inflight_planned : ∀ e ∈ c.inflight.entries, e.2.window.Extracts d v

/-- A new coordinator has the whole media before it. -/
theorem timeline_of_new {d v : ℚ} {workers : List String} {c : Coordinator H}
    (h : new d workers v = .ok c) : Timeline d v c := by
  obtain ⟨hd, hv, -, rfl⟩ := new_eq_ok_iff.1 h
  refine ⟨rfl, rfl, hv, hd.le, ?_, by simp, by simp, by simp, by simp, by simp, by simp⟩
  have hempty : piece ((0 : ℚ), (0 : ℚ)) = ∅ := by simp [piece]
  simp only [ranges, AssemblyState.start, AList.empty_entries, List.map_nil, List.cons_append,
    List.nil_append, pieces_cons, hempty, isPartition_cons_empty]
  exact ⟨by simp [pieces], by simp [pieces, piece]⟩

namespace Timeline

variable {d v : ℚ} {c : Coordinator H}

omit [Rounding] in
/-- Only the places of the pieces matter, not their order. -/
theorem isPartition_of_count {l l' : List (ℚ × ℚ)} {t : Set ℚ} (h : IsPartition (pieces l) t)
    (hl : ∀ p, l.count p = l'.count p) : IsPartition (pieces l') t :=
  h.perm (pieces_perm (List.perm_iff_count.2 hl))

/-- The core of a claimed window is cut off the range that it starts. -/
theorem takeRange_partition (h : Timeline d v c) {w : ChunkWindow}
    (hstart : w.coreStart = c.nextRange.1) (hlimit : w.coreEnd ≤ c.nextRange.2) :
    IsPartition (pieces (w.core ::
      ({ c with retry := (c.takeRange w).1, cursor := (c.takeRange w).2 } :
        Coordinator H).ranges)) (Ico 0 d) := by
  have hlt := w.core_lt
  cases hretry : c.retry with
  | nil =>
    simp only [nextRange, hretry, List.head?_nil, Option.getD_none] at hstart hlimit
    -- The core is cut off what is not planned yet.
    have hsplit : IsPartition (pieces ((w.coreStart, w.coreEnd) ::
        (w.coreEnd, c.state.mediaDuration) :: c.ranges.dropLast)) (Ico 0 d) := by
      refine (isPartition_split hlt.le hlimit).1 (isPartition_of_count h.partition fun p => ?_)
      simp only [ranges, List.dropLast_concat, List.count_append, List.count_cons, List.count_nil,
        hstart]
      omega
    refine isPartition_of_count hsplit fun p => ?_
    simp only [takeRange, hretry, ranges, List.dropLast_concat, List.count_append,
      List.count_cons, List.count_nil, ChunkWindow.core]
    omega
  | cons p rest =>
    obtain ⟨start, limit⟩ := p
    simp only [nextRange, hretry, List.head?_cons, Option.getD_some] at hstart hlimit
    have hsplit : IsPartition (pieces ((w.coreStart, w.coreEnd) :: (w.coreEnd, limit) ::
        ({ c with retry := rest } : Coordinator H).ranges)) (Ico 0 d) := by
      refine (isPartition_split hlt.le hlimit).1 (isPartition_of_count h.partition fun p => ?_)
      simp only [ranges, hretry, List.count_append, List.count_cons, hstart]
      omega
    by_cases hend : w.coreEnd = limit
    · -- The whole range is taken: what is left of it is empty.
      have hempty : piece (w.coreEnd, limit) = ∅ := by simp [piece, hend]
      have hswap : IsPartition (pieces ((w.coreEnd, limit) :: w.core ::
          ({ c with retry := rest } : Coordinator H).ranges)) (Ico 0 d) :=
        isPartition_of_count hsplit fun p => by
          simp only [List.count_cons, ChunkWindow.core]
          omega
      rw [pieces_cons, hempty, isPartition_cons_empty] at hswap
      simpa only [takeRange, hretry, if_pos hend] using hswap
    · refine isPartition_of_count hsplit fun p => ?_
      simp only [takeRange, hretry, if_neg hend, ranges, List.count_append, List.count_cons,
        ChunkWindow.core]
      omega

theorem retry_takeRange (h : Timeline d v c) {w : ChunkWindow}
    (hlimit : w.coreEnd ≤ c.nextRange.2) :
    (∀ p ∈ (c.takeRange w).1, p.1 < p.2) ∧ (c.takeRange w).1.Pairwise fun p q => p.2 < q.1 := by
  have hlt := h.retry_lt
  have hapart := h.retry_apart
  cases hretry : c.retry with
  | nil => simp [takeRange, hretry]
  | cons p rest =>
    simp only [nextRange, hretry, List.head?_cons, Option.getD_some] at hlimit
    simp only [hretry, List.forall_mem_cons, List.pairwise_cons] at hlt hapart
    by_cases hend : w.coreEnd = p.2
    · simpa only [takeRange, hretry, if_pos hend] using ⟨hlt.2, hapart.2⟩
    · simp only [takeRange, hretry, if_neg hend, List.forall_mem_cons, List.pairwise_cons]
      exact ⟨⟨lt_of_le_of_ne hlimit hend, hlt.2⟩, hapart⟩

/-- A window planned with at most the rest of a range is at the start of the range, and ends
    in it if the claim fits. -/
theorem planned (h : Timeline d v c) {seconds : ℚ} {window : ChunkWindow} (hfits : c.Fits seconds)
    (hplan : planNextWindow c.nextRange.1 c.state.mediaDuration
      (min seconds (rounded (c.nextRange.2 - c.nextRange.1))) c.attempt c.overlap =
        .ok (some window)) :
    window.Extracts d v ∧ window.coreStart = c.nextRange.1 ∧ window.coreEnd ≤ c.nextRange.2 := by
  obtain ⟨hextracts, -, hstart, hend⟩ := planNextWindow_spec hplan
  exact ⟨h.duration ▸ h.overlap ▸ hextracts, hstart, hend.trans_le hfits⟩

theorem assign (h : Timeline d v c) {worker : String} {seconds : ℚ} {window : ChunkWindow}
    (hfree : worker ∉ c.inflight) (hfits : c.Fits seconds)
    (hplan : planNextWindow c.nextRange.1 c.state.mediaDuration
      (min seconds (rounded (c.nextRange.2 - c.nextRange.1))) c.attempt c.overlap =
        .ok (some window)) :
    Timeline d v (c.assign worker window) := by
  obtain ⟨hplanned, hstart, hlimit⟩ := h.planned hfits hplan
  obtain ⟨hlt, hapart⟩ := h.retry_takeRange hlimit
  have hentries := AList.entries_insert_of_notMem (b := ⟨.claimed c.attempt, worker, window⟩) hfree
  refine ⟨h.duration, h.overlap, h.overlap_nonneg, ?_, ?_, hlt, hapart, h.ready_start, ?_,
    h.ready_planned, ?_⟩
  · -- The cursor of the fresh range moves to the end of the window, inside the media.
    rw [Coordinator.assign, takeRange]
    cases hretry : c.retry with
    | nil => exact hplanned.duration_eq ▸ window.core_le_duration
    | cons p rest =>
      dsimp only
      split_ifs <;> exact h.cursor_le
  · refine isPartition_of_count (h.takeRange_partition hstart hlimit) fun p => ?_
    simp only [Coordinator.assign, ranges, hentries, List.map_cons, List.count_append,
      List.count_cons]
    omega
  · rw [Coordinator.assign, hentries, List.forall_mem_cons]
    exact ⟨rfl, h.inflight_worker⟩
  · rw [Coordinator.assign, hentries, List.forall_mem_cons]
    exact ⟨hplanned, h.inflight_planned⟩

/-- An attempt in flight, taken out of its place. -/
theorem erase_partition (h : Timeline d v c) {a : ChunkAssignment}
    (ha : c.inflight.lookup a.worker = some a) :
    IsPartition (pieces (a.window.core ::
      ({ c with inflight := c.inflight.erase a.worker } : Coordinator H).ranges)) (Ico 0 d) := by
  refine isPartition_of_count h.partition fun p => ?_
  have hcount := ((perm_erase_of_lookup ha).map fun e => e.2.window.core).count_eq p
  simp only [ranges, List.count_append, List.count_cons, hcount, List.map_cons]
  omega

theorem putBack (h : Timeline d v c) {a : ChunkAssignment}
    (ha : c.inflight.lookup a.worker = some a) : Timeline d v (c.putBack a) := by
  set l := (c.retry ++ [a.window.core]).insertionSort fun p q => toLex p ≤ toLex q with hl
  have hperm : l.Perm (c.retry ++ [a.window.core]) := List.perm_insertionSort _ _
  have hlt : ∀ p ∈ l, p.1 < p.2 := by
    intro p hp
    rcases List.mem_append.1 (hperm.mem_iff.1 hp) with hp | hp
    · exact h.retry_lt p hp
    · rw [List.mem_singleton.1 hp]
      exact a.window.core_lt
  -- The other places, and the ranges to retry with the new one among them.
  have hpart : IsPartition (pieces (l ++ ({ c with
      retry := [], inflight := c.inflight.erase a.worker } : Coordinator H).ranges)) (Ico 0 d) := by
    refine isPartition_of_count (h.erase_partition ha) fun p => ?_
    simp only [ranges, List.count_append, hperm.count_eq p, List.count_cons, List.count_nil]
    omega
  have hsorted : l.Pairwise fun p q => p.1 ≤ q.1 := by
    have : Std.Total fun p q : ℚ × ℚ => toLex p ≤ toLex q := ⟨fun _ _ => le_total _ _⟩
    have : IsTrans (ℚ × ℚ) fun p q => toLex p ≤ toLex q := ⟨fun _ _ _ => le_trans⟩
    have hlex : l.Pairwise fun p q => toLex p ≤ toLex q := List.pairwise_insertionSort _ _
    exact hlex.imp fun hpq => Prod.Lex.monotone_fst _ _ hpq
  have hdisjoint : (pieces l).Pairwise Disjoint := by
    have := hpart.disjoint
    rw [pieces_append, List.pairwise_append] at this
    exact this.1
  have hmem : ∀ e ∈ (c.inflight.erase a.worker).entries, e ∈ c.inflight.entries := fun e he =>
    (perm_erase_of_lookup ha).mem_iff.2 (List.mem_cons_of_mem _ he)
  refine ⟨h.duration, h.overlap, h.overlap_nonneg, h.cursor_le, ?_, lt_of_mem_coalesce hlt,
    pairwise_coalesce (pairwise_of_sorted hdisjoint hlt hsorted) hlt, h.ready_start,
    fun e he => h.inflight_worker e (hmem e he), h.ready_planned,
    fun e he => h.inflight_planned e (hmem e he)⟩
  refine isPartition_of_count ((isPartition_coalesce hlt).2 hpart) fun p => ?_
  simp only [Coordinator.putBack, retryWith, ranges, List.count_append, List.count_cons,
    List.count_nil, ← hl]
  omega

/-- The start of a piece in flight is in no other place. -/
theorem notMem_ready (h : Timeline d v c) {a : ChunkAssignment}
    (ha : c.inflight.lookup a.worker = some a) : a.window.coreStart ∉ c.ready := by
  intro hmem
  obtain ⟨⟨k, w, handle⟩, he, hk⟩ := List.mem_map.1 (AList.mem_keys.1 hmem)
  have hw : w.core ∈ ({ c with inflight := c.inflight.erase a.worker } : Coordinator H).ranges := by
    refine List.mem_append_left _ (List.mem_append_left _ (List.mem_append_left _ ?_))
    exact List.mem_cons_of_mem _ (List.mem_map_of_mem he)
  have hsame : a.window.coreStart = w.coreStart := hk.symm.trans (h.ready_start _ he).symm
  refine Set.disjoint_left.1 ((h.erase_partition ha).disjoint_piece hw)
    (left_mem_piece a.window.core_lt) ?_
  exact ⟨hsame.ge, hsame.trans_lt w.core_lt⟩

theorem spool (h : Timeline d v c) {a : ChunkAssignment} {handle : H}
    (ha : c.inflight.lookup a.worker = some a) : Timeline d v (c.spool a handle) := by
  have hentries : (c.ready.insert a.window.coreStart (a.window, handle)).entries =
      ⟨a.window.coreStart, a.window, handle⟩ :: c.ready.entries :=
    AList.entries_insert_of_notMem (h.notMem_ready ha)
  have hinflight := AList.mem_lookup_iff.1 ha
  have hmem : ∀ e ∈ (c.inflight.erase a.worker).entries, e ∈ c.inflight.entries := fun e he =>
    (perm_erase_of_lookup ha).mem_iff.2 (List.mem_cons_of_mem _ he)
  refine ⟨h.duration, h.overlap, h.overlap_nonneg, h.cursor_le, ?_, h.retry_lt, h.retry_apart, ?_,
    fun e he => h.inflight_worker e (hmem e he), ?_, fun e he => h.inflight_planned e (hmem e he)⟩
  · refine isPartition_of_count (h.erase_partition ha) fun p => ?_
    simp only [Coordinator.spool, ranges, hentries, List.map_cons, List.count_append,
      List.count_cons]
    omega
  · rw [Coordinator.spool, hentries, List.forall_mem_cons]
    exact ⟨rfl, h.ready_start⟩
  · rw [Coordinator.spool, hentries, List.forall_mem_cons]
    exact ⟨h.inflight_planned _ hinflight, h.ready_planned⟩

theorem pause (h : Timeline d v c) (b : Bool) : Timeline d v { c with dispatchPaused := b } :=
  ⟨h.duration, h.overlap, h.overlap_nonneg, h.cursor_le, h.partition, h.retry_lt, h.retry_apart,
    h.ready_start, h.inflight_worker, h.ready_planned, h.inflight_planned⟩

theorem advance (h : Timeline d v c) {w : ChunkWindow} {handle : H} {next : AssemblyState}
    (hready : c.ready.lookup c.state.cursor = some (w, handle))
    (hduration : next.mediaDuration = d) (hcursor : next.cursor = w.coreEnd) :
    Timeline d v (c.advance next) := by
  have hstart : w.coreStart = c.state.cursor := h.ready_start _ (AList.mem_lookup_iff.1 hready)
  have hmem : ∀ e ∈ (c.ready.erase c.state.cursor).entries, e ∈ c.ready.entries := fun e he =>
    (perm_erase_of_lookup hready).mem_iff.2 (List.mem_cons_of_mem _ he)
  refine ⟨hduration, h.overlap, h.overlap_nonneg, h.cursor_le, ?_, h.retry_lt, h.retry_apart,
    fun e he => h.ready_start e (hmem e he), h.inflight_worker,
    fun e he => h.ready_planned e (hmem e he), h.inflight_planned⟩
  have hjoined : IsPartition (pieces ((0, w.coreEnd) ::
      (({ c with ready := c.ready.erase c.state.cursor } : Coordinator H).ranges.tail))) (Ico 0 d) := by
    refine (isPartition_split c.state.cursor_nonneg (hstart ▸ w.core_lt.le)).2
      (isPartition_of_count h.partition fun p => ?_)
    have hcount := ((perm_erase_of_lookup hready).map fun e => e.2.1.core).count_eq p
    have hcore : w.core = (c.state.cursor, w.coreEnd) := by rw [← hstart]; rfl
    simp only [ranges, List.count_append, List.count_cons, hcount, List.map_cons, List.cons_append,
      List.tail_cons, hcore]
    omega
  refine isPartition_of_count hjoined fun p => ?_
  simp only [Coordinator.advance, ranges, List.cons_append, List.tail_cons, hcursor, hduration,
    h.duration, List.count_append, List.count_cons]

end Timeline

end Coordinator

namespace Scheduler

variable {cb : Callbacks W H} {Made : Call W → Prop} {d v : ℚ}

section

variable [Rounding]

/-- Every step keeps the timeline. -/
theorem timeline_step {s s' : Scheduler W H} (hstep : Step cb Made s s')
    (h : s.self.Timeline d v) : s'.self.Timeline d v := by
  cases hstep with
  | assign worker seconds window hclaimable hfits hplan =>
    exact h.assign hclaimable.free hfits hplan
  | putBack a ha => exact h.putBack ha
  | spool a result staged handle world hmade ha hstaged hstore => exact h.spool ha
  | commit window handle staged nextState world world' hready hread hchecked hpersist =>
    obtain ⟨-, -, -, hduration, hcursor, -⟩ := eq_of_prepareCommit hchecked
    exact h.advance hready (hduration.trans h.duration) hcursor
  | pause b => exact h.pause b
  | storeRaises | read | persistRaises | check => exact h

theorem timeline_run {workers : List String} {c : Coordinator H}
    (hnew : Coordinator.new d workers v = .ok c) (world : W) {calls : List (Call W)}
    (hfits : AllFit cb ⟨c, world⟩ calls)
    (hopen : (run cb ⟨c, world⟩ calls).self.closed = false) :
    (run cb ⟨c, world⟩ calls).self.Timeline d v :=
  run_invariant (fun _ => True) (fun _ _ => timeline_step)
    (Coordinator.timeline_of_new hnew) (fun _ _ => trivial) hfits hopen

end

/-- Whatever calls are made, by whatever workers and on whatever attempts, and whichever of
    them raise: as long as the coordinator is open, the committed prefix, the spooled
    chunks, the assignments in flight, the ranges to retry and the fresh range are pairwise
    disjoint, and together they are the media. -/
theorem timeline_partitioned {workers : List String} {c : Coordinator H}
    (hnew : Coordinator.new d workers v = .ok c) (cb : Callbacks W H) (world : W)
    (calls : List (Call W)) (hopen : (run cb ⟨c, world⟩ calls).self.closed = false) :
    IsPartition (pieces (run cb ⟨c, world⟩ calls).self.ranges) (Ico 0 d) :=
  (timeline_run hnew world (allFit_exact cb _ calls) hopen).partition

end Scheduler

/-- Storage in memory: a staged chunk is stored at the end of a list, its handle is its
    position, and a discarded one leaves its place empty. -/
def memorySpool : Callbacks (List (Option StagedChunk)) ℕ where
  storeResult staged := do
    let chunks ← get
    set (chunks ++ [some staged])
    pure chunks.length
  readResult handle := do
    let chunks ← get
    match chunks.getD handle none with
    | some staged => pure staged
    | none => throw (.foreign "KeyError" true)
  discardResult handle := modify fun chunks => chunks.set handle none
  persistChunk _ _ _ := pure ()

theorem opening_intervals : (0 : ℚ) ≤ 0 ∧ (0 : ℚ) ≤ 0 ∧ (0 : ℚ) < 10 ∧ (10 : ℚ) ≤ 15 ∧ (15 : ℚ) ≤ 30 := by
  norm_num

theorem middle_intervals : (0 : ℚ) ≤ 5 ∧ (5 : ℚ) ≤ 10 ∧ (10 : ℚ) < 20 ∧ (20 : ℚ) ≤ 25 ∧ (25 : ℚ) ≤ 30 := by
  norm_num

/-- Two workers; the second gives up, comes back with less, and finishes first. -/
def fragmented : List (Call (List (Option StagedChunk))) :=
  [.claim "a" 10, .claim "b" 10,
    .yielded (some ⟨.claimed 1, "b", ⟨1, 30, 10, 20, 5, 25, thirty_pos, middle_intervals⟩⟩),
    .claim "b" 4,
    .completed (some ⟨.claimed 2, "b", ⟨2, 30, 10, 14, 5, 19, thirty_pos, by norm_num⟩⟩)
      (.dict [("segments", .list [])]),
    .claim "c" 1, .commitReady (pure true) .none]

/-- The state before the first call. -/
def twoWorkers : Coordinator ℕ :=
  ⟨.start 30 thirty_pos, ["a", "b"], 5, 0, 0, ∅, ∅, [], false, false⟩

theorem twoWorkers_new : Coordinator.new 30 ["a", "b"] 5 = .ok twoWorkers := by rfl

theorem timeline_partitioned_fragmented :
    (Scheduler.run memorySpool ⟨twoWorkers, []⟩ fragmented).self.ranges =
        [(0, 0), (10, 14), (0, 10), (14, 20), (20, 30)] ∧
      IsPartition (pieces (Scheduler.run memorySpool ⟨twoWorkers, []⟩ fragmented).self.ranges)
        (Ico 0 30) :=
  ⟨by decide +kernel, Scheduler.timeline_partitioned twoWorkers_new memorySpool [] fragmented
    (by decide +kernel)⟩

end Subgen

import Subgen.Parallel.Progress

/-!
# The bookkeeping of the coordinator

There is no more than one attempt in flight for each worker, and no more than two chunks for each are in
flight or spooled. The ranges to retry do not touch; where one of them ends, a chunk in flight or a spooled
one begins, so that there is at most one more range than there are such chunks.

* `Bookkeeping`: the bounds;
* `bookkeeping_run`: they hold in every state that an open coordinator reaches.
-/

namespace Subgen

open Procedure

variable {W H : Type}

namespace Coordinator

/-- What is in the dictionaries and the list of a coordinator with `n` workers. -/
structure Bookkeeping (n : ℕ) (c : Coordinator H) : Prop where
  inflight_le : c.inflight.entries.length ≤ n
  pending_le : c.pendingCount ≤ 2 * n
  retry_lt : ∀ p ∈ c.retry, p.1 < p.2
  retry_apart : c.retry.Pairwise fun p q => p.2 < q.1
  retry_le : c.retry.length ≤ c.pendingCount + 1

/-- The attempts in flight are those of some of the workers. -/
structure Staffed (workers : List String) (c : Coordinator H) : Prop where
  workers_eq : c.workers = workers
  workers_nodup : workers.Nodup
  inflight_mem : ∀ worker ∈ c.inflight, worker ∈ workers

variable {c : Coordinator H} {d v : ℚ} {workers : List String}

theorem staffed_of_new (h : new d workers v = .ok c) : c.Staffed workers := by
  obtain ⟨hd, hv, hworkers, rfl⟩ := new_eq_ok_iff.1 h
  exact ⟨rfl, hworkers.nodup, fun worker hworker => absurd hworker (AList.notMem_empty worker)⟩

theorem Staffed.inflight_le (h : c.Staffed workers) : c.inflight.entries.length ≤ workers.length := by
  have hsubset : c.inflight.keys ⊆ workers := fun worker hworker => h.inflight_mem worker hworker
  have hle := (List.subperm_of_subset c.inflight.keys_nodup hsubset).length_le
  rwa [AList.keys, List.keys, List.length_map] at hle

theorem Staffed.assign (h : c.Staffed workers) {worker : String} {seconds : ℚ} {window : ChunkWindow}
    (hclaimable : c.Claimable worker seconds) : (c.assign worker window).Staffed workers := by
  refine ⟨h.workers_eq, h.workers_nodup, fun other hother => ?_⟩
  rcases AList.mem_insert _ |>.1 hother with rfl | hother
  · exact h.workers_eq ▸ hclaimable.worker_mem
  · exact h.inflight_mem other hother

theorem Staffed.erase (h : c.Staffed workers) {c' : Coordinator H} {worker : String}
    (hworkers : c'.workers = c.workers) (hinflight : c'.inflight = c.inflight.erase worker) :
    c'.Staffed workers := by
  refine ⟨hworkers.trans h.workers_eq, h.workers_nodup, fun other hother => ?_⟩
  rw [hinflight] at hother
  exact h.inflight_mem other (AList.mem_erase.1 hother).2

/-- The ranges to retry among the other places of the timeline. -/
theorem Timeline.retry_le [Rounding] (h : Timeline d v c) : c.retry.length ≤ c.pendingCount + 1 := by
  have hpartition := h.partition
  rw [ranges, h.duration, List.cons_append, List.cons_append, List.cons_append] at hpartition
  have hle := IsPartition.length_apart_le hpartition h.retry_lt h.retry_apart
  rw [List.length_append, List.length_map, List.length_map] at hle
  rw [pendingCount]
  omega

theorem Timeline.bookkeeping [Rounding] (h : Timeline d v c) (hbounded : c.Bounded) (hstaffed : c.Staffed workers) :
    c.Bookkeeping workers.length :=
  ⟨hstaffed.inflight_le, hstaffed.workers_eq ▸ hbounded.pending_le, h.retry_lt, h.retry_apart, h.retry_le⟩

end Coordinator

namespace Scheduler

variable [Rounding] {cb : Callbacks W H} {Made : Call W → Prop} {d v : ℚ} {workers : List String}
  {c : Coordinator H}

theorem staffed_step {s s' : Scheduler W H} (hstep : Step cb Made s s') (h : s.self.Staffed workers) :
    s'.self.Staffed workers := by
  cases hstep with
  | assign worker seconds window hclaimable hfits hplan => exact h.assign hclaimable
  | putBack a ha => exact h.erase rfl rfl
  | spool a result staged handle world hmade ha hstaged hstore => exact h.erase rfl rfl
  | commit | pause => exact ⟨h.workers_eq, h.workers_nodup, h.inflight_mem⟩
  | storeRaises | read | persistRaises | check => exact h

/-- The timeline, and the bound on what is pending, which needs it. -/
theorem bounded_run (hnew : Coordinator.new d workers v = .ok c) (world : W) {calls : List (Call W)}
    (hfits : AllFit cb ⟨c, world⟩ calls)
    (hopen : (run cb ⟨c, world⟩ calls).self.closed = false) :
    (run cb ⟨c, world⟩ calls).self.Bounded :=
  (run_invariant (I := fun s => s.self.Timeline d v ∧ s.self.Bounded) (fun _ => True)
    (fun _ _ hstep h => ⟨timeline_step hstep h.1, bounded_step hstep h.1 h.2⟩)
    ⟨Coordinator.timeline_of_new hnew, Coordinator.bounded_of_new hnew⟩ (fun _ _ => trivial) hfits
    hopen).2

theorem bookkeeping_run (hnew : Coordinator.new d workers v = .ok c) (world : W) {calls : List (Call W)}
    (hfits : AllFit cb ⟨c, world⟩ calls)
    (hopen : (run cb ⟨c, world⟩ calls).self.closed = false) :
    (run cb ⟨c, world⟩ calls).self.Bookkeeping workers.length :=
  (timeline_run hnew world hfits hopen).bookkeeping (bounded_run hnew world hfits hopen)
    (run_invariant (I := fun s => s.self.Staffed workers) (fun _ => True) (fun _ _ => staffed_step)
      (Coordinator.staffed_of_new hnew) (fun _ _ => trivial) hfits hopen)

end Scheduler

end Subgen

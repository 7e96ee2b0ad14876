import Mathlib.Data.Multiset.Range
import Subgen.Lib.Interleaving
import Subgen.Queue.DeduplicatedQueue

/-!
# What a queue knows of its tasks

Any number of threads that put tasks into a queue, take them out and mark them as done. A step that
does not raise moves one entry on at most (`QueueMove`): into the heap, from the heap to the thread
that takes it, from there to the tasks that are processed, and away.

* `Tracked`: the sets of the queue are the paths of what waits and of what is processed, no path is
  there twice, and the number of every put that was accepted is with its entry or was delivered;
* `queue_tracking`: it holds in every run in which the clock ticks, and `is_idle` is right there
  unless a `get` stands between its two steps;
* `idle_while_moving`: a run in which it is not right.
-/

namespace Subgen

open Interleaving

variable {π : Type}

namespace QueueThread

/-- The path that the thread has still to add to the queue. -/
def pending : QueueThread π → Multiset Text
  | adding path _ => {path}
  | _ => 0

/-- The entry that is neither in the heap nor known to be processed. -/
def transit : QueueThread π → Multiset (QueueEntry π)
  | moving entry => {entry}
  | _ => 0

/-- The task that the thread processes. -/
def handled : QueueThread π → Multiset (QueueEntry π)
  | handling entry => {entry}
  | adding _ (some entry) => {entry}
  | _ => 0

/-- A thread that waits for its task has no path in the making. -/
@[simp] theorem pending_ofTask (t : Option (QueueEntry π)) : (ofTask t).pending = 0 := by
  cases t <;> rfl

/-- A thread that waits for its task carries no entry. -/
@[simp] theorem transit_ofTask (t : Option (QueueEntry π)) : (ofTask t).transit = 0 := by
  cases t <;> rfl

/-- An entry is in transit exactly in the thread that moves it. -/
theorem mem_transit {l : QueueThread π} {e : QueueEntry π} : e ∈ l.transit ↔ l = moving e := by
  cases l <;> simp [transit, eq_comm]

/-- The path in the making does not change what the thread handles. -/
@[simp] theorem handled_adding (path : Text) (t : Option (QueueEntry π)) :
    (adding path t).handled = (ofTask t).handled := by
  cases t <;> rfl

end QueueThread

/-- A step that does not raise. -/
inductive QueueMove (q : DeduplicatedQueue π) :
    QueueThread π → DeduplicatedQueue π → QueueThread π → Prop
  | stays (l : QueueThread π) : QueueMove q l q l
  | pushes (e : QueueEntry π) {queue : Array (QueueEntry π)} (n : ℕ) (t : Option (QueueEntry π))
      (hlock : q.lock = false) (hactive : q.isActive e.path = false) (hticket : e.ticket = q.tickets)
      (hapart : ∀ e' ∈ q.queue.toList, e.Apart e') (hqueue : queue.toList.Perm (e :: q.queue.toList)) :
      QueueMove q (.ofTask t)
        { q with queue := queue, unfinishedTasks := n, lock := true, tickets := q.tickets + 1 }
        (.adding e.path t)
  | adds (path : Text) (t : Option (QueueEntry π)) :
      QueueMove q (.adding path t) (addStep q path t).1 (.ofTask t)
  | pops {e : QueueEntry π} {queue : Array (QueueEntry π)}
      (hqueue : q.queue.toList.Perm (e :: queue.toList)) :
      QueueMove q .free { q with queue := queue } (.moving e)
  | moves (e : QueueEntry π) (hlock : q.lock = false) :
      QueueMove q (.moving e) (moveStep q e).1 (.handling e)
  | marks (e : QueueEntry π) (hlock : q.lock = false) :
      QueueMove q (.handling e) (markDoneStep q e).1 .free

section Move

variable {q q' : DeduplicatedQueue π} {l l' : QueueThread π}

/-- A step that takes the lock found it free. -/
theorem locked_eq_some {r : DeduplicatedQueue π × QueueThread π} (h : locked q r = some (q', l')) :
    q.lock = false ∧ r = (q', l') := by
  rw [locked] at h
  split at h
  · cases h
  · next hlock => exact ⟨by simpa using hlock, Option.some.inj h⟩

variable [DecidableEq π]

/-- What a `put` does if the clock ticks. -/
theorem putStep_cases {now : ℚ} {item : QueueTask π} (t : Option (QueueEntry π))
    (happart : q.queue.toList.Pairwise QueueEntry.Apart)
    (hticks : (QueueChoice.put now item).ticks q = true) :
    (q.isActive item.path = true ∧ putStep q t now item = (q, .ofTask t)) ∨
    (q.isActive item.path = false ∧ ∃ e queue, e.item = item ∧ e.ticket = q.tickets ∧
      (∀ e' ∈ q.queue.toList, e.Apart e') ∧ queue.toList.Perm (e :: q.queue.toList) ∧
      putStep q t now item = ({ q with
        queue := queue
        unfinishedTasks := q.unfinishedTasks + 1
        lock := true
        tickets := q.tickets + 1 }, .adding item.path t)) := by
  rw [putStep]
  by_cases hactive : q.isActive item.path = true
  · exact .inl ⟨hactive, if_pos hactive⟩
  · rw [if_neg hactive]
    refine .inr ⟨Bool.eq_false_of_not_eq_true hactive, ⟨item.type.priority, now, item, q.tickets⟩, ?_⟩
    have hapart : ∀ e' ∈ q.queue.toList,
        (QueueEntry.mk item.type.priority now item q.tickets).Apart e' := by
      intro e' he' hpriority htimestamp
      have he := List.all_eq_true.1 hticks e' he'
      simp [hpriority.symm, htimestamp.symm] at he
    have hdone := Heap.push_completes (comparable_of_apart (happart.cons hapart))
    have hperm : (Heap.push QueueEntry.lt q.queue ⟨item.type.priority, now, item, q.tickets⟩).2.toList.Perm
        (⟨item.type.priority, now, item, q.tickets⟩ :: q.queue.toList) := Heap.push_perm _ _
    rcases hpush : Heap.push QueueEntry.lt q.queue ⟨item.type.priority, now, item, q.tickets⟩ with
      ⟨_ | _, queue⟩
    · rw [hpush] at hdone
      cases hdone
    · rw [hpush] at hperm
      exact ⟨queue, rfl, rfl, hapart, hperm, rfl⟩

/-- What the get of the priority queue does. -/
theorem getStep_cases (happart : q.queue.toList.Pairwise QueueEntry.Apart) :
    (q.queue = #[] ∧ getStep q = (q, .free)) ∨
    ∃ e queue, q.queue.toList.Perm (e :: queue.toList) ∧
      getStep q = ({ q with queue := queue }, .moving e) := by
  rw [getStep]
  by_cases hempty : q.queue = #[]
  · exact .inl ⟨hempty, by rw [hempty]; rfl⟩
  · obtain ⟨e, queue, hpop⟩ := Heap.pop_completes (comparable_of_apart happart) hempty
    obtain ⟨first, hperm, hfirst⟩ := Heap.pop_perm hpop
    rw [← hfirst e rfl] at hperm
    exact .inr ⟨e, queue, hperm, by rw [hpop]⟩

/-- A `put` is one of the moves of the queue. -/
theorem move_of_putStep {now : ℚ} {item : QueueTask π} (t : Option (QueueEntry π))
    (happart : q.queue.toList.Pairwise QueueEntry.Apart) (hlock : q.lock = false)
    (hticks : (QueueChoice.put now item).ticks q = true) :
    QueueMove q (.ofTask t) (putStep q t now item).1 (putStep q t now item).2 := by
  rcases putStep_cases t happart hticks with
    ⟨-, heq⟩ | ⟨hactive, e, queue, rfl, hticket, hapart, hqueue, heq⟩
  · rw [heq]
    exact .stays _
  · rw [heq]
    exact .pushes e _ t hlock hactive hticket hapart hqueue

/-- A `get` is one of the moves of the queue. -/
theorem move_of_getStep (happart : q.queue.toList.Pairwise QueueEntry.Apart) :
    QueueMove q .free (getStep q).1 (getStep q).2 := by
  rcases getStep_cases happart with ⟨-, heq⟩ | ⟨e, queue, hqueue, heq⟩
  · rw [heq]
    exact .stays _
  · rw [heq]
    exact .pops hqueue

/-- Every step of a thread is one of the moves of the queue. -/
theorem move_of_tickingStep (happart : q.queue.toList.Pairwise QueueEntry.Apart)
    (h : ofStep tickingStep q l q' l') : QueueMove q l q' l' := by
  obtain ⟨ch, h⟩ := h
  obtain ⟨hticks, h⟩ := Option.ite_none_right_eq_some.1 h
  -- A put is the same move, whether the thread handles an entry meanwhile or not.
  have hput : ∀ (t : Option (QueueEntry π)) (now : ℚ) (item : QueueTask π), ch = .put now item →
      locked q (putStep q t now item) = some (q', l') → QueueMove q (.ofTask t) q' l' := by
    intro t now item hch h
    obtain ⟨hlock, heq⟩ := locked_eq_some h
    have hmove := move_of_putStep t happart hlock (hch ▸ hticks)
    rwa [heq] at hmove
  cases l with
  | adding path t =>
    obtain ⟨rfl, rfl⟩ := Prod.mk.inj (Option.some.inj h)
    exact .adds path t
  | moving e =>
    obtain ⟨hlock, heq⟩ := locked_eq_some h
    obtain ⟨rfl, rfl⟩ := Prod.mk.inj heq
    exact .moves e hlock
  | free =>
    cases ch with
    | put now item => exact hput none now item rfl h
    | get =>
      have hmove := move_of_getStep happart
      rwa [Option.some.inj h] at hmove
    | markDone => cases h
    | isIdle =>
      obtain ⟨rfl, rfl⟩ := Prod.mk.inj (locked_eq_some h).2
      exact .stays _
    | other =>
      obtain ⟨rfl, rfl⟩ := Prod.mk.inj (Option.some.inj h)
      exact .stays _
  | handling e =>
    cases ch with
    | put now item => exact hput (some e) now item rfl h
    | get => cases h
    | markDone =>
      obtain ⟨hlock, heq⟩ := locked_eq_some h
      obtain ⟨rfl, rfl⟩ := Prod.mk.inj heq
      exact .marks e hlock
    | isIdle =>
      obtain ⟨rfl, rfl⟩ := Prod.mk.inj (locked_eq_some h).2
      exact .stays _
    | other =>
      obtain ⟨rfl, rfl⟩ := Prod.mk.inj (Option.some.inj h)
      exact .stays _

end Move

/-! ## The accounts of a queue -/

/-- The sets of a queue and the numbers of its puts, with the paths that are being added to it, the
    entries that wait and those that are processed. -/
structure Accounts (q : DeduplicatedQueue π) (pending : Multiset Text)
    (waiting processed : Multiset (QueueEntry π)) : Prop where
  lock : pending.card = if q.lock then 1 else 0
  queued : q.queued.val + pending = waiting.map QueueEntry.path
  processing : q.processing.val = processed.map QueueEntry.path
  nodup : ((waiting + processed).map QueueEntry.path).Nodup
  tickets : waiting.map QueueEntry.ticket + (q.delivered : Multiset ℕ) = Multiset.range q.tickets

namespace Accounts

variable {q : DeduplicatedQueue π} {pending : Multiset Text} {waiting processed : Multiset (QueueEntry π)}
  {e : QueueEntry π} {path : Text}

/-- A new queue accounts for nothing. -/
theorem new : Accounts (DeduplicatedQueue.new (π := π)) 0 0 0 where
  lock := rfl
  queued := rfl
  processing := rfl
  nodup := Multiset.nodup_zero
  tickets := rfl

/-- With the lock free no path is in the making. -/
theorem pending_eq_zero (h : Accounts q pending waiting processed) (hlock : q.lock = false) :
    pending = 0 := by
  have hcard := h.lock
  rw [hlock] at hcard
  exact Multiset.card_eq_zero.1 hcard

/-- A path is active if there is a task of it, unless it is being added. -/
theorem exists_path_iff (h : Accounts q pending waiting processed) :
    (∃ e ∈ waiting + processed, e.path = path) ↔ q.isActive path = true ∨ path ∈ pending := by
  have hmap : path ∈ (waiting + processed).map QueueEntry.path ↔
      path ∈ q.queued.val + pending + q.processing.val := by
    rw [Multiset.map_add, h.queued, h.processing]
  rw [← Multiset.mem_map, hmap]
  simp only [Multiset.mem_add, Finset.mem_val, DeduplicatedQueue.isActive, decide_eq_true_iff]
  tauto

/-- The heap does not matter. -/
theorem of_queue (h : Accounts q pending waiting processed) (queue : Array (QueueEntry π)) :
    Accounts { q with queue := queue } pending waiting processed :=
  ⟨h.lock, h.queued, h.processing, h.nodup, h.tickets⟩

/-- Pushing an entry whose path is active nowhere keeps the account. -/
theorem push (h : Accounts q pending waiting processed) (hlock : q.lock = false)
    (hactive : q.isActive e.path = false) (hticket : e.ticket = q.tickets)
    (queue : Array (QueueEntry π)) (n : ℕ) :
    Accounts { q with queue := queue, unfinishedTasks := n, lock := true, tickets := q.tickets + 1 }
      (e.path ::ₘ pending) (e ::ₘ waiting) processed where
  lock := by rw [h.pending_eq_zero hlock]; rfl
  queued := by rw [Multiset.map_cons, ← h.queued, Multiset.add_cons]
  processing := h.processing
  nodup := by
    rw [Multiset.cons_add, Multiset.map_cons, Multiset.nodup_cons]
    refine ⟨?_, h.nodup⟩
    rw [Multiset.map_add, ← h.queued, ← h.processing, h.pending_eq_zero hlock, add_zero,
      Multiset.mem_add, Finset.mem_val, Finset.mem_val]
    simpa [DeduplicatedQueue.isActive] using hactive
  tickets := by
    rw [Multiset.map_cons, Multiset.cons_add, h.tickets, hticket]
    exact (Multiset.range_succ _).symm

/-- Adding the path completes what `put` began. -/
theorem add (h : Accounts q (path ::ₘ pending) waiting processed) (t : Option (QueueEntry π)) :
    Accounts (addStep q path t).1 pending waiting processed where
  lock := by
    have hcard := h.lock
    rw [Multiset.card_cons] at hcard
    have hpending : pending.card = 0 := by split at hcard <;> omega
    exact hpending
  queued := by
    have hnodup : (q.queued.val + path ::ₘ pending).Nodup := by
      rw [h.queued]
      exact Multiset.nodup_of_le (Multiset.map_le_map (Multiset.le_add_right _ _)) h.nodup
    have hpath : path ∉ q.queued := fun hmem =>
      Multiset.disjoint_left.1 (Multiset.nodup_add.1 hnodup).2.2 hmem (Multiset.mem_cons_self _ _)
    rw [← h.queued, addStep, Finset.insert_val_of_notMem hpath, Multiset.cons_add, Multiset.add_cons]
  processing := h.processing
  nodup := h.nodup
  tickets := h.tickets

/-- Moving an entry from the queued to the processing paths keeps the account. -/
theorem move (h : Accounts q pending (e ::ₘ waiting) processed) (hlock : q.lock = false) :
    Accounts (moveStep q e).1 pending waiting (e ::ₘ processed) where
  lock := h.lock
  queued := by
    have hqueued := h.queued
    rw [h.pending_eq_zero hlock, add_zero, Multiset.map_cons] at hqueued
    rw [h.pending_eq_zero hlock, add_zero, moveStep, Finset.erase_val, hqueued,
      Multiset.erase_cons_head]
  processing := by
    have hpath : e.path ∉ q.processing := by
      have hnodup := h.nodup
      rw [Multiset.cons_add, Multiset.map_cons, Multiset.nodup_cons, Multiset.map_add,
        Multiset.mem_add, ← h.processing] at hnodup
      exact fun hmem => hnodup.1 (.inr hmem)
    rw [moveStep, Finset.insert_val_of_notMem hpath, Multiset.map_cons, h.processing]
  nodup := by
    rw [Multiset.add_cons, ← Multiset.cons_add]
    exact h.nodup
  tickets := by
    have htickets := h.tickets
    rwa [Multiset.map_cons, Multiset.cons_add, ← Multiset.add_cons] at htickets

/-- `mark_done` takes a handled entry out of the account. -/
theorem mark (h : Accounts q pending waiting (e ::ₘ processed)) :
    Accounts (markDoneStep q e).1 pending waiting processed where
  lock := h.lock
  queued := h.queued
  processing := by
    rw [markDoneStep, Finset.erase_val, h.processing, Multiset.map_cons, Multiset.erase_cons_head]
  nodup := by
    have hnodup := h.nodup
    rw [Multiset.add_cons, Multiset.map_cons] at hnodup
    exact (Multiset.nodup_cons.1 hnodup).2
  tickets := h.tickets

end Accounts

/-! ## Runs -/

/-- A queue with the threads that call it. -/
abbrev QueueConfig (π : Type) := Config (DeduplicatedQueue π) (QueueThread π)

/-- A new queue, and threads that have called nothing yet. -/
def startQueue (π : Type) (n : ℕ) : QueueConfig π := ⟨.new, List.replicate n .free⟩

/-- What was put and is not known to be processed. -/
def waiting (c : QueueConfig π) : Multiset (QueueEntry π) :=
  (c.shared.queue.toList : Multiset (QueueEntry π)) + gathered QueueThread.transit c.locals

/-- What was returned by `get` and is not marked as done. -/
def processed (c : QueueConfig π) : Multiset (QueueEntry π) := gathered QueueThread.handled c.locals

section Shift

variable {c c' : QueueConfig π} {i : ℕ} {l l' : QueueThread π} {e : QueueEntry π}

/-- A step that touches neither the heap nor what is in transit leaves the waiting entries alone. -/
theorem waiting_of_eq (hthread : c.locals[i]? = some l) (hlocals : c'.locals = c.locals.set i l')
    (hl : l'.transit = l.transit) (hqueue : c'.shared.queue = c.shared.queue) :
    waiting c' = waiting c := by
  rw [waiting, waiting, hqueue, hlocals, gathered_set_of_eq _ hthread hl]

/-- A step that changes no handled entry leaves the processed ones alone. -/
theorem processed_of_eq (hthread : c.locals[i]? = some l) (hlocals : c'.locals = c.locals.set i l')
    (hl : l'.handled = l.handled) : processed c' = processed c := by
  rw [processed, processed, hlocals, gathered_set_of_eq _ hthread hl]

/-- A push adds its entry to the waiting ones. -/
theorem waiting_push (hthread : c.locals[i]? = some l) (hlocals : c'.locals = c.locals.set i l')
    (hl : l'.transit = l.transit)
    (hqueue : c'.shared.queue.toList.Perm (e :: c.shared.queue.toList)) :
    waiting c' = e ::ₘ waiting c := by
  rw [waiting, waiting, hlocals, gathered_set_of_eq _ hthread hl, Multiset.coe_eq_coe.2 hqueue,
    ← Multiset.cons_coe, Multiset.cons_add]

/-- A popped entry still waits, now in transit. -/
theorem waiting_pop (hthread : c.locals[i]? = some .free)
    (hlocals : c'.locals = c.locals.set i (.moving e))
    (hqueue : c.shared.queue.toList.Perm (e :: c'.shared.queue.toList)) :
    waiting c' = waiting c := by
  have htake : gathered QueueThread.transit (c.locals.set i (.moving e)) =
    e ::ₘ gathered QueueThread.transit c.locals := gathered_take _ hthread rfl rfl
  rw [waiting, waiting, hlocals, htake, Multiset.coe_eq_coe.2 hqueue, ← Multiset.cons_coe,
    Multiset.cons_add, Multiset.add_cons]

/-- An entry that was moved waits no longer. -/
theorem waiting_move (hthread : c.locals[i]? = some (.moving e))
    (hlocals : c'.locals = c.locals.set i (.handling e))
    (hqueue : c'.shared.queue = c.shared.queue) : waiting c = e ::ₘ waiting c' := by
  have hgive : gathered QueueThread.transit c.locals =
    e ::ₘ gathered QueueThread.transit (c.locals.set i (.handling e)) := gathered_give _ hthread rfl rfl
  rw [waiting, waiting, hgive, hqueue, hlocals, Multiset.add_cons]

/-- An entry that was moved is processed. -/
theorem processed_move (hthread : c.locals[i]? = some (.moving e))
    (hlocals : c'.locals = c.locals.set i (.handling e)) : processed c' = e ::ₘ processed c := by
  rw [processed, hlocals]
  exact gathered_take _ hthread rfl rfl

/-- An entry that is marked leaves the processed ones. -/
theorem processed_mark (hthread : c.locals[i]? = some (.handling e))
    (hlocals : c'.locals = c.locals.set i .free) : processed c = e ::ₘ processed c' := by
  rw [processed, processed, hlocals]
  exact gathered_give _ hthread rfl rfl

end Shift

/-- The heap is free of equal keys, and the account agrees with every thread. -/
structure Tracked (c : QueueConfig π) : Prop where
  apart : c.shared.queue.toList.Pairwise QueueEntry.Apart
  accounts : Accounts c.shared (gathered QueueThread.pending c.locals) (waiting c) (processed c)

/-- The start is tracked. -/
theorem tracked_start (n : ℕ) : Tracked (startQueue π n) where
  apart := List.Pairwise.nil
  accounts := by
    have hgathered : ∀ {β : Type} (held : QueueThread π → Multiset β), held .free = 0 →
        gathered held (startQueue π n).locals = 0 := by
      intro β held hfree
      simp [gathered, startQueue, hfree]
    rw [waiting, processed, hgathered _ rfl, hgathered _ rfl, hgathered _ rfl]
    exact .new

/-- Every move keeps the queue tracked. -/
theorem Tracked.moves {c c' : QueueConfig π} {i : ℕ} {l l' : QueueThread π} (h : Tracked c)
    (hmoves : Moves QueueMove c c' i l l') : Tracked c' := by
  obtain ⟨q', ls'⟩ := c'
  obtain ⟨hthread, hstep, hlocals⟩ := hmoves
  have haccounts := h.accounts
  have hpending : l'.pending = l.pending → gathered QueueThread.pending (c.locals.set i l') = _ :=
    gathered_set_of_eq _ hthread
  -- A move changes one of the three parts of the sum at most, and another one by as much.
  cases hstep with
  | stays =>
    refine ⟨h.apart, ?_⟩
    rwa [hlocals, hpending rfl, waiting_of_eq hthread hlocals rfl rfl,
      processed_of_eq hthread hlocals rfl]
  | pushes e n t hlock hactive hticket hapart hqueue =>
    refine ⟨(h.apart.cons hapart).perm hqueue.symm symm, ?_⟩
    rw [waiting_push hthread hlocals (QueueThread.transit_ofTask t).symm hqueue,
      processed_of_eq hthread hlocals (QueueThread.handled_adding _ t), hlocals,
      gathered_take _ hthread (QueueThread.pending_ofTask t) rfl]
    exact haccounts.push hlock hactive hticket _ n
  | adds path t =>
    refine ⟨h.apart, ?_⟩
    have hgive : gathered QueueThread.pending c.locals =
      path ::ₘ gathered QueueThread.pending (c.locals.set i (.ofTask t)) :=
      gathered_give _ hthread rfl (QueueThread.pending_ofTask t)
    rw [hgive] at haccounts
    rw [waiting_of_eq hthread hlocals (QueueThread.transit_ofTask t) rfl,
      processed_of_eq hthread hlocals (QueueThread.handled_adding _ t).symm, hlocals]
    exact haccounts.add t
  | pops hqueue =>
    refine ⟨(List.pairwise_cons.1 (h.apart.perm hqueue symm)).2, ?_⟩
    rw [waiting_pop hthread hlocals hqueue, processed_of_eq hthread hlocals rfl, hlocals,
      hpending rfl]
    exact haccounts.of_queue _
  | moves e hlock =>
    refine ⟨h.apart, ?_⟩
    rw [waiting_move hthread hlocals rfl] at haccounts
    rw [processed_move hthread hlocals, hlocals, hpending rfl]
    exact haccounts.move hlock
  | marks e hlock =>
    refine ⟨h.apart, ?_⟩
    rw [processed_mark hthread hlocals] at haccounts
    rw [waiting_of_eq hthread hlocals rfl rfl, hlocals, hpending rfl]
    exact haccounts.mark

/-- Every reachable configuration is tracked, by induction on the run. -/
theorem tracked_of_runs [DecidableEq π] {n : ℕ} {c : QueueConfig π}
    (h : Runs (ofStep tickingStep) (startQueue π n) c) : Tracked c :=
  h.invariant (tracked_start n) fun _ _ _ _ _ htracked hmoves =>
    htracked.moves ⟨hmoves.thread, move_of_tickingStep htracked.apart hmoves.step, hmoves.locals⟩

/-- In every run of any number of threads in which the clock ticks: no path is twice in what waits and
    what is processed; every put that was accepted waits or was delivered, once; a `get` finds what is
    in the heap; and a queue that says it is idle has nothing left if and only if no `get` stands
    between its two steps. -/
theorem queue_tracking [DecidableEq π] (n : ℕ) (c : QueueConfig π)
    (h : Runs (ofStep tickingStep) (startQueue π n) c) :
    ((waiting c + processed c).map QueueEntry.path).Nodup ∧
    (∀ ticket < c.shared.tickets,
      ((waiting c).map QueueEntry.ticket).count ticket + c.shared.delivered.count ticket = 1) ∧
    (c.shared.queue ≠ #[] → ∃ entry ∈ c.shared.queue, (getStep c.shared).2 = .moving entry) ∧
    (c.shared.isIdle = true →
      (waiting c + processed c = 0 ↔ ∀ l ∈ c.locals, ∀ entry, l ≠ .moving entry)) := by
  have htracked := tracked_of_runs h
  have haccounts := htracked.accounts
  refine ⟨haccounts.nodup, fun ticket hticket => ?_, fun hqueue => ?_, fun hidle => ?_⟩
  · -- Each ticket is one of those that wait or were delivered, and none is twice.
    rw [← Multiset.coe_count, ← Multiset.count_add, haccounts.tickets]
    exact Multiset.count_eq_one_of_mem (Multiset.nodup_range _) (Multiset.mem_range.2 hticket)
  · rcases getStep_cases htracked.apart with ⟨hempty, -⟩ | ⟨e, queue, hperm, heq⟩
    · exact absurd hempty hqueue
    · exact ⟨e, Array.mem_toList_iff.1 (hperm.mem_iff.2 List.mem_cons_self), by rw [heq]⟩
  · -- The heap and the set of the processed paths are empty: what is left is between two steps.
    rw [DeduplicatedQueue.isIdle, Bool.and_eq_true, Array.isEmpty_iff, decide_eq_true_iff,
      Finset.card_eq_zero] at hidle
    have hprocessed : processed c = 0 := by
      rw [← Multiset.map_eq_zero (f := QueueEntry.path), ← haccounts.processing, hidle.2]
      rfl
    rw [hprocessed, waiting, hidle.1, add_zero, Multiset.coe_nil, zero_add,
      Multiset.eq_zero_iff_forall_notMem]
    simp only [mem_gathered, QueueThread.mem_transit, not_exists, not_and]
    exact forall_comm.trans (forall_congr' fun l => forall_comm)

/-! ## Two threads -/

/-- A task with nothing else in it. -/
def oneTask : QueueTask Unit := ⟨text "/media/film.mkv", .transcribe, ()⟩

/-- One thread puts a task, and the other one takes it, processes it and marks it as done. -/
def doneTask : List (ℕ × QueueChoice Unit) :=
  [(0, .put 1 oneTask), (0, .other), (1, .get), (1, .other), (1, .markDone)]

theorem queue_tracking_done : ∃ c, Runs (ofStep tickingStep) (startQueue Unit 2) c ∧
    waiting c + processed c = 0 ∧ c.shared.tickets = 1 ∧ c.shared.delivered.count 0 = 1 := by
  have hexec : ((exec tickingStep (startQueue Unit 2) doneTask).map fun c =>
      (c.shared.isIdle, c.shared.tickets, c.locals.all fun l => l.transit.card == 0)) =
      some (true, 1, true) := by
    decide +kernel
  obtain ⟨c, hc, heq⟩ := Option.map_eq_some_iff.1 hexec
  simp only [Prod.mk.injEq] at heq
  obtain ⟨hidle, htickets, hmoving⟩ := heq
  have hruns : Runs (ofStep tickingStep) (startQueue Unit 2) c :=
    runs_of_exec _ hc fun a _ _ _ _ h => ⟨a, h⟩
  obtain ⟨-, hcount, -, hzero⟩ := queue_tracking 2 c hruns
  have hnothing : waiting c + processed c = 0 := (hzero hidle).2 fun l hl entry heq => by
    rw [List.all_eq_true] at hmoving
    have hzero := Multiset.card_eq_zero.1 (eq_of_beq (hmoving l hl))
    exact absurd (QueueThread.mem_transit.2 heq) (hzero ▸ Multiset.notMem_zero entry)
  refine ⟨c, hruns, hnothing, htickets, ?_⟩
  have hone := hcount 0 (htickets ▸ Nat.zero_lt_one)
  have hwaiting : waiting c = 0 := Multiset.le_zero.1 (hnothing ▸ Multiset.le_add_right _ _)
  rwa [hwaiting, Multiset.map_zero, Multiset.count_zero, zero_add] at hone

/-- One thread has put a task, and the other one has taken it off the heap: the queue is idle. -/
theorem idle_while_moving : ∃ c, Runs (ofStep tickingStep) (startQueue Unit 2) c ∧
    c.shared.lock = false ∧ c.shared.isIdle = true ∧ ∃ entry ∈ waiting c, entry.item = oneTask := by
  have hexec : ((exec tickingStep (startQueue Unit 2)
      [(0, .put 1 oneTask), (0, .other), (1, .get)]).map fun c =>
        (c.shared.lock, c.shared.isIdle, c.locals[1]?.map fun l => l.transit)) =
      some (false, true, some {⟨2, 1, oneTask, 0⟩}) := by
    decide +kernel
  obtain ⟨c, hc, heq⟩ := Option.map_eq_some_iff.1 hexec
  simp only [Prod.mk.injEq, Option.map_eq_some_iff] at heq
  obtain ⟨hlock, hidle, l, hl, htransit⟩ := heq
  refine ⟨c, runs_of_exec _ hc fun a _ _ _ _ h => ⟨a, h⟩, hlock, hidle, ⟨2, 1, oneTask, 0⟩, ?_, rfl⟩
  refine Multiset.mem_add.2 (.inr (mem_gathered.2 ⟨l, List.mem_of_getElem? hl, ?_⟩))
  rw [htransit]
  exact Multiset.mem_singleton_self _

end Subgen

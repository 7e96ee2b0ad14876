import Subgen.Queue.Tracking
import Subgen.Worker.Loop

/-!
# Workers survive their tasks

Any number of threads that put tasks and of workers that process them. A step that goes well
(`GoodStep`) is one of the queue or a call of `task_done`; it keeps the worker alive, and it accounts
for `unfinished_tasks` and for the tasks that `mark_done` was called with.

* `workers_survive`: in every run of survived steps no worker ends, and every task that was taken is
  marked as done once, or a worker will do it;
* `worker_ends`: a run in which a name with an undecodable byte ends the only worker.
-/

namespace Subgen

open Interleaving Procedure

namespace WorkerPoint

/-- Where the thread stands in the queue. -/
def thread : WorkerPoint → QueueThread WorkerItems
  | enqueueing path | adding _ path => .adding path none
  | taking entry => .moving entry
  | running entry | failed entry _ _ => .handling entry
  | finishing f | marking f => .handling f.entry
  | _ => .free

/-- The calls of `task_done` that the thread owes. -/
def owed : WorkerPoint → ℕ
  | taking _ | running _ | failed _ _ _ | finishing _ => 1
  | _ => 0

/-- A worker that has not ended counts as one. -/
def living : WorkerPoint → ℕ
  | outside | enqueueing _ | dead => 0
  | _ => 1

/-- The thread has not ended and will not because of an exception that was raised already. -/
def Alive : WorkerPoint → Prop
  | finishing f | marking f | queueing f | adding f _ | cleaning f | deleting f | pausing f =>
    f.dying = false
  | dead => False
  | _ => True

end WorkerPoint

/-! ## The report of a failure -/

/-- The event can be emitted; the `str` of a model runtime error is not in it. -/
theorem emitFailure_completes {hexdigest : List ℕ → Text} {u : Workers}
    {entry : QueueEntry WorkerItems} {error : TaskError} {receipt : Except TaskError Unit} :
    Completes (emitFailure hexdigest receipt entry.item error) u.mediaFailures ↔
      entry.item.event.encodable = true ∧
        if error.cls = .mediaValidationStale then identityValid entry.item.rest.sourceIdentity = true
        else error.cls.isModelRuntimeError = false →
          error.str.isSome = true ∧ identityValid entry.item.rest.sourceIdentity = true ∧
            u.mediaFailures < maxRuntimeGeneration ∧ receipt.isOk = true := by
  have hclass : failureClassOf error ∈ allowedFailureClasses := by
    rw [failureClassOf]
    split <;> decide
  have hreceipt : receipt = .ok () ↔ receipt.isOk = true := by
    rcases receipt with e | ⟨⟩ <;> simp [Except.isOk, Except.toBool]
  rw [emitFailure]
  by_cases hstale : error.cls = .mediaValidationStale
  · rw [if_pos hstale, if_pos hstale, emitSubgenEvent_media_validation_stale]
  · rw [if_neg hstale, if_neg hstale]
    by_cases hmodel : error.cls.isModelRuntimeError = true
    · rw [if_pos hmodel, emitModelRuntimeError_completes]
      simp [hmodel]
    · rw [if_neg hmodel, emitSubgenEvent_worker_error receipt _ hclass, hreceipt]
      simp [Bool.eq_false_of_not_eq_true hmodel]

theorem failureMessage_isOk {task : WorkerTask} {error : TaskError} :
    (∃ message, failureMessage task error = .ok message) ↔
      (error.cls ≠ .mediaValidationStale → error.str.isSome = true) := by
  rw [failureMessage]
  by_cases hstale : error.cls = .mediaValidationStale
  · simp [hstale]
  · rw [if_neg hstale]
    cases error.str <;> simp [hstale]

/-- What comes first, the event, does not need the `str` of every exception; the message behind it
    does, unless the media have changed. -/
theorem reportError_completes {hexdigest : List ℕ → Text} {u : Workers}
    {entry : QueueEntry WorkerItems} {error : TaskError} {receipt : Except TaskError Unit} :
    Completes (reportError hexdigest receipt entry.item error) u.mediaFailures ↔
      reportable u entry error receipt = true := by
  have hsplit : Completes (reportError hexdigest receipt entry.item error) u.mediaFailures ↔
      Completes (emitFailure hexdigest receipt entry.item error) u.mediaFailures ∧
        ∃ message, failureMessage entry.item error = .ok message := by
    rw [Completes, Completes, reportError, ensures_bind]
    cases hevent : emitFailure hexdigest receipt entry.item error u.mediaFailures with
    | error e n => simp [ensures_of_error hevent]
    | ok event n =>
      rw [ensures_of_ok hevent, ensures_of_ok hevent, ensures_bind, ensures_ofExcept]
      cases failureMessage entry.item error <;> simp [Ensures, pure, EStateM.pure]
  rw [hsplit, emitFailure_completes, failureMessage_isOk, reportable]
  by_cases hstale : error.cls = .mediaValidationStale
  · simp [hstale]
  · cases hmodel : error.cls.isModelRuntimeError <;> simp [hstale]
    tauto

/-! ## Steps -/

/-- A step of the queue, or a change of `unfinished_tasks`. -/
def QueueStep (q : DeduplicatedQueue WorkerItems) (l : QueueThread WorkerItems)
    (q' : DeduplicatedQueue WorkerItems) (l' : QueueThread WorkerItems) : Prop :=
  QueueMove q l q' l' ∨ l' = l ∧ ∃ n, q' = { q with unfinishedTasks := n }

/-- What a step of a worker does to the queue. -/
structure GoodStep (u : Workers) (l : WorkerPoint) (u' : Workers) (l' : WorkerPoint) : Prop where
  queue : QueueStep u.queue l.thread u'.queue l'.thread
  counted : u'.queue.queue.size + l'.owed + u.queue.unfinishedTasks =
    u.queue.queue.size + l.owed + u'.queue.unfinishedTasks
  marked : (u'.queue.delivered : Multiset ℕ) + u.marked + l.thread.handled.map QueueEntry.ticket =
    (u.queue.delivered : Multiset ℕ) + u'.marked + l'.thread.handled.map QueueEntry.ticket
  alive : l'.Alive
  living : l'.living = l.living

namespace GoodStep

variable {u u' : Workers} {l l' : WorkerPoint}

/-- A step that leaves the queue alone. -/
theorem of_queue_eq (hqueue : u'.queue = u.queue) (hmarked : u'.marked = u.marked)
    (hthread : l'.thread = l.thread) (howed : l'.owed = l.owed) (halive : l'.Alive)
    (hliving : l'.living = l.living) : GoodStep u l u' l' where
  queue := hqueue ▸ hthread ▸ .inl (.stays _)
  counted := by rw [hqueue, howed]
  marked := by rw [hqueue, hmarked, hthread]
  alive := halive
  living := hliving

/-- A put that was accepted, up to the lock. -/
theorem of_push {e : QueueEntry WorkerItems} {queue : Array (QueueEntry WorkerItems)}
    (hactive : u.queue.isActive e.path = false) (hlock : u.queue.lock = false)
    (hticket : e.ticket = u.queue.tickets) (hapart : ∀ e' ∈ u.queue.queue.toList, e.Apart e')
    (hqueue : queue.toList.Perm (e :: u.queue.queue.toList)) (hl : l.thread = .free)
    (hl' : l'.thread = .adding e.path none) (howed : l'.owed = l.owed) (halive : l'.Alive)
    (hliving : l'.living = l.living) :
    GoodStep u l { u with queue := { u.queue with
      queue := queue
      unfinishedTasks := u.queue.unfinishedTasks + 1
      lock := true
      tickets := u.queue.tickets + 1 } } l' where
  queue := hl ▸ hl' ▸ .inl (.pushes e _ none hlock hactive hticket hapart hqueue)
  counted := by
    have hsize := hqueue.length_eq
    rw [List.length_cons, Array.length_toList, Array.length_toList] at hsize
    change queue.size + _ + _ = _ + _ + (_ + 1)
    omega
  marked := by
    rw [hl, hl']
    rfl
  alive := halive
  living := hliving

/-- A put, behind the lock. -/
theorem of_add {path : Text} (hl : l.thread = .adding path none) (hl' : l'.thread = .free)
    (howed : l'.owed = l.owed) (halive : l'.Alive) (hliving : l'.living = l.living) :
    GoodStep u l { u with queue := (addStep u.queue path none).1 } l' where
  queue := hl ▸ hl' ▸ .inl (.adds path none)
  counted := by
    rw [howed]
    rfl
  marked := by
    rw [hl, hl']
    rfl
  alive := halive
  living := hliving

end GoodStep

section Step

variable {S : WorkerSettings} {u u' : Workers} {l l' : WorkerPoint}

/-- A thread outside puts a task, or does what the queue does not notice. -/
theorem goodStep_outside {ch : WorkerChoice} (happart : u.queue.queue.toList.Pairwise QueueEntry.Apart)
    (hsurvived : ch.survived u .outside = true) (h : workerStep S ch u .outside = some (u', l')) :
    GoodStep u .outside u' l' := by
  cases ch with
  | put now item =>
    obtain ⟨hlock, h⟩ := Option.ite_none_left_eq_some.1 h
    rcases putStep_cases none happart hsurvived with
      ⟨-, heq⟩ | ⟨hactive, e, queue, rfl, hticket, hapart, hqueue, heq⟩
    · rw [heq] at h
      obtain ⟨rfl, rfl⟩ := Prod.mk.inj (Option.some.inj h)
      exact .of_queue_eq rfl rfl rfl rfl trivial rfl
    · rw [heq] at h
      obtain ⟨rfl, rfl⟩ := Prod.mk.inj (Option.some.inj h)
      exact .of_push hactive (Bool.eq_false_of_not_eq_true hlock) hticket hapart hqueue rfl rfl rfl
        trivial rfl
  | refuse | direct =>
    obtain ⟨rfl, rfl⟩ := Prod.mk.inj (Option.some.inj h)
    exact .of_queue_eq rfl rfl rfl rfl trivial rfl
  | run | report | clock | proceed => cases h

/-- A worker at the top of its loop takes an entry if there is one. -/
theorem goodStep_polling {ch : WorkerChoice} (happart : u.queue.queue.toList.Pairwise QueueEntry.Apart)
    (h : workerStep S ch u .polling = some (u', l')) : GoodStep u .polling u' l' := by
  rw [workerStep] at h
  rcases getStep_cases happart with ⟨-, heq⟩ | ⟨e, queue, hqueue, heq⟩
  · rw [heq] at h
    obtain ⟨rfl, rfl⟩ := Prod.mk.inj (Option.some.inj h)
    exact .of_queue_eq rfl rfl rfl rfl trivial rfl
  · rw [heq] at h
    obtain ⟨rfl, rfl⟩ := Prod.mk.inj (Option.some.inj h)
    -- The entry leaves the heap, and the thread owes a `task_done` for it.
    have hsize := hqueue.length_eq
    rw [List.length_cons, Array.length_toList, Array.length_toList] at hsize
    refine ⟨.inl (.pops hqueue), ?_, rfl, trivial, rfl⟩
    simp only [WorkerPoint.owed]
    omega

/-- A worker reports the failure of its task. -/
theorem goodStep_failed {ch : WorkerChoice} {e : QueueEntry WorkerItems} {error : TaskError}
    {next : Option WorkerTask} (hsurvived : ch.survived u (.failed e error next) = true)
    (h : workerStep S ch u (.failed e error next) = some (u', l')) :
    GoodStep u (.failed e error next) u' l' := by
  cases ch with
  | report receipt =>
    rw [workerStep] at h
    by_cases hempty : error.cls = .empty
    · simp only [if_pos hempty] at h
      obtain ⟨rfl, rfl⟩ := Prod.mk.inj (Option.some.inj h)
      exact .of_queue_eq rfl rfl rfl rfl rfl rfl
    · -- The choices of a run that survives are those in which the report raises nothing.
      have hreport : Completes (reportError S.hexdigest receipt e.item error) u.mediaFailures := by
        refine reportError_completes.2 ?_
        simpa [WorkerChoice.survived, hempty] using hsurvived
      simp only [if_neg hempty] at h
      cases hresult : reportError S.hexdigest receipt e.item error u.mediaFailures with
      | ok _ n =>
        simp only [hresult] at h
        obtain ⟨rfl, rfl⟩ := Prod.mk.inj (Option.some.inj h)
        exact .of_queue_eq rfl rfl rfl rfl rfl rfl
      | error _ n =>
        rw [Completes, ensures_of_error hresult] at hreport
        exact hreport.elim
  | put | refuse | direct | run | clock | proceed => cases h

/-- A worker puts the next task of a chain, as any other one is put. -/
theorem goodStep_queueing {ch : WorkerChoice} {f : Leaving}
    (happart : u.queue.queue.toList.Pairwise QueueEntry.Apart) (halive : f.dying = false)
    (hsurvived : ch.survived u (.queueing f) = true)
    (h : workerStep S ch u (.queueing f) = some (u', l')) : GoodStep u (.queueing f) u' l' := by
  rw [workerStep] at h
  cases hnext : f.nextTask with
  | none =>
    simp only [hnext] at h
    obtain ⟨rfl, rfl⟩ := Prod.mk.inj (Option.some.inj h)
    exact .of_queue_eq rfl rfl rfl rfl halive rfl
  | some item =>
    simp only [hnext] at h
    cases ch with
    | clock now =>
      have hticks : (QueueChoice.put now item).ticks u.queue = true := by
        simpa [WorkerChoice.survived, hnext] using hsurvived
      obtain ⟨hlock, h⟩ := Option.ite_none_left_eq_some.1 h
      rw [queueNext] at h
      rcases putStep_cases none happart hticks with
        ⟨hactive, heq⟩ | ⟨hactive, e, queue, rfl, hticket, hapart, hqueue, heq⟩
      · rw [heq, if_pos hactive] at h
        obtain ⟨rfl, rfl⟩ := Prod.mk.inj (Option.some.inj h)
        exact .of_queue_eq rfl rfl rfl rfl halive rfl
      · rw [heq] at h
        obtain ⟨rfl, rfl⟩ := Prod.mk.inj (Option.some.inj h)
        exact .of_push hactive (Bool.eq_false_of_not_eq_true hlock) hticket hapart hqueue rfl rfl
          rfl halive rfl
    | put | refuse | direct | run | report | proceed => cases h

/-- Each step of a thread that survives it is a good one. -/
theorem goodStep_of_survivedStep (happart : u.queue.queue.toList.Pairwise QueueEntry.Apart)
    (hcount : l.owed ≤ u.queue.unfinishedTasks) (halive : l.Alive)
    (h : ofStep (survivedStep S) u l u' l') : GoodStep u l u' l' := by
  obtain ⟨ch, h⟩ := h
  obtain ⟨hsurvived, h⟩ := Option.ite_none_right_eq_some.1 h
  cases l with
  | outside => exact goodStep_outside happart hsurvived h
  -- The second half of a `put`: the path is noted.
  | enqueueing path =>
    obtain ⟨rfl, rfl⟩ := Prod.mk.inj (Option.some.inj h)
    exact .of_add rfl rfl rfl trivial rfl
  | polling => exact goodStep_polling happart h
  | taking e =>
    obtain ⟨hlock, h⟩ := Option.ite_none_left_eq_some.1 h
    obtain ⟨rfl, rfl⟩ := Prod.mk.inj (Option.some.inj h)
    -- The entry moves from the queued paths to those that are processed.
    refine ⟨.inl (.moves e (Bool.eq_false_of_not_eq_true hlock)), rfl, ?_, trivial, rfl⟩
    simp only [moveStep, WorkerPoint.thread, QueueThread.handled, Multiset.map_zero,
      Multiset.map_singleton, add_zero, ← Multiset.cons_coe]
    rw [Multiset.cons_add, Multiset.add_comm _ {e.ticket}, Multiset.singleton_add]
  | running e =>
    cases ch with
    | run run =>
      rw [workerStep] at h
      cases hrun : runTask S.hexdigest run e.item ⟨u.mediaFailures, none⟩ with
      | ok _ s | error _ s =>
        simp only [hrun] at h
        obtain ⟨rfl, rfl⟩ := Prod.mk.inj (Option.some.inj h)
        exact .of_queue_eq rfl rfl rfl rfl (by trivial) rfl
    | put | refuse | direct | report | clock | proceed => cases h
  | failed e error next => exact goodStep_failed hsurvived h
  | finishing f =>
    -- `task_done` raises only if nothing is unfinished, and this thread still owes one.
    have hne : u.queue.unfinishedTasks ≠ 0 := Nat.one_le_iff_ne_zero.1 hcount
    rw [workerStep, if_neg hne] at h
    obtain ⟨rfl, rfl⟩ := Prod.mk.inj (Option.some.inj h)
    refine ⟨.inr ⟨rfl, _, rfl⟩, ?_, rfl, halive, rfl⟩
    simp only [WorkerPoint.owed]
    omega
  | marking f =>
    obtain ⟨hlock, h⟩ := Option.ite_none_left_eq_some.1 h
    obtain ⟨rfl, rfl⟩ := Prod.mk.inj (Option.some.inj h)
    refine ⟨.inl (.marks f.entry (Bool.eq_false_of_not_eq_true hlock)), rfl, ?_, halive, rfl⟩
    simp only [markDoneStep, WorkerPoint.thread, QueueThread.handled, Multiset.map_zero,
      Multiset.map_singleton, add_zero, ← Multiset.cons_coe]
    rw [Multiset.add_cons, Multiset.add_comm _ {f.entry.ticket}, Multiset.singleton_add]
  | queueing f => exact goodStep_queueing happart halive hsurvived h
  | adding f path =>
    obtain ⟨rfl, rfl⟩ := Prod.mk.inj (Option.some.inj h)
    exact .of_add rfl rfl rfl halive rfl
  | cleaning f =>
    obtain ⟨rfl, rfl⟩ := Prod.mk.inj (Option.some.inj h)
    exact .of_queue_eq rfl rfl rfl rfl halive rfl
  | deleting f =>
    obtain ⟨-, h⟩ := Option.ite_none_left_eq_some.1 h
    obtain ⟨rfl, rfl⟩ := Prod.mk.inj (Option.some.inj h)
    have hqueue : (deleteModel S u).queue = u.queue ∧ (deleteModel S u).marked = u.marked := by
      rw [deleteModel]
      split <;> exact ⟨rfl, rfl⟩
    exact .of_queue_eq hqueue.1 hqueue.2 rfl rfl halive rfl
  | pausing f =>
    obtain ⟨-, h⟩ := Option.ite_none_left_eq_some.1 h
    obtain ⟨rfl, rfl⟩ := Prod.mk.inj (Option.some.inj h)
    have hdying : f.dying = false := halive
    rw [hdying]
    exact .of_queue_eq rfl rfl rfl rfl trivial rfl
  | dead => cases h

end Step

/-! ## Runs -/

/-- The shared state, with the threads. -/
abbrev WorkerConfig := Config Workers WorkerPoint

/-- Threads that have put nothing yet, and workers at the top of their loop. -/
def startWorkers (outside workers : ℕ) : WorkerConfig :=
  ⟨⟨.new, .empty, 0, 0, 0, []⟩, List.replicate outside .outside ++ List.replicate workers .polling⟩

/-- The queue, with the threads as it sees them. -/
def workersQueue (c : WorkerConfig) : QueueConfig WorkerItems := c.map Workers.queue WorkerPoint.thread

/-- How many workers still run. -/
def liveWorkers (c : WorkerConfig) : ℕ := total WorkerPoint.living c.locals

/-- The tasks that workers have taken and not marked as done yet. -/
def unmarked (c : WorkerConfig) : Multiset ℕ := (processed (workersQueue c)).map QueueEntry.ticket

/-- The invariant of all runs: every worker lives and every task is accounted for. -/
structure Surviving (workers : ℕ) (c : WorkerConfig) : Prop where
  tracked : Tracked (workersQueue c)
  counted : c.shared.queue.queue.size + total WorkerPoint.owed c.locals = c.shared.queue.unfinishedTasks
  marked : (c.shared.queue.delivered : Multiset ℕ) = c.shared.marked + unmarked c
  alive : ∀ l ∈ c.locals, l.Alive
  living : liveWorkers c = workers

theorem surviving_start (outside workers : ℕ) : Surviving workers (startWorkers outside workers) := by
  have hqueue : workersQueue (startWorkers outside workers) = startQueue WorkerItems (outside + workers) := by
    rw [workersQueue, startWorkers, startQueue, Config.map, List.map_append, List.map_replicate,
      List.map_replicate, List.replicate_add]
    rfl
  have htracked := tracked_start (π := WorkerItems) (outside + workers)
  have hprocessed : processed (startQueue WorkerItems (outside + workers)) = 0 := by
    simp [processed, gathered, startQueue, QueueThread.handled]
  refine ⟨hqueue ▸ htracked, ?_, ?_, ?_, ?_⟩
  · simp [startWorkers, total, WorkerPoint.owed, DeduplicatedQueue.new]
  · rw [unmarked, hqueue, hprocessed]
    rfl
  · intro l hl
    rcases List.mem_append.1 hl with hl | hl <;> rw [List.eq_of_mem_replicate hl] <;> trivial
  · simp [liveWorkers, startWorkers, total, WorkerPoint.living]

/-- A step of the queue keeps track of its tasks. -/
theorem tracked_of_queueStep {c c' : QueueConfig WorkerItems} {i : ℕ} {l l' : QueueThread WorkerItems}
    (h : Tracked c) (hmoves : Moves QueueStep c c' i l l') : Tracked c' := by
  obtain ⟨q', ls'⟩ := c'
  obtain ⟨hthread, hstep | ⟨rfl, n, hn⟩, hlocals⟩ := hmoves
  · exact h.moves ⟨hthread, hstep, hlocals⟩
  · have hstays : Tracked ⟨c.shared, ls'⟩ := h.moves ⟨hthread, .stays _, hlocals⟩
    obtain rfl : q' = _ := hn
    obtain ⟨hlock, hqueued, hprocessing, hnodup, htickets⟩ := hstays.accounts
    exact ⟨hstays.apart, hlock, hqueued, hprocessing, hnodup, htickets⟩

theorem Surviving.moves {workers : ℕ} {c c' : WorkerConfig} {i : ℕ} {l l' : WorkerPoint}
    (h : Surviving workers c) (hmoves : Moves GoodStep c c' i l l') : Surviving workers c' := by
  obtain ⟨hthread, hstep, hlocals⟩ := hmoves
  have hqueue : Moves QueueStep (workersQueue c) (workersQueue c') i l.thread l'.thread :=
    Moves.map (fun _ _ _ _ => GoodStep.queue) ⟨hthread, hstep, hlocals⟩
  refine ⟨tracked_of_queueStep h.tracked hqueue, ?_, ?_, ?_, ?_⟩
  · have hcounted := h.counted
    have hset := total_set WorkerPoint.owed hthread l'
    have hstep' := hstep.counted
    rw [hlocals]
    omega
  · have hset := congrArg (Multiset.map QueueEntry.ticket)
      (gathered_set QueueThread.handled hqueue.thread l'.thread)
    rw [← hqueue.locals, Multiset.map_add, Multiset.map_add] at hset
    have hstep' := hstep.marked
    rw [h.marked] at hstep'
    -- Both sides with what was marked before and what the thread held.
    refine add_right_cancel (b := (c.shared.marked : Multiset ℕ) + l.thread.handled.map QueueEntry.ticket) ?_
    rw [← add_assoc, hstep', unmarked, unmarked, processed, processed]
    calc (c.shared.marked : Multiset ℕ) +
          (gathered QueueThread.handled (workersQueue c).locals).map QueueEntry.ticket +
          c'.shared.marked + l'.thread.handled.map QueueEntry.ticket
        = c'.shared.marked + c.shared.marked +
          ((gathered QueueThread.handled (workersQueue c).locals).map QueueEntry.ticket +
            l'.thread.handled.map QueueEntry.ticket) := by abel
      _ = _ := by
        rw [← hset]
        abel
  · rw [hlocals]
    exact forall_mem_set hstep.alive fun _ m _ hm => h.alive m (List.mem_of_getElem? hm)
  · have hset := total_set WorkerPoint.living hthread l'
    have hliving := h.living
    rw [liveWorkers] at hliving ⊢
    rw [hstep.living] at hset
    rw [hlocals]
    omega

theorem surviving_of_runs {S : WorkerSettings} {outside workers : ℕ} {c : WorkerConfig}
    (h : Runs (ofStep (survivedStep S)) (startWorkers outside workers) c) : Surviving workers c := by
  refine h.invariant (surviving_start outside workers) fun c' c'' i l l' hsurviving hmoves => ?_
  refine hsurviving.moves ⟨hmoves.thread, ?_, hmoves.locals⟩
  have howed := held_le_total WorkerPoint.owed hmoves.thread
  have hcounted := hsurviving.counted
  exact goodStep_of_survivedStep hsurviving.tracked.apart (by omega)
    (hsurviving.alive l (List.mem_of_getElem? hmoves.thread)) hmoves.step

/-- In every run of any number of workers, and of threads that put tasks, whose steps are survived: no
    worker ends, and every task that was taken was marked as done once or will be by the worker that
    has it. -/
theorem workers_survive (S : WorkerSettings) (outside workers : ℕ) (c : WorkerConfig)
    (h : Runs (ofStep (survivedStep S)) (startWorkers outside workers) c) :
    liveWorkers c = workers ∧ .dead ∉ c.locals ∧
    ∀ ticket ∈ c.shared.queue.delivered,
      c.shared.marked.count ticket + (unmarked c).count ticket = 1 := by
  have hsurviving := surviving_of_runs h
  refine ⟨hsurviving.living, fun hdead => hsurviving.alive _ hdead, fun ticket hticket => ?_⟩
  -- The tickets that were delivered are among those that were given out, once each.
  have htickets := hsurviving.tracked.accounts.tickets
  rw [← Multiset.coe_count, ← Multiset.count_add, ← hsurviving.marked]
  refine Multiset.count_eq_one_of_mem ?_ hticket
  refine Multiset.nodup_of_le ?_ (Multiset.nodup_range c.shared.queue.tickets)
  change (c.shared.queue.delivered : Multiset ℕ) ≤ Multiset.range (workersQueue c).shared.tickets
  rw [← htickets]
  exact Multiset.le_add_left _ _

/-! ## One task -/

/-- A task for a film. -/
def filmTask : WorkerTask := ⟨text "/media/film.mkv", .transcribe, ⟨none, some [2049, 77, 9, 5, 5], none, false⟩⟩

/-- The digest of `transcribe:/media/film.mkv`. -/
def filmSettings : WorkerSettings where
  hexdigest _ := text "576f631d22b27cf7193b1d98cefab38a365306c97faba7efc334b6673d5389e5"
  clearVramOnComplete := true

/-- A run of a task that raises in its transcription. -/
def fails (message : String) : TaskRun := ⟨.ok (), .ok true, .error ⟨.exception, some (text message)⟩⟩

/-- One task whose transcription fails. -/
def failedTask : List (ℕ × WorkerChoice) :=
  [(0, .put 1 filmTask), (0, .proceed), (1, .proceed), (1, .proceed), (1, .run (fails "no such stream")),
   (1, .report (.ok ())), (1, .proceed), (1, .proceed), (1, .proceed), (1, .proceed), (1, .proceed),
   (1, .proceed)]

theorem workers_survive_failed : ∃ c,
    Runs (ofStep (survivedStep filmSettings)) (startWorkers 1 1) c ∧ liveWorkers c = 1 ∧
    c.shared.mediaFailures = 1 ∧ c.shared.marked.count 0 + (unmarked c).count 0 = 1 := by
  have hexec : ((exec (survivedStep filmSettings) (startWorkers 1 1) failedTask).map fun c =>
      (c.shared.mediaFailures, c.shared.queue.delivered)) = some (1, [0]) := by
    decide +kernel
  obtain ⟨c, hc, heq⟩ := Option.map_eq_some_iff.1 hexec
  obtain ⟨hfailures, hdelivered⟩ := Prod.mk.inj heq
  have hruns : Runs (ofStep (survivedStep filmSettings)) (startWorkers 1 1) c :=
    runs_of_exec _ hc fun a _ _ _ _ h => ⟨a, h⟩
  obtain ⟨hlive, -, hmarked⟩ := workers_survive filmSettings 1 1 c hruns
  exact ⟨c, hruns, hlive, hfailures, hmarked 0 (hdelivered ▸ List.mem_singleton_self _)⟩

/-- A name with the byte `0xff`, as a directory walk returns it. -/
def undecodableTask : WorkerTask :=
  ⟨text "/media/" ++ [0xdcff] ++ text ".mkv", .transcribe, ⟨none, some [2049, 77, 9, 5, 5], none, false⟩⟩

theorem worker_ends : ∃ c, Runs (ofStep (workerStep filmSettings)) (startWorkers 1 1) c ∧
    c.shared.marked = [0] ∧ liveWorkers c = 0 := by
  have hexec : ((exec (workerStep filmSettings) (startWorkers 1 1)
      [(0, .put 1 undecodableTask), (0, .proceed), (1, .proceed), (1, .proceed),
       (1, .run ⟨.ok (), .ok true, .ok none⟩), (1, .report (.ok ())), (1, .proceed), (1, .proceed),
       (1, .proceed), (1, .proceed), (1, .proceed), (1, .proceed)]).map fun c =>
        (c.shared.marked, liveWorkers c)) = some ([0], 0) := by
    decide +kernel
  obtain ⟨c, hc, heq⟩ := Option.map_eq_some_iff.1 hexec
  obtain ⟨hmarked, hlive⟩ := Prod.mk.inj heq
  exact ⟨c, runs_of_exec _ hc fun a _ _ _ _ h => ⟨a, h⟩, hmarked, hlive⟩

end Subgen

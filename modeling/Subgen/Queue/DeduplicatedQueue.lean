import Mathlib.Data.Finset.Insert
import Mathlib.Data.Rat.Defs
import Subgen.Lib.Heap
import Subgen.Lib.Json

/-!
# The queue of the tasks

`DeduplicatedQueue`: a priority queue of tasks with the paths that wait in it and those that are being
processed. An entry of the heap is the tuple of a priority, the time at which it was put and the
task; two entries of the same priority and time are compared by their tasks, which are mappings, so
that the comparison raises a `TypeError` (`QueueEntry.lt`).

A call takes one or two steps (`queueStep`): `get` takes an entry off the heap before it takes the
lock, and in `put` the heap is changed before the path is added, under the lock. The number of a
put that was accepted goes along with its entry, and is there to speak about runs.
-/

namespace Subgen

/-- The types of a task; one without a type is transcribed. -/
inductive TaskType
  | detectLanguage
  | asr
  | transcribe
  deriving DecidableEq

/-- The priority of a task. -/
def TaskType.priority : TaskType → ℕ
  | detectLanguage => 0
  | asr => 1
  | transcribe => 2

/-- A task: what the queue looks at, and the rest of its items. -/
structure QueueTask (π : Type) where
  path : Text
  type : TaskType
  rest : π
  deriving DecidableEq

variable {π : Type}

/-- `(priority, time.time(), item)`, with the number of the put. -/
structure QueueEntry (π : Type) where
  priority : ℕ
  timestamp : ℚ
  item : QueueTask π
  ticket : ℕ
  deriving DecidableEq

/-- The path of an entry. -/
def QueueEntry.path (e : QueueEntry π) : Text := e.item.path

/-- The comparison of the tuples. Mappings that differ cannot be compared. -/
def QueueEntry.lt [DecidableEq π] (a b : QueueEntry π) : Option Bool :=
  if a.priority ≠ b.priority then some (a.priority < b.priority)
  else if a.timestamp ≠ b.timestamp then some (a.timestamp < b.timestamp)
  else if a.item = b.item then some false
  else none

/-- A queue, whether its lock is held, and how many puts it has accepted. `delivered` are those of
    them that a `get` has returned, newest first. -/
structure DeduplicatedQueue (π : Type) where
  queue : Array (QueueEntry π)
  unfinishedTasks : ℕ
  queued : Finset Text
  processing : Finset Text
  lock : Bool
  tickets : ℕ
  delivered : List ℕ

namespace DeduplicatedQueue

/-- A new queue. -/
def new : DeduplicatedQueue π := ⟨#[], 0, ∅, ∅, false, 0, []⟩

/-- `is_active`. -/
def isActive (q : DeduplicatedQueue π) (path : Text) : Bool := path ∈ q.queued ∨ path ∈ q.processing

/-- `is_idle`. -/
def isIdle (q : DeduplicatedQueue π) : Bool := q.queue.isEmpty && q.processing.card = 0

end DeduplicatedQueue

/-- Where a thread stands, with the task that `get` returned to it and that it has not marked as
    done yet. It processes one task at a time. -/
inductive QueueThread (π : Type)
  | free
  | handling (entry : QueueEntry π)
  -- In `put`, behind the put of the priority queue.
  | adding (path : Text) (task : Option (QueueEntry π))
  -- In `get`, behind the get of the priority queue.
  | moving (entry : QueueEntry π)

namespace QueueThread

/-- In no call. -/
def ofTask : Option (QueueEntry π) → QueueThread π
  | none => free
  | some entry => handling entry

end QueueThread

/-- What a thread that is in no call does next. -/
inductive QueueChoice (π : Type)
  | put (now : ℚ) (item : QueueTask π)
  | get
  | markDone
  | isIdle
  | other

section Steps

variable [DecidableEq π] (q : DeduplicatedQueue π)

/-- `put`, under the lock: a path that is active is refused. If the heap raises, the entry stays
    in it. -/
def putStep (task : Option (QueueEntry π)) (now : ℚ) (item : QueueTask π) :
    DeduplicatedQueue π × QueueThread π :=
  if q.isActive item.path then (q, .ofTask task)
  else
    match Heap.push QueueEntry.lt q.queue ⟨item.type.priority, now, item, q.tickets⟩ with
    | (true, queue) =>
      ({ q with
          queue := queue
          unfinishedTasks := q.unfinishedTasks + 1
          lock := true
          tickets := q.tickets + 1 }, .adding item.path task)
    | (false, queue) => ({ q with queue := queue }, .ofTask task)

/-- `put`, behind the put of the priority queue. -/
def addStep (path : Text) (task : Option (QueueEntry π)) : DeduplicatedQueue π × QueueThread π :=
  ({ q with queued := insert path q.queued, lock := false }, .ofTask task)

/-- The get of the priority queue. It raises `Empty`, or what the heap raises. -/
def getStep : DeduplicatedQueue π × QueueThread π :=
  match Heap.pop QueueEntry.lt q.queue with
  | none => (q, .free)
  | some (none, queue) => ({ q with queue := queue }, .free)
  | some (some entry, queue) => ({ q with queue := queue }, .moving entry)

/-- `get`, behind the get of the priority queue. -/
def moveStep (entry : QueueEntry π) : DeduplicatedQueue π × QueueThread π :=
  ({ q with
      queued := q.queued.erase entry.path
      processing := insert entry.path q.processing
      delivered := entry.ticket :: q.delivered }, .handling entry)

/-- `mark_done`. -/
def markDoneStep (entry : QueueEntry π) : DeduplicatedQueue π × QueueThread π :=
  ({ q with processing := q.processing.erase entry.path }, .free)

/-- The lock is taken for one step. -/
def locked (r : DeduplicatedQueue π × QueueThread π) : Option (DeduplicatedQueue π × QueueThread π) :=
  if q.lock then none else some r

/-- The next step of a thread, if it does not have to wait for the lock. -/
def queueStep (ch : QueueChoice π) (q : DeduplicatedQueue π) :
    QueueThread π → Option (DeduplicatedQueue π × QueueThread π)
  | .adding path task => some (addStep q path task)
  | .moving entry => locked q (moveStep q entry)
  | .free =>
    match ch with
    | .put now item => locked q (putStep q none now item)
    | .get => some (getStep q)
    | .markDone => none
    | .isIdle => locked q (q, .free)
    | .other => some (q, .free)
  | .handling entry =>
    match ch with
    | .put now item => locked q (putStep q (some entry) now item)
    | .get => none
    | .markDone => locked q (markDoneStep q entry)
    | .isIdle => locked q (q, .handling entry)
    | .other => some (q, .handling entry)

end Steps

/-! ## Times -/

/-- The entries differ in what is compared first. -/
def QueueEntry.Apart (a b : QueueEntry π) : Prop := a.priority = b.priority → a.timestamp ≠ b.timestamp

instance : Std.Symm (QueueEntry.Apart (π := π)) where
  symm _ _ h hpriority htimestamp := h hpriority.symm htimestamp.symm

theorem comparable_of_apart [DecidableEq π] {l : List (QueueEntry π)}
    (h : l.Pairwise QueueEntry.Apart) : Heap.Comparable QueueEntry.lt l := by
  intro a ha b hb
  by_cases hab : a = b
  · simp [hab, QueueEntry.lt]
  · have hapart : a.Apart b := h.forall ha hb hab
    rw [QueueEntry.lt]
    split
    · rfl
    · next hpriority => rw [if_pos (hapart (not_not.1 hpriority))]; rfl

/-- A put reads a time at which no entry of its priority that still waits was put. -/
def QueueChoice.ticks : QueueChoice π → DeduplicatedQueue π → Bool
  | .put now item, q =>
    q.queue.toList.all fun e => e.priority ≠ item.type.priority || e.timestamp ≠ now
  | _, _ => true

/-- The step, if the clock ticks. -/
def tickingStep [DecidableEq π] (ch : QueueChoice π) (q : DeduplicatedQueue π) (l : QueueThread π) :
    Option (DeduplicatedQueue π × QueueThread π) :=
  if ch.ticks q then queueStep ch q l else none

end Subgen

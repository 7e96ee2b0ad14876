import Subgen.Inventory.Items
import Subgen.Lib.Interleaving
import Subgen.Queue.DeduplicatedQueue

/-!
# Reservations

A path that is put into the queue of the tasks is reserved in the inventory first, and what is there
is taken away when a worker has transcribed it, or when the queue refuses it. Any number of threads
put tasks of one path (`gen_subtitles_queue`, with `_put_task_with_inventory`) and process them
(`transcription_worker`); no scan runs, and the transcriptions succeed.

* `Reserved`: an item waits in the inventory only for a task in the queue, for one that is being
  transcribed, or for a thread that has reserved it and may still take it back;
* `reservations_agree`: it holds along the runs in which no step loses sight of the reservation
  (`keepsReservation`);
* `reservation_goes_astray`: what happens otherwise.
-/

namespace Subgen

open Interleaving

variable {π : Type}

/-- The queue and the inventory. -/
structure Reservations (π : Type) where
  queue : DeduplicatedQueue π
  inventory : Inventory

/-- Where a thread stands. -/
inductive ReservationPoint (π : Type)
  | free
  -- In `gen_subtitles_queue`: the path was not active, it was reserved or was reserved already, the
  -- queue has refused it, and it was not active then.
  | checked
  | reserved (mine : Bool)
  | refused
  | cancelling
  -- In `transcription_worker`, before the item is completed and behind that.
  | handling (entry : QueueEntry π)
  | completed (entry : QueueEntry π)

/-- What a thread does next: it calls one of the two functions, or leaves `gen_subtitles_queue`
    because of the policy for the media. A put reads the time and has a task with other items. -/
structure ReservationChoice (π : Type) where
  gets : Bool
  skips : Bool
  source : Text
  now : ℚ
  rest : π

namespace DeduplicatedQueue

variable [DecidableEq π] (q : DeduplicatedQueue π)

/-- `put`, in one step. It has no answer if two tasks cannot be compared. -/
def putTask (now : ℚ) (item : QueueTask π) : DeduplicatedQueue π × Option Bool :=
  if q.isActive item.path then (q, some false)
  else
    match putStep q none now item with
    | (q, .adding path task) => ((addStep q path task).1, some true)
    | (q, _) => (q, none)

/-- `get`, in one step. -/
def getTask : DeduplicatedQueue π × Option (QueueEntry π) :=
  match getStep q with
  | (q, .moving entry) => ((moveStep q entry).1, some entry)
  | (q, _) => (q, none)

end DeduplicatedQueue

/-- The item of the path waits in the inventory. -/
def Inventory.waits (config : InventoryConfig) (s : Inventory) (path : Text) : Bool :=
  (pathKey config.sha256 (some path)).any s.pendingItems.contains

/-- The next step of a thread. -/
def reservationStep [DecidableEq π] (config : InventoryConfig) (path : Text) (ch : ReservationChoice π)
    (s : Reservations π) : ReservationPoint π → Option (Reservations π × ReservationPoint π)
  | .free =>
    if ch.gets then
      match s.queue.getTask with
      | (queue, some entry) => some ({ s with queue := queue }, .handling entry)
      | (queue, none) => some ({ s with queue := queue }, .free)
    else some (s, if s.queue.isActive path then .free else .checked)
  | .checked =>
    if ch.skips then some (s, .free)
    else
      match s.inventory.markItemQueued config (some path) ch.source none with
      | (inventory, reserved) => some ({ s with inventory := inventory }, .reserved reserved)
  | .reserved mine =>
    match s.queue.putTask ch.now ⟨path, .transcribe, ch.rest⟩ with
    | (queue, some true) => some ({ s with queue := queue }, .free)
    | (queue, some false) => some ({ s with queue := queue }, if mine then .refused else .free)
    | (queue, none) => some ({ s with queue := queue }, if mine then .cancelling else .free)
  | .refused => some (s, if s.queue.isActive path then .free else .cancelling)
  | .cancelling =>
    some ({ s with inventory := (s.inventory.cancelItemQueue config (some path) none).1 }, .free)
  | .handling entry =>
    some ({ s with inventory := (s.inventory.markItemCompleted config (some entry.path) none).1 },
      .completed entry)
  | .completed entry => some ({ s with queue := (markDoneStep s.queue entry).1 }, .free)

/-! ## What the steps do -/

namespace Inventory

variable {config : InventoryConfig} {s s' : Inventory} {path : Text}

/-- An item that is reserved waits from then on; otherwise nothing happens. -/
theorem markItemQueued_cases (config : InventoryConfig) (s : Inventory) (path source : Text) :
    (∃ s', s.markItemQueued config (some path) source none = (s', true) ∧ s'.waits config path = true) ∨
      s.markItemQueued config (some path) source none = (s, false) := by
  unfold markItemQueued
  split
  · exact .inr rfl
  · next key hkey =>
    split
    · exact .inr rfl
    · obtain ⟨item, hitem⟩ := s.pendingItems_enqueue key (some path) source none
      refine .inl ⟨_, rfl, ?_⟩
      rw [waits, hkey, Option.any_some, hitem, OrderedDict.contains_insert]
      exact .inl rfl

theorem not_waits_of_erase {key : ItemKey} (hkey : pathKey config.sha256 (some path) = some key)
    (hpending : s'.pendingItems = s.pendingItems.erase key) : s'.waits config path = false := by
  rw [waits, hkey, Option.any_some, hpending, OrderedDict.contains, OrderedDict.get_erase, if_pos rfl,
    Option.isSome_none]

theorem not_waits_of_get {key : ItemKey} (hkey : pathKey config.sha256 (some path) = some key)
    (hget : s.pendingItems.get key = none) : s.waits config path = false := by
  rw [waits, hkey, Option.any_some, OrderedDict.contains, hget, Option.isSome_none]

theorem not_waits_of_pathKey (hkey : pathKey config.sha256 (some path) = none) :
    s.waits config path = false := by
  rw [waits, hkey, Option.any_none]

theorem not_waits_markItemCompleted (config : InventoryConfig) (s : Inventory) (path : Text) :
    (s.markItemCompleted config (some path) none).1.waits config path = false := by
  unfold markItemCompleted
  split
  · next hkey => exact not_waits_of_pathKey hkey
  · next key hkey =>
    rw [if_neg (by simp [generationMatches])]
    split
    · next hget => exact not_waits_of_get hkey hget
    · exact not_waits_of_erase hkey rfl

theorem not_waits_cancelItemQueue (config : InventoryConfig) (s : Inventory) (path : Text) :
    (s.cancelItemQueue config (some path) none).1.waits config path = false := by
  unfold cancelItemQueue
  split
  · next hkey => exact not_waits_of_pathKey hkey
  · next key hkey =>
    rw [if_neg (by simp [generationMatches])]
    split
    · next hget => exact not_waits_of_get hkey hget
    · dsimp only
      split
      · exact not_waits_of_erase hkey rfl
      · exact not_waits_of_erase hkey rfl

end Inventory

/-- There is one task of the path in the queue, or none and the path is not known to wait there. -/
def DeduplicatedQueue.Holds (q : DeduplicatedQueue π) (path : Text) : Prop :=
  q.queue = #[] ∧ path ∉ q.queued ∨
    ∃ e, q.queue = #[e] ∧ e.path = path ∧ path ∈ q.queued ∧ path ∉ q.processing

namespace DeduplicatedQueue

variable [DecidableEq π] {q : DeduplicatedQueue π} {path : Text}

omit [DecidableEq π] in
theorem isActive_eq_false : q.isActive path = false ↔ path ∉ q.queued ∧ path ∉ q.processing := by
  rw [isActive, decide_eq_false_iff_not, not_or]

theorem putTask_of_inactive (h : q.Holds path) (hactive : q.isActive path = false) (now : ℚ) (rest : π) :
    ∃ q', q.putTask now ⟨path, .transcribe, rest⟩ = (q', some true) ∧ q'.Holds path ∧
      path ∈ q'.queued ∧ q'.processing = q.processing := by
  obtain ⟨hqueued, hprocessing⟩ := isActive_eq_false.1 hactive
  obtain ⟨hempty, -⟩ := h.resolve_right fun ⟨_, _, _, hmem, _⟩ => hqueued hmem
  have hpush : putStep q none now ⟨path, .transcribe, rest⟩ = ({ q with
      queue := #[⟨2, now, ⟨path, .transcribe, rest⟩, q.tickets⟩]
      unfinishedTasks := q.unfinishedTasks + 1
      lock := true
      tickets := q.tickets + 1 }, .adding path none) := by
    rw [putStep, if_neg (Bool.eq_false_iff.1 hactive), hempty]
    rfl
  rw [putTask, if_neg (Bool.eq_false_iff.1 hactive), hpush]
  refine ⟨_, rfl, ?_, ?_, rfl⟩
  · exact .inr ⟨_, rfl, rfl, Finset.mem_insert_self _ _, hprocessing⟩
  · exact Finset.mem_insert_self _ _

/-- The task of the path is taken, if there is one. -/
theorem getTask_cases (h : q.Holds path) : q.getTask = (q, none) ∨
    ∃ q' e, q.getTask = (q', some e) ∧ e.path = path ∧ q'.Holds path ∧ path ∉ q.processing ∧
      path ∈ q'.processing := by
  rcases h with ⟨hempty, -⟩ | ⟨e, hone, rfl, -, hprocessing⟩
  · have hget : getStep q = (q, .free) := by
      rw [getStep, hempty]
      rfl
    rw [getTask, hget]
    exact .inl rfl
  · have hget : getStep q = ({ q with queue := #[] }, .moving e) := by
      rw [getStep, hone]
      rfl
    rw [getTask, hget]
    refine .inr ⟨_, e, rfl, rfl, .inl ⟨rfl, Finset.notMem_erase _ _⟩, hprocessing, ?_⟩
    exact Finset.mem_insert_self _ _

end DeduplicatedQueue

/-! ## Who has a reservation -/

namespace ReservationPoint

/-- A worker between `get` and `mark_done`. -/
def works : ReservationPoint π → ℕ
  | handling _ | completed _ => 1
  | _ => 0

/-- The thread has yet to take away what waits in the inventory, or to see to it that another one does. -/
def owns : ReservationPoint π → Bool
  | reserved mine => mine
  | refused | cancelling | handling _ => true
  | _ => false

/-- The thread is in no call. -/
def isFree : ReservationPoint π → Bool
  | free => true
  | _ => false

/-- The entry that the thread works on. -/
def entry : ReservationPoint π → Option (QueueEntry π)
  | handling entry | completed entry => some entry
  | _ => none

end ReservationPoint

/-- A step does not lose sight of the reservation. A put is accepted only while the item waits in the
    inventory; a thread that finds the path active, and so leaves its reservation, leaves it to the
    task in the queue, a worker that has not completed the item, or another thread that has
    reserved it; and a reservation is not taken back while the path waits in the queue. -/
def keepsReservation (config : InventoryConfig) (path : Text)
    (c : Config (Reservations π) (ReservationPoint π)) (i : ℕ) : Bool :=
  match c.locals[i]? with
  | some (.reserved _) => c.shared.queue.isActive path || c.shared.inventory.waits config path
  | some .refused =>
    !c.shared.queue.isActive path || !c.shared.inventory.waits config path ||
      path ∈ c.shared.queue.queued || (c.locals.eraseIdx i).any ReservationPoint.owns
  | some .cancelling => path ∉ c.shared.queue.queued
  | _ => true

/-- What waits in the queue waits in the inventory, and what waits in the inventory does so for the
    queue or for a thread. There is at most one worker with the path. -/
structure Reserved (config : InventoryConfig) (path : Text)
    (c : Config (Reservations π) (ReservationPoint π)) : Prop where
  holds : c.shared.queue.Holds path
  processing : total ReservationPoint.works c.locals = if path ∈ c.shared.queue.processing then 1 else 0
  entries : ∀ l ∈ c.locals, ∀ e, l.entry = some e → e.path = path
  queued : path ∈ c.shared.queue.queued → c.shared.inventory.waits config path = true
  owned : c.shared.inventory.waits config path = true →
    path ∈ c.shared.queue.queued ∨ ∃ l ∈ c.locals, l.owns = true

section Step

variable {config : InventoryConfig} {path : Text} {c c' : Config (Reservations π) (ReservationPoint π)}
  {i : ℕ} {l l' : ReservationPoint π}

/-- A reservation that is not the thread's own is one of the others. -/
theorem Reserved.others (h : Reserved config path c) (hi : c.locals[i]? = some l) (hl : l.owns = false)
    (hwaits : c.shared.inventory.waits config path = true) :
    path ∈ c.shared.queue.queued ∨ (c.locals.eraseIdx i).any ReservationPoint.owns = true := by
  refine (h.owned hwaits).imp_right fun ⟨m, hm, howns⟩ => List.any_eq_true.2 ⟨m, ?_, howns⟩
  obtain ⟨j, hj⟩ := List.mem_iff_getElem?.1 hm
  refine List.mem_eraseIdx_iff_getElem?.2 ⟨j, fun hij => ?_, hj⟩
  subst hij
  obtain rfl := Option.some.inj (hi.symm.trans hj)
  exact absurd (hl.symm.trans howns) nofun

/-- What a step has to show, with what the other threads have. -/
theorem Reserved.set (h : Reserved config path c) (hi : c.locals[i]? = some l) {s' : Reservations π}
    (hholds : s'.queue.Holds path)
    (hprocessing : (if path ∈ s'.queue.processing then 1 else 0) + l.works =
      (if path ∈ c.shared.queue.processing then 1 else 0) + l'.works)
    (hentry : ∀ e, l'.entry = some e → e.path = path)
    (hqueued : path ∈ s'.queue.queued → s'.inventory.waits config path = true)
    (howned : s'.inventory.waits config path = true → path ∈ s'.queue.queued ∨ l'.owns = true ∨
      (c.locals.eraseIdx i).any ReservationPoint.owns = true) :
    Reserved config path ⟨s', c.locals.set i l'⟩ where
  holds := hholds
  processing := by
    have hset := total_set ReservationPoint.works hi l'
    have hbefore := h.processing
    dsimp only
    omega
  entries := forall_mem_set hentry fun j m _ hj => h.entries m (List.mem_of_getElem? hj)
  queued := hqueued
  owned hwaits := by
    refine (howned hwaits).imp_right fun hsome => ?_
    rcases hsome with howns | hothers
    · exact ⟨l', List.mem_set (List.getElem?_eq_some_iff.1 hi).1 l', howns⟩
    · obtain ⟨m, hm, howns⟩ := List.any_eq_true.1 hothers
      obtain ⟨j, hij, hj⟩ := List.mem_eraseIdx_iff_getElem?.1 hm
      refine ⟨m, List.mem_iff_getElem?.2 ⟨j, ?_⟩, howns⟩
      rw [List.getElem?_set_ne hij.symm, hj]

/-- A thread without a reservation goes on and changes nothing. -/
theorem Reserved.idle (h : Reserved config path c) (hi : c.locals[i]? = some l) (hl : l.owns = false)
    (hworks : l.works = 0) (hworks' : l'.works = 0) (hentry : l'.entry = none) :
    Reserved config path ⟨c.shared, c.locals.set i l'⟩ := by
  refine h.set hi h.holds (by rw [hworks, hworks']) (fun e he => ?_) h.queued fun hwaits => ?_
  · exact absurd (hentry.symm.trans he) nofun
  · exact (h.others hi hl hwaits).imp_right .inr

/-- A worker with the path has taken it out of the queue. -/
theorem Reserved.processing_of_works (h : Reserved config path c) (hi : c.locals[i]? = some l)
    (hl : l.works = 1) : path ∈ c.shared.queue.processing ∧ path ∉ c.shared.queue.queued := by
  have hle := held_le_total ReservationPoint.works hi
  have hmem : path ∈ c.shared.queue.processing := by
    by_contra hnot
    rw [h.processing, if_neg hnot, hl] at hle
    omega
  refine ⟨hmem, fun hqueued => ?_⟩
  rcases h.holds with ⟨-, hnot⟩ | ⟨_, -, -, -, hnot⟩
  · exact hnot hqueued
  · exact hnot hmem

variable [DecidableEq π] {ch : ReservationChoice π} {s' : Reservations π}

theorem Reserved.step_free (h : Reserved config path c) (hi : c.locals[i]? = some .free)
    (hstep : reservationStep config path ch c.shared .free = some (s', l')) :
    Reserved config path ⟨s', c.locals.set i l'⟩ := by
  rw [reservationStep] at hstep
  split at hstep
  · rcases DeduplicatedQueue.getTask_cases h.holds with hget | ⟨q', e, hget, he, hholds, hnot, hmem⟩
    · rw [hget] at hstep
      obtain ⟨rfl, rfl⟩ := Prod.mk.inj (Option.some.inj hstep)
      exact h.idle hi rfl rfl rfl rfl
    · rw [hget] at hstep
      obtain ⟨rfl, rfl⟩ := Prod.mk.inj (Option.some.inj hstep)
      refine h.set hi hholds ?_ (fun e' he' => Option.some.inj he' ▸ he) (fun hqueued => ?_) fun _ =>
        .inr (.inl rfl)
      · rw [if_pos hmem, if_neg hnot]
        rfl
      · -- What is processed does not wait in the queue.
        rcases hholds with ⟨-, hgone⟩ | ⟨_, -, -, -, hgone⟩
        · exact absurd hqueued hgone
        · exact absurd hmem hgone
  · obtain ⟨rfl, rfl⟩ := Prod.mk.inj (Option.some.inj hstep)
    split
    · exact h.idle hi rfl rfl rfl rfl
    · exact h.idle hi rfl rfl rfl rfl

theorem Reserved.step_checked (h : Reserved config path c) (hi : c.locals[i]? = some .checked)
    (hstep : reservationStep config path ch c.shared .checked = some (s', l')) :
    Reserved config path ⟨s', c.locals.set i l'⟩ := by
  rw [reservationStep] at hstep
  split at hstep
  · obtain ⟨rfl, rfl⟩ := Prod.mk.inj (Option.some.inj hstep)
    exact h.idle hi rfl rfl rfl rfl
  · rcases Inventory.markItemQueued_cases config c.shared.inventory path ch.source with
      ⟨inventory, hmark, hwaits⟩ | hmark
    · rw [hmark] at hstep
      obtain ⟨rfl, rfl⟩ := Prod.mk.inj (Option.some.inj hstep)
      exact h.set hi h.holds rfl nofun (fun _ => hwaits) fun _ => .inr (.inl rfl)
    · rw [hmark] at hstep
      obtain ⟨rfl, rfl⟩ := Prod.mk.inj (Option.some.inj hstep)
      exact h.idle hi rfl rfl rfl rfl

/-- The put. The task that is accepted takes the reservation over. -/
theorem Reserved.step_reserved {mine : Bool} (h : Reserved config path c)
    (hi : c.locals[i]? = some (.reserved mine))
    (hkeeps : c.shared.queue.isActive path = true ∨ c.shared.inventory.waits config path = true)
    (hstep : reservationStep config path ch c.shared (.reserved mine) = some (s', l')) :
    Reserved config path ⟨s', c.locals.set i l'⟩ := by
  rw [reservationStep] at hstep
  by_cases hactive : c.shared.queue.isActive path = true
  · have hput : c.shared.queue.putTask ch.now ⟨path, .transcribe, ch.rest⟩ = (c.shared.queue, some false) :=
      if_pos hactive
    rw [hput] at hstep
    obtain ⟨rfl, rfl⟩ := Prod.mk.inj (Option.some.inj hstep)
    rcases mine with _ | _
    · exact h.idle hi rfl rfl rfl rfl
    · exact h.set hi h.holds rfl nofun h.queued fun _ => .inr (.inl rfl)
  · obtain ⟨q', hput, hholds, hmem, hprocessing⟩ :=
      DeduplicatedQueue.putTask_of_inactive h.holds (Bool.eq_false_iff.2 hactive) ch.now ch.rest
    rw [hput] at hstep
    obtain ⟨rfl, rfl⟩ := Prod.mk.inj (Option.some.inj hstep)
    refine h.set hi hholds ?_ nofun (fun _ => hkeeps.resolve_left hactive) fun _ => .inl hmem
    rw [hprocessing]
    rfl

theorem Reserved.step_refused (h : Reserved config path c) (hi : c.locals[i]? = some .refused)
    (hkeeps : c.shared.queue.isActive path = true → c.shared.inventory.waits config path = true →
      path ∈ c.shared.queue.queued ∨ (c.locals.eraseIdx i).any ReservationPoint.owns = true)
    (hstep : reservationStep config path ch c.shared .refused = some (s', l')) :
    Reserved config path ⟨s', c.locals.set i l'⟩ := by
  rw [reservationStep] at hstep
  obtain ⟨rfl, rfl⟩ := Prod.mk.inj (Option.some.inj hstep)
  by_cases hactive : c.shared.queue.isActive path = true
  · rw [if_pos hactive]
    exact h.set hi h.holds rfl nofun h.queued fun hwaits => (hkeeps hactive hwaits).imp_right .inr
  · rw [if_neg hactive]
    exact h.set hi h.holds rfl nofun h.queued fun _ => .inr (.inl rfl)

theorem Reserved.step_cancelling (h : Reserved config path c) (hi : c.locals[i]? = some .cancelling)
    (hkeeps : path ∉ c.shared.queue.queued)
    (hstep : reservationStep config path ch c.shared .cancelling = some (s', l')) :
    Reserved config path ⟨s', c.locals.set i l'⟩ := by
  have hgone := Inventory.not_waits_cancelItemQueue config c.shared.inventory path
  obtain ⟨rfl, rfl⟩ := Prod.mk.inj (Option.some.inj hstep)
  exact h.set hi h.holds rfl nofun (fun hqueued => absurd hqueued hkeeps) fun hwaits =>
    absurd (hgone.symm.trans hwaits) nofun

theorem Reserved.step_handling {entry : QueueEntry π} (h : Reserved config path c)
    (hi : c.locals[i]? = some (.handling entry))
    (hstep : reservationStep config path ch c.shared (.handling entry) = some (s', l')) :
    Reserved config path ⟨s', c.locals.set i l'⟩ := by
  obtain ⟨-, hqueued⟩ := h.processing_of_works hi rfl
  have hentry := h.entries _ (List.mem_of_getElem? hi) entry rfl
  have hgone := Inventory.not_waits_markItemCompleted config c.shared.inventory entry.path
  rw [hentry] at hgone
  obtain ⟨rfl, rfl⟩ := Prod.mk.inj (Option.some.inj hstep)
  rw [hentry]
  refine h.set hi h.holds rfl (fun e he => Option.some.inj he ▸ hentry) (fun hmem => absurd hmem hqueued) ?_
  exact fun hwaits => absurd (hgone.symm.trans hwaits) nofun

theorem Reserved.step_completed {entry : QueueEntry π} (h : Reserved config path c)
    (hi : c.locals[i]? = some (.completed entry))
    (hstep : reservationStep config path ch c.shared (.completed entry) = some (s', l')) :
    Reserved config path ⟨s', c.locals.set i l'⟩ := by
  obtain ⟨hprocessing, hqueued⟩ := h.processing_of_works hi rfl
  have hentry := h.entries _ (List.mem_of_getElem? hi) entry rfl
  obtain ⟨rfl, rfl⟩ := Prod.mk.inj (Option.some.inj hstep)
  have hgone : path ∉ (markDoneStep c.shared.queue entry).1.processing := by
    rw [markDoneStep, hentry]
    exact Finset.notMem_erase _ _
  refine h.set hi (.inl ⟨?_, hqueued⟩) ?_ nofun h.queued fun hwaits =>
    (h.others hi rfl hwaits).imp_right .inr
  · exact (h.holds.resolve_right fun ⟨_, _, _, hmem, _⟩ => hqueued hmem).1
  · rw [if_neg hgone, if_pos hprocessing]
    rfl

theorem Reserved.step (h : Reserved config path c) (hi : c.locals[i]? = some l)
    (hkeeps : keepsReservation config path c i = true)
    (hstep : reservationStep config path ch c.shared l = some (s', l')) :
    Reserved config path ⟨s', c.locals.set i l'⟩ := by
  rw [keepsReservation, hi] at hkeeps
  cases l with
  | free => exact h.step_free hi hstep
  | checked => exact h.step_checked hi hstep
  | reserved mine => exact h.step_reserved hi (Bool.or_eq_true_iff.1 hkeeps) hstep
  | refused =>
    refine h.step_refused hi (fun hactive hwaits => ?_) hstep
    simpa [hactive, hwaits] using hkeeps
  | cancelling => exact h.step_cancelling hi (of_decide_eq_true hkeeps) hstep
  | handling entry => exact h.step_handling hi hstep
  | completed entry => exact h.step_completed hi hstep

end Step

/-! ## Runs -/

section Runs

/-- An empty queue, and threads that are in no call. -/
def reservationStart (s : Inventory) (n : ℕ) : Config (Reservations π) (ReservationPoint π) :=
  ⟨⟨.new, s⟩, List.replicate n .free⟩

/-- No task is queued or processed, and no thread is inside of a call. -/
def Quiescent (c : Config (Reservations π) (ReservationPoint π)) : Prop :=
  c.shared.queue.queued = ∅ ∧ c.shared.queue.processing = ∅ ∧ ∀ l ∈ c.locals, l.isFree = true

theorem reserved_start {config : InventoryConfig} {path : Text} {s : Inventory}
    (hs : s.waits config path = false) (n : ℕ) :
    Reserved config path (reservationStart (π := π) s n) := by
  have hfree : ∀ l ∈ (reservationStart (π := π) s n).locals, l = .free := fun l hl =>
    List.eq_of_mem_replicate hl
  refine ⟨.inl ⟨rfl, Finset.notMem_empty _⟩, ?_, fun l hl e he => ?_, ?_, fun hwaits => ?_⟩
  · simp [reservationStart, total, ReservationPoint.works, DeduplicatedQueue.new]
  · rw [hfree l hl] at he
    cases he
  · exact fun hmem => absurd hmem (Finset.notMem_empty _)
  · exact absurd (hs.symm.trans hwaits) Bool.false_ne_true

variable [DecidableEq π]

/-- In every run of any threads whose steps keep sight of the reservation: an item that waits in the
    queue waits in the inventory, and no item does in a state in which nothing goes on. -/
theorem reservations_agree {config : InventoryConfig} {path : Text} {s : Inventory}
    (hs : s.waits config path = false) {n : ℕ} {c : Config (Reservations π) (ReservationPoint π)}
    (h : RunsWhen (ofStep (reservationStep config path)) (keepsReservation config path)
      (reservationStart s n) c) :
    (path ∈ c.shared.queue.queued → c.shared.inventory.waits config path = true) ∧
      (Quiescent c → c.shared.inventory.waits config path = false) := by
  have hreserved : Reserved config path c := by
    refine h.invariant (reserved_start hs n) fun c' c'' i l l' hc hkeeps hmoves => ?_
    obtain ⟨ch, hstep⟩ := hmoves.step
    have hnext := hc.step hmoves.thread hkeeps hstep
    rwa [← hmoves.locals] at hnext
  refine ⟨hreserved.queued, fun ⟨hqueued, _, hfree⟩ => ?_⟩
  -- Else the item would have an owner: the queue or a thread that is at work.
  by_contra hwaits
  rcases hreserved.owned (Bool.not_eq_false _ ▸ hwaits) with hmem | ⟨l, hl, howns⟩
  · rw [hqueued] at hmem
    exact absurd hmem (Finset.notMem_empty _)
  · have hfree := hfree l hl
    cases l with
    | free => cases howns
    | _ => cases hfree

end Runs

/-! ## Schedules -/

/-- A call begins. -/
def startsCall : ReservationChoice Unit := ⟨false, false, text "runtime", 0, ()⟩

/-- A worker takes its task. -/
def getsTask : ReservationChoice Unit := ⟨true, false, text "runtime", 0, ()⟩

/-- A task is put, and the item waits in the inventory. -/
theorem reservations_agree_put : ∃ c : Config (Reservations Unit) (ReservationPoint Unit),
    text "/a" ∈ c.shared.queue.queued ∧ c.shared.inventory.waits ⟨true, id⟩ (text "/a") = true := by
  have hexec : (execWhen (keepsReservation ⟨true, id⟩ (text "/a"))
      (reservationStep (π := Unit) ⟨true, id⟩ (text "/a")) (reservationStart .new 2)
      [(0, startsCall), (0, startsCall), (0, startsCall)]).map
      (fun c => decide (text "/a" ∈ c.shared.queue.queued)) = some true := by
    decide +kernel
  obtain ⟨c, hc, hmem⟩ := Option.map_eq_some_iff.1 hexec
  have hqueued := of_decide_eq_true hmem
  have hnew : Inventory.new.waits ⟨true, id⟩ (text "/a") = false := by decide +kernel
  exact ⟨c, hqueued, (reservations_agree hnew (runsWhen_of_execWhen _ hc)).1 hqueued⟩

/-- A thread reserves the path behind the completion of its item, and finds it active as the worker
    has not marked it as done: the item waits for good. Or a thread finds the path reserved by
    another one, and puts its task when that of the other one is done: the task waits alone. -/
theorem reservation_goes_astray :
    (∃ c, Runs (ofStep (reservationStep (π := Unit) ⟨true, id⟩ (text "/a"))) (reservationStart .new 3) c ∧
      Quiescent c ∧ c.shared.inventory.waits ⟨true, id⟩ (text "/a") = true) ∧
    ∃ c, Runs (ofStep (reservationStep (π := Unit) ⟨true, id⟩ (text "/a"))) (reservationStart .new 3) c ∧
      text "/a" ∈ c.shared.queue.queued ∧ c.shared.inventory.waits ⟨true, id⟩ (text "/a") = false := by
  have hlate : (exec (reservationStep (π := Unit) ⟨true, id⟩ (text "/a")) (reservationStart .new 3)
      [(0, startsCall), (1, startsCall), (1, startsCall), (1, startsCall), (2, getsTask), (2, getsTask),
        (0, startsCall), (0, startsCall), (0, startsCall), (2, getsTask)]).map
      (fun c => (c.shared.queue.queued, c.shared.queue.processing, c.locals.map ReservationPoint.isFree,
        c.shared.inventory.waits ⟨true, id⟩ (text "/a"))) = some (∅, ∅, [true, true, true], true) := by
    decide +kernel
  have halone : (exec (reservationStep (π := Unit) ⟨true, id⟩ (text "/a")) (reservationStart .new 3)
      [(0, startsCall), (1, startsCall), (1, startsCall), (0, startsCall), (1, startsCall), (2, getsTask),
        (2, getsTask), (2, getsTask), (0, startsCall)]).map
      (fun c => (c.shared.queue.queued, c.shared.inventory.waits ⟨true, id⟩ (text "/a"))) =
        some ({text "/a"}, false) := by
    decide +kernel
  obtain ⟨c, hc, hstate⟩ := Option.map_eq_some_iff.1 hlate
  obtain ⟨d, hd, hstate'⟩ := Option.map_eq_some_iff.1 halone
  simp only [Prod.mk.injEq] at hstate hstate'
  refine ⟨⟨c, runs_of_exec _ hc fun a _ _ _ _ h => ⟨a, h⟩, ⟨hstate.1, hstate.2.1, ?_⟩, hstate.2.2.2⟩,
    d, runs_of_exec _ hd fun a _ _ _ _ h => ⟨a, h⟩, ?_, hstate'.2⟩
  · intro l hl
    have hfree : l.isFree ∈ c.locals.map ReservationPoint.isFree := List.mem_map_of_mem hl
    rw [hstate.2.2.1] at hfree
    simpa using hfree
  · rw [hstate'.1]
    exact Finset.mem_singleton_self _

end Subgen

import Subgen.Queue.Tracking
import Subgen.Queue.Uploads

/-!
# Every upload is answered

Any number of requests and of workers. The table of the results and the tasks of the queue are
changed under different locks; `Answered` says how they go together.

* `Answered.carried`: the table has the container of every task that is queued or processed;
* `Answered.kept`: what is in the table belongs to such a task, to a request that has not put its
  task yet, or to a worker that will remove it;
* `uploads_answered`: in every run whose steps go well, the result that a request waits for is that of
  a task, and nothing stays in the table;
* `upload_hangs`: a run with a step that does not.
-/

namespace Subgen

open Interleaving

/-- A step that goes well. -/
inductive UploadMove (u : Uploads) : UploadPoint → Uploads → UploadPoint → Prop
  | requests (upload : Upload) (hloop : u.loop = false) :
      UploadMove u .idle { u with results := (u.results.lookUp upload.taskId).1, loop := true }
        (.lookedUp upload.taskId (u.results.lookUp upload.taskId).2)
  | attaches (taskId : Text) (result : ℕ) (hlock : u.queue.lock = false)
      (hactive : u.queue.isActive taskId = true) :
      UploadMove u (.lookedUp taskId result) { u with loop := false } (.waiting taskId result)
  | puts (e : QueueEntry ℕ) {queue : DeduplicatedQueue ℕ}
      (hmove : QueueMove u.queue .free queue (.adding e.path none))
      (hqueue : queue.queue.toList.Perm (e :: u.queue.queue.toList))
      (hdone : e.resultContainer ∉ u.results.done) :
      UploadMove u (.lookedUp e.path e.resultContainer) { u with queue := queue }
        (.putting e.path e.resultContainer)
  | adds (taskId : Text) (result : ℕ) :
      UploadMove u (.putting taskId result)
        { u with queue := (addStep u.queue taskId none).1, loop := false } (.waiting taskId result)
  | waits (taskId : Text) (result : ℕ) : UploadMove u (.waiting taskId result) u (.leaving taskId)
  | leaves (taskId : Text) : UploadMove u (.leaving taskId) u .idle
  | enters (taskId : Text) (hloop : u.loop = false) (hlock : u.queue.lock = false)
      (hactive : u.queue.isActive taskId = false) :
      UploadMove u (.leaving taskId) { u with loop := true } (.popping taskId)
  | pops (taskId : Text) :
      UploadMove u (.popping taskId) { u with results := u.results.cleanup taskId, loop := false } .idle
  | finds : UploadMove u .idle u .idle
  | gets {e : QueueEntry ℕ} {queue : DeduplicatedQueue ℕ}
      (hmove : QueueMove u.queue .free queue (.moving e))
      (hqueue : u.queue.queue.toList.Perm (e :: queue.queue.toList)) :
      UploadMove u .idle { u with queue := queue } (.moving e)
  | moves (e : QueueEntry ℕ) (hlock : u.queue.lock = false) :
      UploadMove u (.moving e) { u with queue := (moveStep u.queue e).1 } (.handling e)
  | answers (e : QueueEntry ℕ) :
      UploadMove u (.handling e) { u with results := u.results.set e.resultContainer } (.answered e)
  | marks (e : QueueEntry ℕ) (hlock : u.queue.lock = false) :
      UploadMove u (.answered e) { u with queue := (markDoneStep u.queue e).1 } (.finished e)
  | cleans (e : QueueEntry ℕ)
      (halone : ∀ result, u.results.table e.path = some result → result ∈ u.results.done →
        u.queue.isActive e.path = false) :
      UploadMove u (.finished e) { u with results := u.results.cleanup e.path } .idle

section Move

variable {u u' : Uploads} {l l' : UploadPoint}

theorem uploadMove_put {taskId : Text} {result : ℕ} {now : ℚ}
    (happart : u.queue.queue.toList.Pairwise QueueEntry.Apart) (hlock : u.queue.lock = false)
    (hwell : (UploadChoice.clock now).goesWell u (.lookedUp taskId result) = true) :
    UploadMove u (.lookedUp taskId result) (putUpload u taskId result now).1
      (putUpload u taskId result now).2 := by
  obtain ⟨hticks, hdone⟩ := Bool.and_eq_true_iff.1 hwell
  rw [putUpload]
  rcases putStep_cases none happart hticks with
    ⟨hactive, heq⟩ | ⟨hactive, e, queue, hitem, hticket, hapart, hqueue, heq⟩
  · rw [heq, if_pos hactive]
    exact .attaches taskId result hlock hactive
  · have hpath : e.path = taskId := congrArg QueueTask.path hitem
    have hresult : e.resultContainer = result := congrArg QueueTask.rest hitem
    have hundone : e.resultContainer ∉ u.results.done := by
      simpa [hresult, hactive] using hdone
    subst hpath hresult
    rw [heq]
    exact .puts e (.pushes e _ none hlock hactive hticket hapart hqueue) hqueue hundone

theorem uploadMove_get (happart : u.queue.queue.toList.Pairwise QueueEntry.Apart) :
    UploadMove u .idle (getUpload u).1 (getUpload u).2 := by
  rw [getUpload]
  rcases getStep_cases happart with ⟨-, heq⟩ | ⟨e, queue, hqueue, heq⟩
  · rw [heq]
    exact .finds
  · rw [heq]
    exact .gets (.pops hqueue) hqueue

theorem uploadMove_of_wellStep (happart : u.queue.queue.toList.Pairwise QueueEntry.Apart)
    (h : ofStep wellStep u l u' l') : UploadMove u l u' l' := by
  obtain ⟨ch, h⟩ := h
  obtain ⟨hwell, h⟩ := Option.ite_none_right_eq_some.1 h
  cases l with
  | idle =>
    cases ch with
    | request upload =>
      obtain ⟨hloop, h⟩ := Option.ite_none_left_eq_some.1 h
      obtain ⟨rfl, rfl⟩ := Prod.mk.inj (Option.some.inj h)
      exact .requests upload (Bool.eq_false_of_not_eq_true hloop)
    | get =>
      have hmove := uploadMove_get happart
      rwa [Option.some.inj h] at hmove
    | clock | timeOut | proceed => cases h
  | lookedUp taskId result =>
    cases ch with
    | clock now =>
      obtain ⟨hlock, h⟩ := Option.ite_none_left_eq_some.1 h
      have hmove := uploadMove_put happart (Bool.eq_false_of_not_eq_true hlock) hwell
      rwa [Option.some.inj h] at hmove
    | request | get | timeOut | proceed => cases h
  | putting taskId result =>
    obtain ⟨rfl, rfl⟩ := Prod.mk.inj (Option.some.inj h)
    exact .adds taskId result
  | waiting taskId result =>
    -- Whether the wait timed out or was woken, the request gets up in the same way.
    have hleaves : u = u' ∧ UploadPoint.leaving taskId = l' := by
      cases ch with
      | timeOut => exact Prod.mk.inj (Option.some.inj h)
      | request | get | clock | proceed =>
        exact Prod.mk.inj (Option.some.inj (Option.ite_none_right_eq_some.1 h).2)
    obtain ⟨rfl, rfl⟩ := hleaves
    exact .waits taskId result
  | leaving taskId =>
    obtain ⟨hfree, h⟩ := Option.ite_none_left_eq_some.1 h
    obtain ⟨hloop, hlock⟩ := not_or.1 (mt Bool.or_eq_true_iff.2 hfree)
    split at h
    · obtain ⟨rfl, rfl⟩ := Prod.mk.inj (Option.some.inj h)
      exact .leaves taskId
    · next hactive =>
      obtain ⟨rfl, rfl⟩ := Prod.mk.inj (Option.some.inj h)
      exact .enters taskId (Bool.eq_false_of_not_eq_true hloop) (Bool.eq_false_of_not_eq_true hlock)
        (Bool.eq_false_of_not_eq_true hactive)
  | popping taskId =>
    obtain ⟨rfl, rfl⟩ := Prod.mk.inj (Option.some.inj h)
    exact .pops taskId
  | moving e =>
    obtain ⟨hlock, h⟩ := Option.ite_none_left_eq_some.1 h
    obtain ⟨rfl, rfl⟩ := Prod.mk.inj (Option.some.inj h)
    exact .moves e (Bool.eq_false_of_not_eq_true hlock)
  | handling e =>
    obtain ⟨rfl, rfl⟩ := Prod.mk.inj (Option.some.inj h)
    exact .answers e
  | answered e =>
    obtain ⟨hlock, h⟩ := Option.ite_none_left_eq_some.1 h
    obtain ⟨rfl, rfl⟩ := Prod.mk.inj (Option.some.inj h)
    exact .marks e (Bool.eq_false_of_not_eq_true hlock)
  | finished e =>
    obtain ⟨rfl, rfl⟩ := Prod.mk.inj (Option.some.inj h)
    -- What goes well is exactly that the result is set before it is dropped.
    refine .cleans e fun result hresult hdone => ?_
    simpa [UploadChoice.goesWell, hresult, hdone] using hwell

/-- What a step is in the queue. -/
theorem UploadMove.queueMove (h : UploadMove u l u' l') :
    QueueMove u.queue l.thread u'.queue l'.thread := by
  cases h with
  | puts e hmove | gets hmove => exact hmove
  | adds taskId => exact .adds taskId none
  | moves e hlock => exact .moves e hlock
  | marks e hlock => exact .marks e hlock
  | requests | attaches | waits | leaves | enters | pops | finds | answers | cleans => exact .stays _

end Move

/-! ## The results and the tasks -/

/-- What a point means for the results, if `active` are the tasks that are queued or processed. -/
def UploadPoint.Sound (r : TaskResults) (active : Multiset (QueueEntry ℕ)) : UploadPoint → Prop
  | lookedUp taskId result => result ∈ r.done ∨ r.table taskId = some result
  | putting taskId result => result ∉ r.done ∧ r.table taskId = some result
  | waiting taskId result =>
    result ∈ r.done ∨ ∃ e ∈ active, e.path = taskId ∧ e.resultContainer = result
  | popping taskId => ∀ e ∈ active, e.path ≠ taskId
  | answered e => e.resultContainer ∈ r.done
  | _ => True

/-- What belongs to an entry of the table: a task, a request that has not put one yet, or a worker
    that will remove it. -/
def EntryKept (r : TaskResults) (active : Multiset (QueueEntry ℕ)) (ls : List UploadPoint) (taskId : Text)
    (result : ℕ) : Prop :=
  (∃ e ∈ active, e.path = taskId) ∨ (result ∉ r.done ∧ .lookedUp taskId result ∈ ls) ∨
    (result ∈ r.done ∧ ∃ e, .finished e ∈ ls ∧ e.path = taskId)

/-- The results belong to active entries or are answered. -/
structure Answered (r : TaskResults) (active : Multiset (QueueEntry ℕ)) (ls : List UploadPoint) :
    Prop where
  made : ∀ taskId result, r.table taskId = some result → result < r.made ∧ taskId ≠ []
  doneMade : ∀ result ∈ r.done, result < r.made
  unique : ∀ taskId taskId' result, r.table taskId = some result → r.table taskId' = some result →
    taskId = taskId'
  carried : ∀ e ∈ active, r.table e.path = some e.resultContainer
  kept : ∀ taskId result, r.table taskId = some result → EntryKept r active ls taskId result
  points : ∀ l ∈ ls, l.Sound r active

namespace Answered

variable {r : TaskResults} {active active' : Multiset (QueueEntry ℕ)} {ls : List UploadPoint} {i : ℕ}
  {l l' : UploadPoint} {taskId : Text} {result : ℕ} {e : QueueEntry ℕ}

theorem start (n : ℕ) : Answered .empty 0 (List.replicate n .idle) where
  made _ _ h := by cases h
  doneMade _ h := absurd h (Finset.notMem_empty _)
  unique _ _ _ h := by cases h
  carried _ h := absurd h (Multiset.notMem_zero _)
  kept _ _ h := by cases h
  points l hl := by
    rw [List.eq_of_mem_replicate hl]
    trivial

/-- Another thread is where it was. -/
theorem mem_set {m : UploadPoint} (hthread : ls[i]? = some l) (hm : m ∈ ls) (hne : m ≠ l) :
    m ∈ ls.set i l' := by
  obtain ⟨j, hj⟩ := List.mem_iff_getElem?.1 hm
  have hij : i ≠ j := by
    rintro rfl
    exact hne (Option.some.inj (hj.symm.trans hthread))
  exact List.mem_of_getElem? ((List.getElem?_set_ne hij).trans hj)

/-- What is kept stays so if the thread that moves was not the one that kept it. -/
theorem kept_set (h : EntryKept r active ls taskId result) (hthread : ls[i]? = some l)
    (hlooked : l ≠ .lookedUp taskId result) (hfinished : ∀ e, l = .finished e → e.path ≠ taskId) :
    EntryKept r active (ls.set i l') taskId result := by
  rcases h with hactive | ⟨hdone, hmem⟩ | ⟨hdone, e, hmem, hpath⟩
  · exact .inl hactive
  · exact .inr (.inl ⟨hdone, mem_set hthread hmem hlooked.symm⟩)
  · refine .inr (.inr ⟨hdone, e, mem_set hthread hmem ?_, hpath⟩)
    rintro rfl
    exact hfinished e rfl hpath

/-- A step that changes neither the results nor the tasks. -/
theorem move (h : Answered r active ls) (hthread : ls[i]? = some l) (hsound : l'.Sound r active)
    (hlooked : ∀ taskId result, l ≠ .lookedUp taskId result) (hfinished : ∀ e, l ≠ .finished e) :
    Answered r active (ls.set i l') where
  made := h.made
  doneMade := h.doneMade
  unique := h.unique
  carried := h.carried
  kept taskId result htable := kept_set (h.kept taskId result htable) hthread (hlooked _ _)
    fun e he => absurd he (hfinished e)
  points := forall_mem_set hsound fun _ m _ hm => h.points m (List.mem_of_getElem? hm)

/-- A request looks up its result. -/
theorem lookUp (h : Answered r active ls) (hthread : ls[i]? = some .idle) (htaskId : taskId ≠ []) :
    Answered (r.lookUp taskId).1 active (ls.set i (.lookedUp taskId (r.lookUp taskId).2)) := by
  rw [TaskResults.lookUp]
  split
  · next result hresult => exact h.move hthread (.inr hresult) (fun _ _ => nofun) fun _ => nofun
  · next hnone =>
    -- A new result is entered under the identity; every other entry stays.
    have hold : ∀ taskId', taskId' ≠ taskId →
        Function.update r.table taskId (some r.made) taskId' = r.table taskId' :=
      fun taskId' hne => Function.update_of_ne hne _ _
    have hnew : Function.update r.table taskId (some r.made) taskId = some r.made :=
      Function.update_self _ _ _
    -- The number is new, so that nobody has set it.
    have hfresh : r.made ∉ r.done := fun hmem => lt_irrefl _ (h.doneMade _ hmem)
    have hentry : ∀ taskId' result, Function.update r.table taskId (some r.made) taskId' = some result →
        taskId' = taskId ∧ result = r.made ∨ taskId' ≠ taskId ∧ r.table taskId' = some result := by
      intro taskId' result htable
      by_cases heq : taskId' = taskId
      · rw [heq, hnew] at htable
        exact .inl ⟨heq, (Option.some.inj htable).symm⟩
      · rw [hold _ heq] at htable
        exact .inr ⟨heq, htable⟩
    refine ⟨fun taskId' result htable => ?_, fun result hdone => (h.doneMade result hdone).trans
      (Nat.lt_succ_self _), fun taskId₁ taskId₂ result h₁ h₂ => ?_, fun e he => ?_,
      fun taskId' result htable => ?_, ?_⟩
    · rcases hentry _ _ htable with ⟨rfl, rfl⟩ | ⟨-, htable⟩
      · exact ⟨Nat.lt_succ_self _, htaskId⟩
      · exact ⟨(h.made _ _ htable).1.trans (Nat.lt_succ_self _), (h.made _ _ htable).2⟩
    · rcases hentry _ _ h₁ with ⟨heq₁, hmade⟩ | ⟨-, hold₁⟩ <;>
        rcases hentry _ _ h₂ with ⟨heq₂, hmade'⟩ | ⟨-, hold₂⟩
      · exact heq₁.trans heq₂.symm
      · exact absurd (hmade ▸ (h.made _ _ hold₂).1) (lt_irrefl _)
      · exact absurd (hmade' ▸ (h.made _ _ hold₁).1) (lt_irrefl _)
      · exact h.unique _ _ _ hold₁ hold₂
    · -- An entry that is carried has a result, so it is not the one that is looked up.
      have hcarried := h.carried e he
      refine (hold _ fun heq => ?_).trans hcarried
      rw [heq, hnone] at hcarried
      cases hcarried
    · rcases hentry _ _ htable with ⟨rfl, rfl⟩ | ⟨-, htable⟩
      · refine .inr (.inl ⟨hfresh, ?_⟩)
        obtain ⟨hlt, -⟩ := List.getElem?_eq_some_iff.1 hthread
        exact List.mem_set hlt _
      · exact kept_set (h.kept _ _ htable) hthread nofun nofun
    · -- The other threads point at entries that are older.
      refine forall_mem_set (.inr hnew) fun _ m _ hm => ?_
      have hsound := h.points m (List.mem_of_getElem? hm)
      have hne : ∀ taskId' result, r.table taskId' = some result → taskId' ≠ taskId := by
        rintro _ result hsome rfl
        cases hnone.symm.trans hsome
      cases m with
      | lookedUp taskId' result =>
        exact hsound.imp_right fun hsome => (hold _ (hne _ _ hsome)).trans hsome
      | putting taskId' result => exact ⟨hsound.1, (hold _ (hne _ _ hsound.2)).trans hsound.2⟩
      | idle | waiting | leaving | popping | moving | handling | answered | finished => exact hsound

/-- A put that is refused. The result that was looked up is that of the task in the queue, or done. -/
theorem attach (h : Answered r active ls) (hthread : ls[i]? = some (.lookedUp taskId result))
    (hactive : ∃ e ∈ active, e.path = taskId) :
    Answered r active (ls.set i (.waiting taskId result)) where
  made := h.made
  doneMade := h.doneMade
  unique := h.unique
  carried := h.carried
  kept taskId' result' htable := by
    by_cases heq : taskId' = taskId
    · exact .inl (heq ▸ hactive)
    · exact kept_set (h.kept _ _ htable) hthread (fun hl => heq (UploadPoint.lookedUp.inj hl).1.symm)
        nofun
  points := by
    refine forall_mem_set ?_ fun _ m _ hm => h.points m (List.mem_of_getElem? hm)
    rcases h.points _ (List.mem_of_getElem? hthread) with hdone | htable
    · exact .inl hdone
    · obtain ⟨e, he, rfl⟩ := hactive
      exact .inr ⟨e, he, rfl, Option.some.inj ((h.carried e he).symm.trans htable)⟩

/-- A put that is accepted: the request is alone on the event loop. -/
theorem put (h : Answered r active ls)
    (hthread : ls[i]? = some (.lookedUp e.path e.resultContainer)) (hdone : e.resultContainer ∉ r.done)
    (halone : ∀ j m, j ≠ i → ls[j]? = some m → m.holdsLoop = 0) :
    Answered r (e ::ₘ active) (ls.set i (.putting e.path e.resultContainer)) := by
  have htable : r.table e.path = some e.resultContainer :=
    (h.points _ (List.mem_of_getElem? hthread)).resolve_left hdone
  have hmem : ∀ {e'}, e' ∈ active → e' ∈ e ::ₘ active := Multiset.mem_cons_of_mem
  refine ⟨h.made, h.doneMade, h.unique, fun e' he' => ?_, fun taskId result hsome => ?_, ?_⟩
  · rcases Multiset.mem_cons.1 he' with rfl | he'
    · exact htable
    · exact h.carried e' he'
  · by_cases heq : e.path = taskId
    · exact .inl ⟨e, Multiset.mem_cons_self _ _, heq⟩
    · refine (kept_set (h.kept _ _ hsome) hthread
        (fun hl => heq (UploadPoint.lookedUp.inj hl).1) nofun).imp_left ?_
      exact fun ⟨e', he', hpath⟩ => ⟨e', hmem he', hpath⟩
  · refine forall_mem_set ⟨hdone, htable⟩ fun j m hj hm => ?_
    have hsound := h.points m (List.mem_of_getElem? hm)
    cases m with
    | waiting taskId result =>
      exact hsound.imp_right fun ⟨e', he', heq⟩ => ⟨e', hmem he', heq⟩
    | popping taskId => cases halone j _ hj hm
    | idle | lookedUp | putting | leaving | moving | handling | answered | finished => exact hsound

/-- `cleanup_task_result`, of a request or of a worker. No task has the result that it removes. -/
theorem cleanup (h : Answered r active ls) (hthread : ls[i]? = some l)
    (hlooked : ∀ taskId result, l ≠ .lookedUp taskId result)
    (hfinished : ∀ e, l = .finished e → e.path = taskId)
    (hinactive : ∀ result, r.table taskId = some result → result ∈ r.done →
      ∀ e ∈ active, e.path ≠ taskId) :
    Answered (r.cleanup taskId) active (ls.set i .idle) := by
  by_cases hremoved : ∃ result, r.table taskId = some result ∧ result ∈ r.done
  · obtain ⟨result, hresult, hdone⟩ := hremoved
    rw [TaskResults.cleanup, if_neg (h.made _ _ hresult).2, hresult]
    simp only [if_pos hdone]
    have hentry : ∀ taskId' result', Function.update r.table taskId none taskId' = some result' →
        taskId' ≠ taskId ∧ r.table taskId' = some result' := by
      intro taskId' result' hsome
      by_cases heq : taskId' = taskId
      · rw [heq, Function.update_self] at hsome
        cases hsome
      · rw [Function.update_of_ne heq] at hsome
        exact ⟨heq, hsome⟩
    have hkept : ∀ taskId' result', r.table taskId' = some result' → taskId' ≠ taskId →
        Function.update r.table taskId none taskId' = some result' :=
      fun taskId' result' hsome hne => (Function.update_of_ne hne _ _).trans hsome
    -- A result that is not done is not the one that was removed.
    have hundone : ∀ taskId' result', r.table taskId' = some result' → result' ∉ r.done →
        taskId' ≠ taskId := by
      rintro _ result' hsome hdone' rfl
      exact hdone' (Option.some.inj (hresult.symm.trans hsome) ▸ hdone)
    refine ⟨fun taskId' result' hsome => h.made _ _ (hentry _ _ hsome).2, h.doneMade,
      fun _ _ _ h₁ h₂ => h.unique _ _ _ (hentry _ _ h₁).2 (hentry _ _ h₂).2,
      fun e he => hkept _ _ (h.carried e he) (hinactive result hresult hdone e he),
      fun taskId' result' hsome => ?_, forall_mem_set trivial fun _ m _ hm => ?_⟩
    · obtain ⟨hne, hsome⟩ := hentry _ _ hsome
      exact kept_set (h.kept _ _ hsome) hthread (hlooked _ _) fun e he hpath =>
        hne (hpath.symm.trans (hfinished e he))
    · have hsound := h.points m (List.mem_of_getElem? hm)
      cases m with
      | lookedUp taskId' result' =>
        by_cases hdone' : result' ∈ r.done
        · exact .inl hdone'
        · have hsome := hsound.resolve_left hdone'
          exact .inr (hkept _ _ hsome (hundone _ _ hsome hdone'))
      | putting taskId' result' =>
        exact ⟨hsound.1, hkept _ _ hsound.2 (hundone _ _ hsound.2 hsound.1)⟩
      | idle | waiting | leaving | popping | moving | handling | answered | finished => exact hsound
  · have hnothing : r.cleanup taskId = r := by
      rw [TaskResults.cleanup]
      split
      · rfl
      · split
        · next result hresult => exact if_neg fun hdone => hremoved ⟨result, hresult, hdone⟩
        · rfl
    rw [hnothing]
    refine ⟨h.made, h.doneMade, h.unique, h.carried, fun taskId' result' hsome => ?_,
      forall_mem_set trivial fun _ m _ hm => h.points m (List.mem_of_getElem? hm)⟩
    by_cases heq : taskId' = taskId
    · -- The result is not done, so that no worker that is finished keeps it.
      have hdone : result' ∉ r.done := fun hdone => hremoved ⟨result', heq ▸ hsome, hdone⟩
      rcases h.kept _ _ hsome with hactive | ⟨-, hmem⟩ | ⟨hdone', -⟩
      · exact .inl hactive
      · exact .inr (.inl ⟨hdone, mem_set hthread hmem (hlooked _ _).symm⟩)
      · exact absurd hdone' hdone
    · exact kept_set (h.kept _ _ hsome) hthread (hlooked _ _) fun e he hpath =>
        heq (hpath.symm.trans (hfinished e he))

/-- A worker sets the result of its task. -/
theorem answer (h : Answered r active ls) (hthread : ls[i]? = some (.handling e)) (he : e ∈ active)
    (hput : .putting e.path e.resultContainer ∉ ls) :
    Answered (r.set e.resultContainer) active (ls.set i (.answered e)) := by
  have hdone : ∀ result, result ∈ (r.set e.resultContainer).done ↔
      result = e.resultContainer ∨ result ∈ r.done := fun _ => Finset.mem_insert
  have hpath : ∀ taskId, r.table taskId = some e.resultContainer → e.path = taskId :=
    fun taskId hsome => h.unique _ _ _ (h.carried e he) hsome
  refine ⟨h.made, fun result hmem => ?_, h.unique, h.carried, fun taskId result hsome => ?_,
    forall_mem_set ((hdone _).2 (.inl rfl)) fun _ m _ hm => ?_⟩
  · rcases (hdone _).1 hmem with rfl | hmem
    · exact (h.made _ _ (h.carried e he)).1
    · exact h.doneMade _ hmem
  · by_cases hresult : result = e.resultContainer
    · exact .inl ⟨e, he, hpath _ (hresult ▸ hsome)⟩
    · rcases kept_set (h.kept _ _ hsome) hthread nofun nofun with hactive | ⟨hundone, hmem⟩ | ⟨hmem, hrest⟩
      · exact .inl hactive
      · exact .inr (.inl ⟨fun hmem => ((hdone _).1 hmem).elim hresult hundone, hmem⟩)
      · exact .inr (.inr ⟨(hdone _).2 (.inr hmem), hrest⟩)
  · have hmem := List.mem_of_getElem? hm
    have hsound := h.points m hmem
    have hold : ∀ {result}, result ∈ r.done → result ∈ (r.set e.resultContainer).done :=
      fun hmem => (hdone _).2 (.inr hmem)
    cases m with
    | lookedUp | waiting => exact hsound.imp_left hold
    | putting taskId result =>
      refine ⟨fun hmem' => ?_, hsound.2⟩
      rcases (hdone _).1 hmem' with rfl | hmem'
      · exact hput (hpath _ hsound.2 ▸ hmem)
      · exact hsound.1 hmem'
    | answered => exact hold hsound
    | idle | leaving | popping | moving | handling | finished => exact hsound

/-- A worker marks its task as done. -/
theorem mark (h : Answered r (e ::ₘ active) ls) (hthread : ls[i]? = some (.answered e)) :
    Answered r active (ls.set i (.finished e)) := by
  have hdone : e.resultContainer ∈ r.done := h.points _ (List.mem_of_getElem? hthread)
  have hmem : ∀ {e'}, e' ∈ active → e' ∈ e ::ₘ active := Multiset.mem_cons_of_mem
  refine ⟨h.made, h.doneMade, h.unique, fun e' he' => h.carried e' (hmem he'),
    fun taskId result hsome => ?_, forall_mem_set trivial fun _ m _ hm => ?_⟩
  · by_cases hpath : e.path = taskId
    · have hresult := Option.some.inj ((hpath ▸ h.carried e (Multiset.mem_cons_self _ _)).symm.trans hsome)
      obtain ⟨hlt, -⟩ := List.getElem?_eq_some_iff.1 hthread
      exact .inr (.inr ⟨hresult ▸ hdone, e, List.mem_set hlt _, hpath⟩)
    · refine (kept_set (h.kept _ _ hsome) hthread nofun nofun).imp_left ?_
      rintro ⟨e', he', rfl⟩
      rcases Multiset.mem_cons.1 he' with rfl | he'
      · exact absurd rfl hpath
      · exact ⟨e', he', rfl⟩
  · have hsound := h.points m (List.mem_of_getElem? hm)
    cases m with
    | waiting taskId result =>
      rcases hsound with hmem | ⟨e', he', hpath, hresult⟩
      · exact .inl hmem
      · rcases Multiset.mem_cons.1 he' with rfl | he'
        · exact .inl (hresult ▸ hdone)
        · exact .inr ⟨e', he', hpath, hresult⟩
    | popping taskId => exact fun e' he' => hsound e' (hmem he')
    | idle | lookedUp | putting | leaving | moving | handling | answered | finished => exact hsound

end Answered

/-! ## Runs -/

/-- The queue and the results, with the threads that use them. -/
abbrev UploadConfig := Config Uploads UploadPoint

/-- Requests and workers that have not begun yet. -/
def startUploads (n : ℕ) : UploadConfig := ⟨⟨.new, .empty, false⟩, List.replicate n .idle⟩

/-- The queue and its threads. -/
def queueOf (c : UploadConfig) : QueueConfig ℕ := c.map Uploads.queue UploadPoint.thread

/-- The tasks that are queued or processed. -/
def unfinished (c : UploadConfig) : Multiset (QueueEntry ℕ) :=
  waiting (queueOf c) + processed (queueOf c)

section Unfinished

variable {c c' : UploadConfig} {i : ℕ} {l l' : UploadPoint} {e : QueueEntry ℕ}

theorem queue_moves (h : Moves UploadMove c c' i l l') :
    Moves QueueMove (queueOf c) (queueOf c') i l.thread l'.thread :=
  h.map fun _ _ _ _ => UploadMove.queueMove

theorem unfinished_of_eq (h : Moves UploadMove c c' i l l')
    (htransit : l'.thread.transit = l.thread.transit) (hhandled : l'.thread.handled = l.thread.handled)
    (hqueue : c'.shared.queue.queue = c.shared.queue.queue) : unfinished c' = unfinished c := by
  obtain ⟨hthread, -, hlocals⟩ := queue_moves h
  rw [unfinished, unfinished, waiting_of_eq hthread hlocals htransit hqueue,
    processed_of_eq hthread hlocals hhandled]

theorem unfinished_put {taskId : Text} {result : ℕ}
    (h : Moves UploadMove c c' i (.lookedUp taskId result) (.putting taskId result))
    (hqueue : c'.shared.queue.queue.toList.Perm (e :: c.shared.queue.queue.toList)) :
    unfinished c' = e ::ₘ unfinished c := by
  obtain ⟨hthread, -, hlocals⟩ := queue_moves h
  rw [unfinished, unfinished, waiting_push hthread hlocals rfl hqueue,
    processed_of_eq hthread hlocals rfl, Multiset.cons_add]

theorem unfinished_get (h : Moves UploadMove c c' i .idle (.moving e))
    (hqueue : c.shared.queue.queue.toList.Perm (e :: c'.shared.queue.queue.toList)) :
    unfinished c' = unfinished c := by
  obtain ⟨hthread, -, hlocals⟩ := queue_moves h
  rw [unfinished, unfinished, waiting_pop hthread hlocals hqueue, processed_of_eq hthread hlocals rfl]

theorem unfinished_move (h : Moves UploadMove c c' i (.moving e) (.handling e))
    (hqueue : c'.shared.queue.queue = c.shared.queue.queue) : unfinished c' = unfinished c := by
  obtain ⟨hthread, -, hlocals⟩ := queue_moves h
  rw [unfinished, unfinished, waiting_move hthread hlocals hqueue, processed_move hthread hlocals,
    Multiset.add_cons, Multiset.cons_add]

theorem unfinished_mark (h : Moves UploadMove c c' i (.answered e) (.finished e))
    (hqueue : c'.shared.queue.queue = c.shared.queue.queue) : unfinished c = e ::ₘ unfinished c' := by
  obtain ⟨hthread, -, hlocals⟩ := queue_moves h
  rw [unfinished, unfinished, waiting_of_eq hthread hlocals rfl hqueue,
    processed_mark hthread hlocals, Multiset.add_cons]

end Unfinished

/-- One event loop, free or held by a request. -/
def OneLoop (c : UploadConfig) : Prop :=
  Conserved UploadPoint.holdsLoop (fun u : Uploads => if u.loop then 0 else 1) 1 c

theorem OneLoop.moves {c c' : UploadConfig} {i : ℕ} {l l' : UploadPoint} (h : OneLoop c)
    (hmoves : Moves UploadMove c c' i l l') : OneLoop c' := by
  have hheld : l.holdsLoop = 1 → c.shared.loop = true := by
    intro hl
    have hle := held_le_total UploadPoint.holdsLoop hmoves.thread
    rw [OneLoop, Conserved] at h
    by_contra hloop
    rw [if_neg hloop] at h
    omega
  refine Conserved.moves h hmoves ?_
  obtain ⟨u', ls'⟩ := c'
  obtain ⟨-, hstep, -⟩ := hmoves
  cases hstep with
  | requests upload hloop | enters taskId hloop => simp [hloop, UploadPoint.holdsLoop]
  | attaches | adds | pops => simp [hheld rfl, UploadPoint.holdsLoop]
  | puts | waits | leaves | finds | gets | moves | answers | marks | cleans => rfl

/-- The invariant of all runs. -/
structure AllAnswered (c : UploadConfig) : Prop where
  tracked : Tracked (queueOf c)
  loop : OneLoop c
  answered : Answered c.shared.results (unfinished c) c.locals

theorem allAnswered_start (n : ℕ) : AllAnswered (startUploads n) := by
  have hqueue : queueOf (startUploads n) = startQueue ℕ n := by
    rw [queueOf, startUploads, startQueue, Config.map, List.map_replicate]
    rfl
  have htracked : Tracked (queueOf (startUploads n)) := hqueue ▸ tracked_start n
  have hunfinished : unfinished (startUploads n) = 0 := by
    simp [unfinished, hqueue, waiting, processed, gathered, startQueue, DeduplicatedQueue.new,
      QueueThread.transit, QueueThread.handled]
  refine ⟨htracked, ?_, hunfinished ▸ .start n⟩
  simp [OneLoop, Conserved, startUploads, total, UploadPoint.holdsLoop]

namespace AllAnswered

variable {c c' : UploadConfig} {i : ℕ} {l l' : UploadPoint} {taskId : Text} {e : QueueEntry ℕ}

/-- A task is active, or a request is adding it. -/
theorem exists_path_iff (h : AllAnswered c) : (∃ e ∈ unfinished c, e.path = taskId) ↔
    c.shared.queue.isActive taskId = true ∨ ∃ result, .putting taskId result ∈ c.locals := by
  refine h.tracked.accounts.exists_path_iff.trans (or_congr_right ?_)
  rw [mem_gathered]
  constructor
  · rintro ⟨t, ht, hpending⟩
    obtain ⟨l, hl, rfl⟩ := List.mem_map.1 ht
    cases l with
    | putting taskId' result =>
      obtain rfl := Multiset.mem_singleton.1 hpending
      exact ⟨result, hl⟩
    | idle | lookedUp | waiting | leaving | popping | moving | handling | answered | finished =>
      exact absurd hpending (Multiset.notMem_zero _)
  · rintro ⟨result, hl⟩
    exact ⟨_, List.mem_map_of_mem hl, Multiset.mem_singleton_self _⟩

theorem of_inactive (h : AllAnswered c) (hactive : c.shared.queue.isActive taskId = false)
    (hputting : ∀ result, .putting taskId result ∉ c.locals) :
    ∀ e ∈ unfinished c, e.path ≠ taskId := by
  intro e he hpath
  rcases h.exists_path_iff.1 ⟨e, he, hpath⟩ with hactive' | ⟨result, hmem⟩
  · rw [hactive] at hactive'
    cases hactive'
  · exact hputting result hmem

/-- A task that is processed is in the queue, and not being added. -/
theorem not_putting (h : AllAnswered c) (hthread : c.locals[i]? = some (.handling e)) (result : ℕ) :
    .putting e.path result ∉ c.locals := by
  intro hmem
  have hpending : e.path ∈ gathered QueueThread.pending (queueOf c).locals :=
    mem_gathered.2 ⟨_, List.mem_map_of_mem hmem, Multiset.mem_singleton_self _⟩
  have hwaiting : e.path ∈ (waiting (queueOf c)).map QueueEntry.path := by
    rw [← h.tracked.accounts.queued]
    exact Multiset.mem_add.2 (.inr hpending)
  have hprocessed : e ∈ processed (queueOf c) :=
    mem_gathered.2 ⟨_, List.mem_map_of_mem (List.mem_of_getElem? hthread), Multiset.mem_singleton_self _⟩
  have hnodup := h.tracked.accounts.nodup
  rw [Multiset.map_add, Multiset.nodup_add] at hnodup
  exact Multiset.disjoint_left.1 hnodup.2.2 hwaiting (Multiset.mem_map_of_mem _ hprocessed)

theorem moves (h : AllAnswered c) (hmoves : Moves UploadMove c c' i l l') : AllAnswered c' := by
  refine ⟨h.tracked.moves (queue_moves hmoves), h.loop.moves hmoves, ?_⟩
  obtain ⟨u', ls'⟩ := c'
  obtain ⟨hthread, hstep, hlocals⟩ := id hmoves
  have hanswered := h.answered
  cases hstep with
  | requests upload =>
    rw [unfinished_of_eq hmoves rfl rfl rfl, hlocals]
    exact hanswered.lookUp hthread upload.taskId_ne_nil
  | attaches taskId result hlock hactive =>
    rw [unfinished_of_eq hmoves rfl rfl rfl, hlocals]
    exact hanswered.attach hthread (h.exists_path_iff.2 (.inl hactive))
  | puts e hmove hqueue hdone =>
    rw [unfinished_put hmoves hqueue, hlocals]
    exact hanswered.put hthread hdone fun j m hj hm =>
      Conserved.eq_zero h.loop hj hthread hm le_rfl
  | adds taskId result =>
    rw [unfinished_of_eq hmoves rfl rfl rfl, hlocals]
    obtain ⟨hdone, htable⟩ := hanswered.points _ (List.mem_of_getElem? hthread)
    have hmem : UploadPoint.putting taskId result ∈ c.locals := List.mem_of_getElem? hthread
    obtain ⟨e, he, rfl⟩ := h.exists_path_iff.2 (.inr ⟨result, hmem⟩)
    refine hanswered.move hthread (.inr ⟨e, he, rfl, ?_⟩) (by simp) (by simp)
    exact Option.some.inj ((hanswered.carried e he).symm.trans htable)
  | waits | leaves | finds =>
    rw [unfinished_of_eq hmoves rfl rfl rfl, hlocals]
    exact hanswered.move hthread trivial (by simp) (by simp)
  | enters taskId hloop hlock hactive =>
    rw [unfinished_of_eq hmoves rfl rfl rfl, hlocals]
    refine hanswered.move hthread (h.of_inactive hactive fun result hmem => ?_) (by simp) (by simp)
    -- Whoever adds a path to the queue holds the event loop.
    obtain ⟨j, hj⟩ := List.mem_iff_getElem?.1 hmem
    have hle := held_le_total UploadPoint.holdsLoop hj
    have hone := h.loop
    rw [OneLoop, Conserved, hloop] at hone
    simp only [UploadPoint.holdsLoop] at hle
    simp at hone
    omega
  | pops taskId =>
    rw [unfinished_of_eq hmoves rfl rfl rfl, hlocals]
    exact hanswered.cleanup hthread (by simp) (by simp) fun _ _ _ =>
      hanswered.points _ (List.mem_of_getElem? hthread)
  | gets hmove hqueue =>
    rw [unfinished_get hmoves hqueue, hlocals]
    exact hanswered.move hthread trivial (by simp) (by simp)
  | moves e hlock =>
    rw [unfinished_move hmoves rfl, hlocals]
    exact hanswered.move hthread trivial (by simp) (by simp)
  | answers e =>
    rw [unfinished_of_eq hmoves rfl rfl rfl, hlocals]
    have he : e ∈ processed (queueOf c) :=
      mem_gathered.2 ⟨_, List.mem_map_of_mem (List.mem_of_getElem? hthread), Multiset.mem_singleton_self _⟩
    exact hanswered.answer hthread (Multiset.mem_add.2 (.inr he)) (h.not_putting hthread _)
  | marks e hlock =>
    rw [hlocals]
    rw [unfinished_mark hmoves rfl] at hanswered
    exact hanswered.mark hthread
  | cleans e halone =>
    rw [unfinished_of_eq hmoves rfl rfl rfl, hlocals]
    refine hanswered.cleanup hthread (by simp) (fun e' he' => UploadPoint.finished.inj he' ▸ rfl)
      fun result hresult hdone => h.of_inactive (halone result hresult hdone) fun result' hmem => ?_
    obtain ⟨hundone, hresult'⟩ := hanswered.points _ hmem
    exact hundone (Option.some.inj (hresult.symm.trans hresult') ▸ hdone)

theorem of_runs {n : ℕ} (h : Runs (ofStep wellStep) (startUploads n) c) : AllAnswered c :=
  h.invariant (allAnswered_start n) fun _ _ _ _ _ hall hmoves =>
    hall.moves ⟨hmoves.thread, uploadMove_of_wellStep hall.tracked.apart hmoves.step, hmoves.locals⟩

end AllAnswered

/-- In every run of any number of requests and workers whose steps go well: where a request waits for
    a result that is not done, a task of that id carries it; and where no task and no thread is
    concerned with an id, the table has nothing for it. -/
theorem uploads_answered (n : ℕ) (c : UploadConfig) (h : Runs (ofStep wellStep) (startUploads n) c) :
    (∀ taskId result, .waiting taskId result ∈ c.locals → result ∉ c.shared.results.done →
      ∃ e ∈ unfinished c, e.path = taskId ∧ e.resultContainer = result) ∧
    (∀ taskId, (∀ e ∈ unfinished c, e.path ≠ taskId) → (∀ l ∈ c.locals, l.taskId ≠ some taskId) →
      c.shared.results.table taskId = none) := by
  obtain ⟨-, -, hanswered⟩ := AllAnswered.of_runs h
  refine ⟨fun taskId result hmem hdone => (hanswered.points _ hmem).resolve_left hdone,
    fun taskId hunfinished hlocals => Option.eq_none_iff_forall_ne_some.2 fun result hsome => ?_⟩
  rcases hanswered.kept taskId result hsome with ⟨e, he, hpath⟩ | ⟨-, hmem⟩ | ⟨-, e, hmem, hpath⟩
  · exact hunfinished e he hpath
  · exact hlocals _ hmem rfl
  · exact hlocals _ hmem (congrArg some hpath)

/-! ## One upload -/

/-- An upload with its digest. -/
def oneUpload : Upload := .openai (text "5d41402abc4b2a76")

theorem uploads_answered_waiting : ∃ c, Runs (ofStep wellStep) (startUploads 2) c ∧
    .waiting oneUpload.taskId 0 ∈ c.locals ∧
    ∃ e ∈ unfinished c, e.path = oneUpload.taskId ∧ e.resultContainer = 0 := by
  have hexec : ((exec wellStep (startUploads 2)
      [(0, .request oneUpload), (0, .clock 1), (0, .proceed), (1, .get)]).map fun c =>
        (c.locals[0]?, decide (0 ∈ c.shared.results.done))) =
      some (some (.waiting oneUpload.taskId 0), false) := by
    decide +kernel
  obtain ⟨c, hc, heq⟩ := Option.map_eq_some_iff.1 hexec
  obtain ⟨hwaiting, hdone⟩ := Prod.mk.inj heq
  have hruns : Runs (ofStep wellStep) (startUploads 2) c :=
    runs_of_exec _ hc fun a _ _ _ _ h => ⟨a, h⟩
  have hmem : UploadPoint.waiting oneUpload.taskId 0 ∈ c.locals := List.mem_of_getElem? hwaiting
  exact ⟨c, hruns, hmem, (uploads_answered 2 c hruns).1 _ _ hmem (of_decide_eq_false hdone)⟩

/-- The first client is answered. The second one looks its result up before the worker marks the task
    as done and puts the task again behind that; the worker then removes the result that the new
    task carries. The third client waits for a result that no task has, and all of the others are
    through. -/
def hangingUpload : List (ℕ × UploadChoice) :=
  [(0, .request oneUpload), (0, .clock 1), (0, .proceed), (3, .get), (3, .proceed), (3, .proceed),
   (1, .request oneUpload), (3, .proceed), (1, .clock 2), (1, .proceed), (3, .proceed),
   (2, .request oneUpload), (2, .clock 3),
   (0, .proceed), (0, .proceed), (1, .proceed), (1, .proceed),
   (3, .get), (3, .proceed), (3, .proceed), (3, .proceed), (3, .proceed)]

theorem upload_hangs : ∃ c, Runs (ofStep uploadStep) (startUploads 4) c ∧
    c.locals = [.idle, .idle, .waiting oneUpload.taskId 1, .idle] ∧ 1 ∉ c.shared.results.done ∧
    unfinished c = 0 := by
  have hexec : ((exec uploadStep (startUploads 4) hangingUpload).map fun c =>
      (c.locals, decide (1 ∈ c.shared.results.done), c.shared.queue.queue.toList)) =
      some ([.idle, .idle, .waiting oneUpload.taskId 1, .idle], false, []) := by
    decide +kernel
  obtain ⟨c, hc, heq⟩ := Option.map_eq_some_iff.1 hexec
  simp only [Prod.mk.injEq] at heq
  obtain ⟨hlocals, hdone, hqueue⟩ := heq
  refine ⟨c, runs_of_exec _ hc fun a _ _ _ _ h => ⟨a, h⟩, hlocals, of_decide_eq_false hdone, ?_⟩
  simp [unfinished, waiting, processed, queueOf, Config.map, gathered, hlocals, hqueue,
    UploadPoint.thread, QueueThread.transit, QueueThread.handled]

end Subgen

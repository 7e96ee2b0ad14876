import Mathlib.Logic.Function.Basic
import Subgen.Queue.DeduplicatedQueue

/-!
# Uploads and their results

The requests of the endpoints `asr`, `openai_transcriptions` and `openai_translations`, and what
`transcription_worker` does to their tasks. A request looks up the `TaskResult` of its task id or
makes one, puts a task that carries it, waits for it until a time-out, and cleans up. The worker
gets a task, sets the result of its container, marks it as done and cleans up.

The requests run on the event loop: nothing of another request comes between the look-up and the put
of one, nor between the two steps of its `cleanup_task_result`. Workers may come in anywhere. A
`TaskResult` is a number; what is looked at is whether it is done.
-/

namespace Subgen

/-- What an upload is identified by. -/
inductive Upload
  | asr (videoFileHash : Option Text) (audioHash : Text)
  | openai (audioHash : Text)

/-- `task_id`. -/
def Upload.taskId : Upload → Text
  | asr (some videoFileHash) audioHash => text "asr-" ++ videoFileHash ++ text "-" ++ audioHash
  | asr none audioHash => text "asr-" ++ audioHash
  | openai audioHash => text "oai-" ++ audioHash

theorem Upload.taskId_ne_nil (upload : Upload) : upload.taskId ≠ [] := by
  have hasr : text "asr-" ≠ [] := by decide
  have hoai : text "oai-" ≠ [] := by decide
  rcases upload with ⟨_ | videoFileHash, audioHash⟩ | audioHash <;>
    simp [Upload.taskId, hasr, hoai]

/-- The table `task_results`, the results that are done, and how many were made. -/
structure TaskResults where
  table : Text → Option ℕ
  done : Finset ℕ
  made : ℕ

namespace TaskResults

variable (r : TaskResults)

/-- No task has a result. -/
def empty : TaskResults := ⟨fun _ => none, ∅, 0⟩

/-- The `TaskResult` of a task id, which is made if there is none. -/
def lookUp (taskId : Text) : TaskResults × ℕ :=
  match r.table taskId with
  | some result => (r, result)
  | none =>
    ({ r with table := Function.update r.table taskId (some r.made), made := r.made + 1 }, r.made)

/-- `set_result` or `set_error`. -/
def set (result : ℕ) : TaskResults := { r with done := insert result r.done }

/-- `cleanup_task_result`, without `require_inactive`. -/
def cleanup (taskId : Text) : TaskResults :=
  if taskId = [] then r
  else
    match r.table taskId with
    | some result =>
      if result ∈ r.done then { r with table := Function.update r.table taskId none } else r
    | none => r

end TaskResults

/-- The queue, the results, and whether a request holds the event loop. -/
structure Uploads where
  queue : DeduplicatedQueue ℕ
  results : TaskResults
  loop : Bool

/-- Where a request or a worker stands. -/
inductive UploadPoint
  | idle
  -- Requests, with their result.
  | lookedUp (taskId : Text) (result : ℕ)
  | putting (taskId : Text) (result : ℕ)
  | waiting (taskId : Text) (result : ℕ)
  | leaving (taskId : Text)
  -- In `cleanup_task_result`, where the task was not active.
  | popping (taskId : Text)
  -- Workers, with their task: in `get`, behind it, behind `set_result`, and behind `mark_done`.
  | moving (entry : QueueEntry ℕ)
  | handling (entry : QueueEntry ℕ)
  | answered (entry : QueueEntry ℕ)
  | finished (entry : QueueEntry ℕ)
  deriving DecidableEq

namespace UploadPoint

/-- The task id that the thread is concerned with. -/
def taskId : UploadPoint → Option Text
  | idle => none
  | lookedUp taskId _ | putting taskId _ | waiting taskId _ | leaving taskId | popping taskId =>
    some taskId
  | moving entry | handling entry | answered entry | finished entry => some entry.path

/-- Where the thread stands in the queue. -/
def thread : UploadPoint → QueueThread ℕ
  | putting taskId _ => .adding taskId none
  | moving entry => .moving entry
  | handling entry | answered entry => .handling entry
  | _ => .free

/-- Whether the thread holds the event loop. -/
def holdsLoop : UploadPoint → ℕ
  | lookedUp _ _ | putting _ _ | popping _ => 1
  | _ => 0

end UploadPoint

/-- The container of a task. -/
def QueueEntry.resultContainer (e : QueueEntry ℕ) : ℕ := e.item.rest

/-- What comes in: a request, a worker that gets a task, the reading of the clock in `put`, a wait
    that times out, or nothing. -/
inductive UploadChoice
  | request (upload : Upload)
  | get
  | clock (now : ℚ)
  | timeOut
  | proceed

section Steps

variable (u : Uploads)

/-- The put of a request. One that raises ends it. -/
def putUpload (taskId : Text) (result : ℕ) (now : ℚ) : Uploads × UploadPoint :=
  match putStep u.queue none now ⟨taskId, .asr, result⟩ with
  | (queue, .adding _ _) => ({ u with queue := queue }, .putting taskId result)
  | (queue, _) =>
    ({ u with queue := queue, loop := false },
      if u.queue.isActive taskId then .waiting taskId result else .leaving taskId)

/-- The `get` of a worker, up to the lock. -/
def getUpload : Uploads × UploadPoint :=
  match getStep u.queue with
  | (queue, .moving entry) => ({ u with queue := queue }, .moving entry)
  | (queue, _) => ({ u with queue := queue }, .idle)

/-- The next step of a request or of a worker, if it does not have to wait. -/
def uploadStep (ch : UploadChoice) (u : Uploads) : UploadPoint → Option (Uploads × UploadPoint)
  | .idle =>
    match ch with
    | .request upload =>
      if u.loop then none
      else
        let (results, result) := u.results.lookUp upload.taskId
        some ({ u with results := results, loop := true }, .lookedUp upload.taskId result)
    | .get => some (getUpload u)
    | _ => none
  | .lookedUp taskId result =>
    match ch with
    | .clock now => if u.queue.lock then none else some (putUpload u taskId result now)
    | _ => none
  | .putting taskId result =>
    some ({ u with queue := (addStep u.queue taskId none).1, loop := false }, .waiting taskId result)
  | .waiting taskId result =>
    match ch with
    | .timeOut => some (u, .leaving taskId)
    | _ => if result ∈ u.results.done then some (u, .leaving taskId) else none
  | .leaving taskId =>
    if u.loop || u.queue.lock then none
    else if u.queue.isActive taskId then some (u, .idle)
    else some ({ u with loop := true }, .popping taskId)
  | .popping taskId =>
    some ({ u with results := u.results.cleanup taskId, loop := false }, .idle)
  | .moving entry =>
    if u.queue.lock then none
    else some ({ u with queue := (moveStep u.queue entry).1 }, .handling entry)
  | .handling entry =>
    some ({ u with results := u.results.set entry.resultContainer }, .answered entry)
  | .answered entry =>
    if u.queue.lock then none
    else some ({ u with queue := (markDoneStep u.queue entry).1 }, .finished entry)
  | .finished entry => some ({ u with results := u.results.cleanup entry.path }, .idle)

end Steps

/-! ## Steps that go well -/

/-- The clock ticks, no task is accepted whose result is done already, and a worker that cleans up
    does not remove a result under which another task is active. -/
def UploadChoice.goesWell (ch : UploadChoice) (u : Uploads) : UploadPoint → Bool
  | .lookedUp taskId result =>
    match ch with
    | .clock now =>
      (QueueChoice.put now ⟨taskId, .asr, result⟩).ticks u.queue &&
        (u.queue.isActive taskId || result ∉ u.results.done)
    | _ => true
  | .finished entry =>
    match u.results.table entry.path with
    | some result => !(result ∈ u.results.done && u.queue.isActive entry.path)
    | none => true
  | _ => true

/-- A step that goes well. -/
def wellStep (ch : UploadChoice) (u : Uploads) (l : UploadPoint) : Option (Uploads × UploadPoint) :=
  if ch.goesWell u l then uploadStep ch u l else none

end Subgen

import Subgen.Lib.Procedure
import Subgen.Lib.Utf8

/-!
# The events of a task

`emit_subgen_event` and `emit_model_runtime_error`, with what they raise. An event is a line of the
log: `SUBGEN_EVENT` and a JSON object. The digest of the id of a task, a hexadecimal SHA-256, is a
parameter; what it is made from has to be encoded as UTF-8, which a surrogate cannot be.

The fields of an event are checked one by one, and a check that fails raises in the handler of the very
failure that is to be reported. So the question is for which tasks, errors and details an event can be sent:
the id has to be encoded, the identity of the source has to be five integers, and a failure class or an outcome
has to be one of those that are allowed.

* `emitSubgenEvent_worker_error`, `emitSubgenEvent_media_validation_stale`,
  `emitModelRuntimeError_completes`: exactly when the event of a failed task raises nothing.
-/

namespace Subgen

open Procedure

/-- The classes of exceptions that the worker tells apart. -/
inductive ErrorClass
  | empty
  | mediaValidationStale
  | modelLoadProfileUnhealthy
  | modelReleaseError
  | modelRuntimeCancelled
  | memoryPressureYield
  | modelInferenceAllocationFailure
  | exception
  deriving DecidableEq

/-- An exception: its class and its `str`, unless that raises. -/
structure TaskError where
  cls : ErrorClass
  str : Option Text
  deriving DecidableEq

/-! ## UTF-8 -/

/-- The `UnicodeEncodeError` of a text whose first surrogates, `count` of them, stand at `start`. -/
def unicodeEncodeError (t : Text) (start count : ℕ) : TaskError :=
  ⟨.exception, some (text "'utf-8' codec can't encode character" ++
    (if count = 1 then text " '" ++ Json.printUnicode (t.getD start 0) ++ text "' in position " ++
      Json.printNat start
    else text "s in position " ++ Json.printNat start ++ text "-" ++
      Json.printNat (start + count - 1)) ++
    text ": surrogates not allowed")⟩

/-- `encode("utf-8")`. -/
def encodeUtf8 (t : Text) : Except TaskError (List ℕ) :=
  if t.any isSurrogate then
    .error (unicodeEncodeError t (t.findIdx isSurrogate)
      ((t.dropWhile fun c => !isSurrogate c).takeWhile isSurrogate).length)
  else .ok (t.flatMap utf8Char)

/-! ## Events -/

/-- What an event reads of a task. -/
structure EventTask where
  path : Text
  type : Text
  videoFile : Option Text

/-- `f"{type}:{path}"`. -/
def EventTask.identity (task : EventTask) : Text := task.type ++ text ":" ++ task.path

/-- The optional arguments of `emit_subgen_event`, the error by its `str`. -/
structure EventDetails where
  error : Option (Option Text) := none
  failureClass : Option Text := none
  sourceIdentity : Option (List ℤ) := none
  validatorOutcomes : Option (List (Text × Text)) := none
  validationDetail : Option Text := none

/-- A `ValueError` with a message. -/
def valueError (message : String) : TaskError := ⟨.exception, some (text message)⟩

section Emit

variable (hexdigest : List ℕ → Text)

/-- `task_event_id`. -/
def taskEventId (task : EventTask) : Except TaskError Text :=
  match encodeUtf8 task.identity with
  | .ok bytes => .ok ((hexdigest bytes).take 16)
  | .error e => .error e

/-- The failure classes an event may name. -/
def allowedFailureClasses : List Text :=
  [text "invalid_media", text "probe_indeterminate", text "inference_error",
   text "resource_exhaustion", text "sigsegv", text "resource_pressure_yield"]

/-- The validator outcomes an event may name. -/
def allowedValidatorOutcomes : List Text :=
  [text "audio_present", text "no_audio", text "invalid_format", text "indeterminate"]

/-- `normalize_file_identity`, of a sequence of integers. -/
def normalizeFileIdentity (value : List ℤ) : Except TaskError (List ℤ) :=
  if value.length ≠ 5 ∨ value.any (· < 0) then
    .error (valueError "Marker file identity must contain five non-negative integers")
  else .ok value

/-- The largest counter of a receipt. -/
def maxRuntimeGeneration : ℕ := 2 ^ 63 - 1

/-- `record_media_failure`: the counter of the failures goes up, and then a receipt is recorded, which
    may raise. -/
def recordMediaFailure (receipt : Except TaskError Unit) : EStateM TaskError ℕ Unit := do
  let value ← get
  if maxRuntimeGeneration < value then
    throw (valueError "Runtime generation is out of range: media_failure_generation")
  if value = maxRuntimeGeneration then
    throw (valueError "Runtime generation exhausted: media_failure_generation")
  set (value + 1)
  ofExcept receipt

/-- `str(error)[:500]`. -/
def errorField : Option (Option Text) → Except TaskError (List (Text × Json))
  | none => .ok []
  | some (some message) => .ok [(text "error", .str (message.take 500))]
  | some none => .error ⟨.exception, none⟩

/-- The failure class of an event. -/
def failureClassField : Option Text → Except TaskError (List (Text × Json))
  | none => .ok []
  | some failureClass =>
    if failureClass ∈ allowedFailureClasses then .ok [(text "failure_class", .str failureClass)]
    else .error (valueError "Unsupported Subgen failure class")

/-- The source identity of an event. -/
def sourceIdentityField : Option (List ℤ) → Except TaskError (List (Text × Json))
  | none => .ok []
  | some identity => do
    let fields ← normalizeFileIdentity identity
    return [(text "source_identity", .array (fields.map .int))]

/-- The validator outcomes of an event. -/
def validatorOutcomesField (event : Text) :
    Option (List (Text × Text)) → Except TaskError (List (Text × Json))
  | none => .ok []
  | some outcomes =>
    if event = text "media_validation_failed" ∧
        (outcomes.map Prod.fst).Perm [text "ffprobe", text "pyav"] ∧
        ∀ outcome ∈ outcomes.map Prod.snd, outcome ∈ allowedValidatorOutcomes then
      .ok [(text "validator_outcomes", .object (outcomes.map fun (k, v) => (k, .str v)))]
    else .error (valueError "Invalid validator-outcome evidence")

/-- A character of a validation detail. -/
def isDetailChar (c : ℕ) : Bool :=
  Json.isDigit c || (65 ≤ c && c ≤ 90) || (97 ≤ c && c ≤ 122) || c = 95

/-- The validation detail of an event. -/
def validationDetailField (event : Text) : Option Text → Except TaskError (List (Text × Json))
  | none => .ok []
  | some detail =>
    if event = text "media_validation_failed" ∧ detail ≠ [] ∧ detail.length ≤ 64 ∧
        detail.all isDetailChar then
      .ok [(text "validation_detail", .str detail)]
    else .error (valueError "Invalid media-validation detail code")

/-- The object that an event logs. -/
def eventPayload (event : Text) (task : EventTask) (details : EventDetails) :
    Except TaskError (List (Text × Json)) := do
  let taskId ← taskEventId hexdigest task
  let error ← errorField details.error
  let failureClass ← failureClassField details.failureClass
  let identity ← sourceIdentityField details.sourceIdentity
  let outcomes ← validatorOutcomesField event details.validatorOutcomes
  let detail ← validationDetailField event details.validationDetail
  if event = text "media_validation_failed" ∧
      (details.failureClass ∉ [some (text "invalid_media"), some (text "probe_indeterminate")] ∨
        details.validatorOutcomes = none ∨ details.validationDetail = none) then
    throw (valueError "Media validation events require complete typed evidence")
  return [(text "event", .str event), (text "task_id", .str taskId), (text "task_type", .str task.type),
    (text "path", .str (match task.videoFile with
      | none | some [] => task.path
      | some file => file))] ++ error ++ failureClass ++ identity ++ outcomes ++ detail

/-- The line of a payload. -/
def eventLine (payload : List (Text × Json)) : Text :=
  text "SUBGEN_EVENT " ++ (Json.object payload).print

/-- `emit_subgen_event`, with the line that it logs. -/
def emitSubgenEvent (receipt : Except TaskError Unit) (event : Text) (task : EventTask)
    (details : EventDetails) : EStateM TaskError ℕ Text := do
  match eventPayload hexdigest event task details with
  | .error e => throw e
  | .ok payload =>
    if event ∈ [text "media_validation_failed", text "worker_error"] then recordMediaFailure receipt
    return eventLine payload

/-- `error_code`, of a failure that is not attributed to the media. -/
def errorCode : ErrorClass → Text
  | .modelLoadProfileUnhealthy => text "model_load_profile_unhealthy"
  | .modelReleaseError => text "model_release_failed"
  | .memoryPressureYield => text "memory_pressure_yield"
  | _ => text "model_runtime_cancelled"

/-- `emit_model_runtime_error`. -/
def emitModelRuntimeError (task : EventTask) (error : TaskError) : EStateM TaskError ℕ Text :=
  match taskEventId hexdigest task with
  | .error e => throw e
  | .ok taskId =>
    pure (eventLine [(text "event", .str (text "runtime_error")), (text "task_id", .str taskId),
      (text "task_type", .str task.type), (text "scope", .str (text "model_runtime")),
      (text "error_code", .str (errorCode error.cls))])

end Emit

/-! ## What raises nothing -/

/-- No surrogate is encoded. -/
def EventTask.encodable (task : EventTask) : Bool := !task.identity.any isSurrogate

/-- A file identity of five integers that are not negative, if there is one. -/
def identityValid : Option (List ℤ) → Bool
  | none => true
  | some identity => identity.length = 5 && identity.all (0 ≤ ·)

/-- The procedure returns. -/
def Completes {α : Type} (m : EStateM TaskError ℕ α) (n : ℕ) : Prop :=
  Ensures m n (fun _ _ => True) fun _ _ => False

section Completes

variable {hexdigest : List ℕ → Text} {task : EventTask} {n : ℕ}

theorem taskEventId_isOk :
    (∃ taskId, taskEventId hexdigest task = .ok taskId) ↔ task.encodable = true := by
  rw [taskEventId, encodeUtf8, EventTask.encodable]
  cases task.identity.any isSurrogate <;> simp

theorem sourceIdentityField_isOk (identity : Option (List ℤ)) :
    (∃ fields, sourceIdentityField identity = .ok fields) ↔ identityValid identity = true := by
  cases identity with
  | none => exact iff_of_true ⟨_, rfl⟩ rfl
  | some identity =>
    rw [sourceIdentityField, normalizeFileIdentity]
    split
    · next hinvalid =>
      refine iff_of_false nofun fun hvalid => ?_
      rw [identityValid, Bool.and_eq_true, decide_eq_true_iff, List.all_eq_true] at hvalid
      rcases hinvalid with hlength | hnegative
      · exact hlength hvalid.1
      · obtain ⟨field, hfield, hlt⟩ := List.any_eq_true.1 hnegative
        exact absurd (of_decide_eq_true hlt) (not_lt.2 (of_decide_eq_true (hvalid.2 field hfield)))
    · next hvalid =>
      obtain ⟨hlength, hnegative⟩ := not_or.1 hvalid
      refine iff_of_true ⟨_, rfl⟩ ?_
      rw [identityValid, Bool.and_eq_true, decide_eq_true_iff, List.all_eq_true]
      refine ⟨not_not.1 hlength, fun field hfield => decide_eq_true (not_lt.1 fun hlt => ?_)⟩
      exact hnegative (List.any_eq_true.2 ⟨field, hfield, decide_eq_true hlt⟩)

theorem recordMediaFailure_completes (receipt : Except TaskError Unit) :
    Completes (recordMediaFailure receipt) n ↔ n < maxRuntimeGeneration ∧ receipt = .ok () := by
  rw [Completes, recordMediaFailure]
  simp only [ensures_bind, ensures_get, ensures_ite, ensures_throw, ensures_set,
    ensures_ofExcept, imp_false, implies_true, true_and]
  constructor
  · rintro ⟨hover, hrest⟩
    obtain ⟨hexhausted, hreceipt⟩ := hrest hover
    refine ⟨by omega, ?_⟩
    cases receipt with
    | ok => rfl
    | error e => exact absurd rfl (hreceipt hexhausted e)
  · rintro ⟨hlt, rfl⟩
    exact ⟨by omega, fun _ => ⟨by omega, by simp⟩⟩

theorem emitSubgenEvent_completes (receipt : Except TaskError Unit) (event : Text)
    (details : EventDetails) :
    Completes (emitSubgenEvent hexdigest receipt event task details) n ↔
      (∃ payload, eventPayload hexdigest event task details = .ok payload) ∧
      (event ∈ [text "media_validation_failed", text "worker_error"] →
        n < maxRuntimeGeneration ∧ receipt = .ok ()) := by
  rw [Completes, emitSubgenEvent]
  split
  · next hpayload => simp [hpayload]
  · next payload hpayload =>
    simp only [hpayload, Except.ok.injEq, exists_eq', true_and]
    split
    · next hevent =>
      rw [ensures_bind]
      exact (recordMediaFailure_completes receipt).trans (by simp only [hevent, true_imp_iff])
    · next hevent => simp [hevent, Ensures, pure, EStateM.pure]

/-- An event that is not about a validation. -/
theorem eventPayload_isOk {event : Text} (hevent : event ≠ text "media_validation_failed")
    (error : Option (Option Text)) (failureClass : Option Text)
    (hclass : ∀ c ∈ failureClass, c ∈ allowedFailureClasses) (identity : Option (List ℤ)) :
    (∃ payload, eventPayload hexdigest event task ⟨error, failureClass, identity, none, none⟩ =
      .ok payload) ↔
    task.encodable = true ∧ error ≠ some none ∧ identityValid identity = true := by
  rw [← @taskEventId_isOk hexdigest, ← sourceIdentityField_isOk, eventPayload]
  have hclass' : ∃ fields, failureClassField failureClass = .ok fields := by
    cases failureClass with
    | none => exact ⟨_, rfl⟩
    | some c => exact ⟨_, if_pos (hclass c rfl)⟩
  obtain ⟨classFields, hclassFields⟩ := hclass'
  have herror : (∃ fields, errorField error = .ok fields) ↔ error ≠ some none := by
    rcases error with _ | _ | message <;> simp [errorField]
  rw [← herror]
  simp only [bind_eq_ok, hclassFields, validatorOutcomesField, validationDetailField, hevent,
    false_and, if_false, Except.ok.injEq, exists_eq_left']
  constructor
  · rintro ⟨payload, taskId, htaskId, errorFields, herrorFields, identityFields, hidentityFields, -⟩
    exact ⟨⟨taskId, htaskId⟩, ⟨errorFields, herrorFields⟩, identityFields, hidentityFields⟩
  · rintro ⟨⟨taskId, htaskId⟩, ⟨errorFields, herrorFields⟩, identityFields, hidentityFields⟩
    exact ⟨_, taskId, htaskId, errorFields, herrorFields, identityFields, hidentityFields, rfl⟩

/-- The event of a task that failed. -/
theorem emitSubgenEvent_worker_error (receipt : Except TaskError Unit) (message : Option Text)
    {failureClass : Text} (hclass : failureClass ∈ allowedFailureClasses) (identity : Option (List ℤ)) :
    Completes (emitSubgenEvent hexdigest receipt (text "worker_error") task
      ⟨some message, some failureClass, identity, none, none⟩) n ↔
    task.encodable = true ∧ message.isSome = true ∧ identityValid identity = true ∧
      n < maxRuntimeGeneration ∧ receipt = .ok () := by
  have hmessage : some message ≠ some none ↔ message.isSome = true := by
    cases message <;> simp
  rw [emitSubgenEvent_completes, eventPayload_isOk (by decide) _ _ (by simpa using hclass), hmessage]
  simp only [List.mem_cons, or_true, true_or, true_imp_iff, and_assoc]

/-- The event of a task whose media have changed. -/
theorem emitSubgenEvent_media_validation_stale (receipt : Except TaskError Unit)
    (identity : Option (List ℤ)) :
    Completes (emitSubgenEvent hexdigest receipt (text "media_validation_stale") task
      ⟨none, none, identity, none, none⟩) n ↔
    task.encodable = true ∧ identityValid identity = true := by
  have hevent : text "media_validation_stale" ∉
    [text "media_validation_failed", text "worker_error"] := by decide
  rw [emitSubgenEvent_completes, eventPayload_isOk (by decide) _ _ (by simp)]
  simp [hevent]

theorem emitModelRuntimeError_completes (error : TaskError) :
    Completes (emitModelRuntimeError hexdigest task error) n ↔ task.encodable = true := by
  rw [← @taskEventId_isOk hexdigest, Completes, emitModelRuntimeError]
  split
  · next h => simp [h]
  · next taskId h => simp [h]

end Completes

end Subgen

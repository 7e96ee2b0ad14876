import Subgen.Lib.PosixPath
import Subgen.Worker.Events

/-!
# The events that the failure monitor reads

`process_structured_event` of the failure monitor, as far as it takes a line of the log apart, and the
checks that it makes of what it finds. `Structured` is where a line goes: it is no event, an invalid one,
a blocked one, the failure of a validation, the event of a task with the branch for its name (`dispatch`),
or one that no branch asks for. What a branch does with the state of the monitor is left out.

What `\d` matches besides the digits of ASCII is a parameter, and so is the digest of the id of a task.
-/

namespace Subgen

/-- The digits of a regular expression. -/
structure Decimals where
  isDecimal : ℕ → Bool
  ascii : ∀ c < 128, isDecimal c = Json.isDigit c

/-- The digits of ASCII alone. -/
def asciiDecimals : Decimals := ⟨Json.isDigit, fun _ _ => rfl⟩

namespace Failures

/-- `MAX_STRUCTURED_EVENT_BYTES`. -/
def maxStructuredEventBytes : ℕ := 16 * 1024

/-- `MAX_EVENT_PATH_CHARS`. -/
def maxEventPathChars : ℕ := 4096

/-- `MAX_TASK_ID_CHARS`. -/
def maxTaskIdChars : ℕ := 128

/-- `MAX_TASK_TYPE_CHARS`. -/
def maxTaskTypeChars : ℕ := 32

/-! ## The fields of an event -/

/-- A control character. -/
def isControl (c : ℕ) : Bool := c < 32 || c = 127

/-- `bounded_event_text`. -/
def boundedEventText (maximum : ℕ) : Json → Option Text
  | .str s => if s = [] ∨ maximum < s.length ∨ s.any isControl then none else some s
  | _ => none

/-- An integer that is no boolean. -/
def intOf : Json → Option ℤ
  | .int n => some n
  | _ => none

/-- The keys of a file identity, in their order. -/
def identityKeys : List Text :=
  [text "device", text "inode", text "size", text "mtime_ns", text "ctime_ns"]

/-- `normalized_event_identity`. -/
def normalizedEventIdentity (v : Json) : Option (List ℤ) :=
  match v with
  | .array items => items.mapM intOf >>= fun fields => (normalizeFileIdentity fields).toOption
  | .object items =>
    identityKeys.mapM (fun k => intOf (Json.get items k)) >>= fun fields =>
      (normalizeFileIdentity fields).toOption
  | _ => none

theorem normalizedEventIdentity_int {i : List ℤ} (h : i.length = 5 ∧ ∀ n ∈ i, 0 ≤ n) :
    normalizedEventIdentity (.array (i.map .int)) = some i := by
  have hmap : ∀ l : List ℤ, (l.map Json.int).mapM intOf = some l := by
    intro l
    induction l with
    | nil => rfl
    | cons n l ih =>
      rw [List.map_cons, List.mapM_cons, ih]
      rfl
  have hnegative : ¬ (i.length ≠ 5 ∨ i.any (· < 0) = true) := by
    rw [not_or, not_not]
    simpa using h
  rw [normalizedEventIdentity, hmap, Option.bind_eq_bind, Option.bind_some, normalizeFileIdentity,
    if_neg hnegative]
  rfl

theorem normalizedEventIdentity_valid {v : Json} {i : List ℤ} (h : normalizedEventIdentity v = some i) :
    i.length = 5 ∧ ∀ n ∈ i, 0 ≤ n := by
  have hvalid : ∀ fields, (normalizeFileIdentity fields).toOption = some i → i.length = 5 ∧ ∀ n ∈ i, 0 ≤ n := by
    intro fields hfields
    rw [normalizeFileIdentity] at hfields
    split_ifs at hfields with hinvalid
    · cases hfields
    · rw [not_or, not_not] at hinvalid
      obtain rfl := Option.some.inj hfields
      exact ⟨hinvalid.1, by simpa using hinvalid.2⟩
  rw [normalizedEventIdentity.eq_def] at h
  split at h
  · obtain ⟨fields, -, hfields⟩ := Option.bind_eq_some_iff.1 h
    exact hvalid fields hfields
  · obtain ⟨fields, -, hfields⟩ := Option.bind_eq_some_iff.1 h
    exact hvalid fields hfields
  · cases h

/-- `canonical_media_event_path`. -/
def canonicalMediaEventPath (v : Json) : Option Text := do
  let path ← boundedEventText maxEventPathChars v
  if text "/media/" <+: path ∧ PosixPath.dotdot ∉ PosixPath.parts path ∧ PosixPath.Canonical path then
    some path
  else none

/-- `normalized_validator_outcomes`: those of ffprobe and of pyav. -/
def normalizedValidatorOutcomes : Json → Option (Text × Text)
  | .object items =>
    if (items.map Prod.fst).Perm [text "ffprobe", text "pyav"] then
      match Json.get items (text "ffprobe"), Json.get items (text "pyav") with
      | .str ffprobe, .str pyav =>
        if ffprobe ∈ allowedValidatorOutcomes ∧ pyav ∈ allowedValidatorOutcomes then some (ffprobe, pyav)
        else none
      | _, _ => none
    else none
  | _ => none

/-! ## The line of an event -/

/-- `\d{4}-\d{2}-\d{2} \d{2}:\d{2}:\d{2}`. -/
def isTimestamp (D : Decimals) (t : Text) : Bool :=
  t.length = 19 && (List.zipWith (fun c p => if p = 48 then D.isDecimal c else c = p) t
    (text "0000-00-00 00:00:00")).all id

/-- The names of the log levels. -/
def levelNames : List Text :=
  [text "DEBUG", text "INFO", text "WARNING", text "ERROR", text "CRITICAL"]

/-- A line without the time and the level that it may begin with. -/
def withoutTimestamp (D : Decimals) (line : Text) : Text :=
  if isTimestamp D (line.take 19) then
    match levelNames.find? fun level => ([32] ++ level ++ text ": ").isPrefixOf (line.drop 19) with
    | some level => line.drop (22 + level.length)
    | none => line
  else line

/-- What an event line starts with. -/
def eventPrefix : Text := text "SUBGEN_EVENT "

/-- The braces at the end of a line, and what is between them. -/
def frameBody (body : Text) : Option Text :=
  let t := if body.getLast? = some 10 then body.dropLast else body
  let t := if t.getLast? = some 13 then t.dropLast else t
  if t.head? = some 123 ∧ t.getLast? = some 125 ∧ 2 ≤ t.length ∧ 10 ∉ t then some t else none

/-- The payload of `STRUCTURED_EVENT_FRAME_RE`. -/
def structuredEventFrame (D : Decimals) (line : Text) : Option Text :=
  let bare := withoutTimestamp D line
  if eventPrefix <+: bare then frameBody (bare.drop eventPrefix.length) else none

/-! ## What a line is -/

/-- A failed validation with checked fields. -/
structure ValidationFailed where
  path : Text
  taskType : Text
  taskId : Text
  failureClass : Text
  sourceIdentity : List ℤ
  ffprobe : Text
  pyav : Text
  validationDetail : Text
  deriving DecidableEq

/-- Any other event of a task, with checked fields. -/
structure TaskEvent where
  event : Text
  taskId : Text
  taskType : Text
  path : Text
  sourceIdentity : Option (List ℤ)
  payload : List (Text × Json)

/-- The branches of `process_structured_event` for the event of a task; the ends of a task have one
    in common, which tells them apart later. -/
inductive Branch
  | workerStart
  | runtimeError
  | workerFinish
  | workerError
  | mediaValidationStale
  | fileError
  deriving DecidableEq

/-- The name that a branch asks for. -/
def Branch.event : Branch → Text
  | workerStart => text "worker_start"
  | runtimeError => text "runtime_error"
  | workerFinish => text "worker_finish"
  | workerError => text "worker_error"
  | mediaValidationStale => text "media_validation_stale"
  | fileError => text "file_error"

/-- The branches in their order. -/
def branches : List Branch :=
  [.workerStart, .runtimeError, .workerFinish, .workerError, .mediaValidationStale, .fileError]

/-- The names that the monitor does something with. -/
def handledEvents : List Text := text "media_validation_failed" :: branches.map Branch.event

/-- What `process_structured_event` goes on with. -/
inductive Structured
  -- No event, `SUBGEN_EVENT_INVALID`, an event that is blocked, and `SUBGEN_EVENT_UNKNOWN`.
  | absent
  | invalid
  | blocked
  | unknown (event : Text)
  | validationFailed (e : ValidationFailed)
  | task (branch : Branch) (e : TaskEvent)

/-- The keys of the event of a failed validation. -/
def validationKeys : List Text :=
  [text "event", text "task_id", text "task_type", text "path", text "failure_class",
   text "source_identity", text "validator_outcomes", text "validation_detail"]

/-- `canonical_invalid_media_proof`, of evidence with an identity. -/
def isInvalidMediaProof (e : ValidationFailed) : Bool :=
  e.failureClass = text "invalid_media" && e.ffprobe = text "invalid_format" &&
    e.pyav = text "invalid_format" && e.validationDetail = text "dual_parser_invalid"

section Dispatch

variable (D : Decimals) (F : FloatReader) (hexdigest : List ℕ → Text)

/-- The checks of `record_media_validation_failure`. -/
def validationFailedOf (payload : List (Text × Json)) : Option ValidationFailed := do
  if !(payload.map Prod.fst).isPerm validationKeys then none
  let path ← canonicalMediaEventPath (Json.get payload (text "path"))
  let taskType ← boundedEventText maxTaskTypeChars (Json.get payload (text "task_type"))
  let taskId ← boundedEventText maxTaskIdChars (Json.get payload (text "task_id"))
  let expected ← (taskEventId hexdigest ⟨path, taskType, none⟩).toOption
  if taskType ≠ text "transcribe" ∨ taskId ≠ expected then none
  let failureClass ← boundedEventText 64 (Json.get payload (text "failure_class"))
  let identity ← normalizedEventIdentity (Json.get payload (text "source_identity"))
  let (ffprobe, pyav) ← normalizedValidatorOutcomes (Json.get payload (text "validator_outcomes"))
  let detail ← boundedEventText 64 (Json.get payload (text "validation_detail"))
  let e : ValidationFailed := ⟨path, taskType, taskId, failureClass, identity, ffprobe, pyav, detail⟩
  if failureClass = text "invalid_media" then
    if isInvalidMediaProof e then some e else none
  else if failureClass = text "probe_indeterminate" then
    if detail = text "validator_evidence_indeterminate" then some e else none
  else none

/-- The fields of the event of a task. -/
def taskEventOf (event : Text) (payload : List (Text × Json)) : Option TaskEvent := do
  let taskId ← boundedEventText maxTaskIdChars (Json.get payload (text "task_id"))
  let taskType ← boundedEventText maxTaskTypeChars (Json.get payload (text "task_type"))
  let path ← boundedEventText maxEventPathChars
    (if text "path" ∈ payload.map Prod.fst then Json.get payload (text "path") else .str (text "unknown"))
  let identity := normalizedEventIdentity (Json.get payload (text "source_identity"))
  if text "source_identity" ∈ payload.map Prod.fst ∧ identity = none then none
  some ⟨event, taskId, taskType, path, identity, payload⟩

/-- The branch for the event of a task. An error that is not beneath the media is noted as an end, if
    it is that of a worker, and blocked otherwise. -/
def dispatch (e : TaskEvent) : Structured :=
  match branches.find? fun branch => branch.event = e.event with
  | none => .unknown e.event
  | some .workerError => .task (if text "/media/" <+: e.path then .workerError else .workerFinish) e
  | some .fileError => if text "/media/" <+: e.path then .task .fileError e else .blocked
  | some branch => .task branch e

/-- The event of a payload. -/
def structuredOf (payload : List (Text × Json)) : Structured :=
  match boundedEventText 64 (Json.get payload (text "event")) with
  | none => .invalid
  | some event =>
    if event = text "media_validation_failed" then
      match validationFailedOf hexdigest payload with
      | some e => .validationFailed e
      | none => .blocked
    else
      match taskEventOf event payload with
      | some e => dispatch e
      | none => .invalid

/-- `process_structured_event`, up to what a branch does. -/
def processStructuredEvent (line : Text) : Structured :=
  if ¬ eventPrefix <:+: line then .absent
  else if maxStructuredEventBytes < (line.flatMap utf8Char).length then .invalid
  else
    match structuredEventFrame D line with
    | none => .invalid
    | some payload =>
      match Json.readText ⟨F, false, true⟩ payload with
      | some (.object items) => structuredOf hexdigest items
      | _ => .invalid

end Dispatch

/-! ## Host paths -/

/-- `convert_container_path_to_host_path`, beneath the components of the media root. -/
def convertContainerPathToHostPath (mediaRoot : List Text) (path : Text) : Option Text :=
  if ¬ text "/media/" <+: path then none
  else
    let relative := path.drop 7
    if PosixPath.isAbsolute relative ∨ PosixPath.dotdot ∈ PosixPath.parts relative ∨ 0 ∈ relative then none
    else some (PosixPath.join [47] (mediaRoot ++ PosixPath.parts relative))

end Failures

end Subgen

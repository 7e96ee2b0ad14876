import Subgen.Lib.Procedure
import Subgen.Signal.Publication

/-!
# The runtime state in a receipt

What `_validate_runtime_state` makes of a mapping, and which states may follow one another
(`validateRuntimeTransition`). A value that comes from outside is a JSON value; any other object is
turned away like a list.

The state says which priority observation was accepted last, how many transitions there have been, in which
phase the controller is and why, whether a model is resident, and how often one was loaded and unloaded. From
one state to the next the numbers do not go back, and the loads and unloads fit the model that is there before
and behind (`balance_of_transition`). The checks stand in the order of the source, with its messages.
-/

namespace Subgen

/-- What the functions raise: the error of this module with its message, a `TypeError` of a value that
    is in no set, whatever the clock raises, and the `OSError` of a file that cannot be closed. -/
inductive ReceiptError
  | runtimeReceiptError (message : String)
  | typeError
  | clock
  | osError
  deriving DecidableEq

/-- `MAX_GENERATION`. -/
def maxReceiptGeneration : ℤ := 2 ^ 63 - 1

/-- `_require_int`. -/
def requireReceiptInt (value : Json) (name : String) (minimum maximum : ℤ) : Except ReceiptError ℤ :=
  match value with
  | .int n =>
    if minimum ≤ n ∧ n ≤ maximum then .ok n
    else .error (.runtimeReceiptError (name ++ " is invalid"))
  | _ => .error (.runtimeReceiptError (name ++ " is invalid"))

/-- `_require_lower_hex`, of 64 digits. -/
def requireLowerHex (value : Json) (name : String) : Except ReceiptError Text :=
  match value with
  | .str s =>
    if isHex 64 s then .ok s
    else .error (.runtimeReceiptError (name ++ " must be lowercase 64-hex"))
  | _ => .error (.runtimeReceiptError (name ++ " must be lowercase 64-hex"))

/-- The keys of a runtime state. -/
def runtimeStateKeys : List Text :=
  [text "source_generation", text "observation_digest", text "transition_observation_digest",
    text "transition_sequence", text "heartbeat_age_ms", text "source_age_ms", text "policy_sha256",
    text "priority_state", text "controller_phase", text "recovery_reason", text "admission_open",
    text "distinct_clear_count", text "model_resident", text "model_load_generation",
    text "model_unload_generation", text "model_identity_sha256", text "cuda_oom_generation",
    text "media_failure_generation"]

/-- The priority observation that was accepted last. -/
structure LastAccepted where
  sourceGeneration : ℤ
  observationDigest : Text
  policySha256 : Text
  heartbeatAgeMs : ℤ
  sourceAgeMs : ℤ
  deriving DecidableEq

/-- A runtime state that is valid. -/
structure RuntimeState where
  lastAccepted : Option LastAccepted
  transitionObservationDigest : Option Text
  transitionSequence : ℤ
  priorityState : Text
  controllerPhase : Text
  recoveryReason : Option Text
  admissionOpen : Bool
  distinctClearCount : ℤ
  modelResident : Bool
  modelIdentitySha256 : Option Text
  modelLoadGeneration : ℤ
  modelUnloadGeneration : ℤ
  cudaOomGeneration : ℤ
  mediaFailureGeneration : ℤ
  deriving DecidableEq

/-- The priority states. -/
def priorityStates : List Text :=
  [text "clear", text "neutral", text "asserted", text "unavailable"]

/-- The phases of the controller. -/
def controllerPhases : List Text := [text "normal", text "yielding", text "recovering"]

/-- The reasons of a recovery. -/
def recoveryReasons : List Text :=
  [text "priority_pressure", text "resource_pressure", text "model_admission"]

/-- The error with a message. -/
def receiptError {α : Type} (message : String) : Except ReceiptError α :=
  .error (.runtimeReceiptError message)

/-- The fields of the last observation: all of them are there, or none. -/
def requireLastAccepted (items : List (Text × Json)) : Except ReceiptError (Option LastAccepted) :=
  let source := Json.get items (text "source_generation")
  let observation := Json.get items (text "observation_digest")
  let policy := Json.get items (text "policy_sha256")
  let heartbeat := Json.get items (text "heartbeat_age_ms")
  let sourceAge := Json.get items (text "source_age_ms")
  let missing := [observation, policy, heartbeat, sourceAge].map fun v => decide (v matches .null)
  if source matches .null then
    if missing.all id then .ok none else receiptError "last-accepted priority fields disagreed"
  else if missing.any id then receiptError "last-accepted priority fields disagreed"
  else do
    let source ← requireReceiptInt source "source_generation" 1 maxReceiptGeneration
    let observation ← requireLowerHex observation "observation_digest"
    let policy ← requireLowerHex policy "policy_sha256"
    let heartbeat ← requireReceiptInt heartbeat "heartbeat_age_ms" 0 60000
    let sourceAge ← requireReceiptInt sourceAge "source_age_ms" 0 60000
    .ok (some ⟨source, observation, policy, heartbeat, sourceAge⟩)

/-- A digest, or `null`. -/
def requireOptionalHex (value : Json) (name : String) : Except ReceiptError (Option Text) :=
  match value with
  | .null => .ok none
  | value => some <$> requireLowerHex value name

/-- A Boolean. -/
def requireReceiptBool (value : Json) (message : String) : Except ReceiptError Bool :=
  match value with
  | .bool b => .ok b
  | _ => receiptError message

/-- One of some texts. A list or a mapping cannot be looked up in a set. -/
def requireMember (value : Json) (allowed : List Text) (message : String) : Except ReceiptError Text :=
  match value with
  | .str s => if s ∈ allowed then .ok s else receiptError message
  | .array _ | .object _ => .error .typeError
  | _ => receiptError message

/-- The priority state, and the phase of the controller with its reason. -/
def requireController (items : List (Text × Json)) :
    Except ReceiptError (Text × Text × Option Text) := do
  let priority ← requireMember (Json.get items (text "priority_state")) priorityStates
    "priority_state was invalid"
  let controller ← requireMember (Json.get items (text "controller_phase")) controllerPhases
    "controller phase or recovery reason was invalid"
  let recovery ← match Json.get items (text "recovery_reason") with
    | .null => .ok none
    | value =>
      some <$> requireMember value recoveryReasons "controller phase or recovery reason was invalid"
  if decide (controller = text "normal") ≠ recovery.isNone then
    receiptError "controller phase and recovery reason disagreed"
  else .ok (priority, controller, recovery)

/-- `_validate_runtime_state`. -/
def validateRuntimeState (state : Json) : Except ReceiptError RuntimeState :=
  match state with
  | .object items =>
    if (∃ k ∈ items.map Prod.fst, k ∉ runtimeStateKeys) ∨
      (∃ k ∈ runtimeStateKeys, k ∉ items.map Prod.fst) then
      receiptError "Task 11B runtime state keys were invalid"
    else do
      let generation (name : String) :=
        requireReceiptInt (Json.get items (text name)) name 0 maxReceiptGeneration
      let accepted ← requireLastAccepted items
      let digest ← requireOptionalHex (Json.get items (text "transition_observation_digest"))
        "transition_observation_digest"
      let sequence ← generation "transition_sequence"
      if digest.isSome ∧ sequence = 0 then receiptError "transition digest lacked a transition sequence"
      let (priority, controller, recovery) ← requireController items
      let admission ← requireReceiptBool (Json.get items (text "admission_open"))
        "admission_open must be a boolean"
      let clear ← requireReceiptInt (Json.get items (text "distinct_clear_count")) "distinct_clear_count" 0 3
      let resident ← requireReceiptBool (Json.get items (text "model_resident"))
        "model_resident must be a boolean"
      let identity ← requireOptionalHex (Json.get items (text "model_identity_sha256"))
        "model_identity_sha256"
      if resident ≠ identity.isSome then receiptError "model residency and model identity disagreed"
      let load ← generation "model_load_generation"
      let unload ← generation "model_unload_generation"
      let oom ← generation "cuda_oom_generation"
      let failure ← generation "media_failure_generation"
      .ok ⟨accepted, digest, sequence, priority, controller, recovery, admission, clear, resident,
        identity, load, unload, oom, failure⟩
  | _ => receiptError "Task 11B runtime state keys were invalid"

/-- A counter stays, or goes up by one. -/
def requireLossless (before after : ℤ) (name : String) : Except ReceiptError Unit :=
  if after < before ∨ before + 1 < after then receiptError (name ++ " transition was not lossless")
  else .ok ()

/-- `_validate_runtime_transition_locked`. -/
def validateRuntimeTransition (previous : Option RuntimeState) (current : RuntimeState) :
    Except ReceiptError Unit :=
  match previous with
  | none => .ok ()
  | some previous => do
    requireLossless previous.modelLoadGeneration current.modelLoadGeneration "model_load_generation"
    requireLossless previous.modelUnloadGeneration current.modelUnloadGeneration "model_unload_generation"
    requireLossless previous.cudaOomGeneration current.cudaOomGeneration "cuda_oom_generation"
    requireLossless previous.mediaFailureGeneration current.mediaFailureGeneration
      "media_failure_generation"
    let loads := current.modelLoadGeneration - previous.modelLoadGeneration
    let unloads := current.modelUnloadGeneration - previous.modelUnloadGeneration
    if previous.modelResident = current.modelResident then
      if loads ≠ 0 ∨ unloads ≠ 0 then
        receiptError "model generation changed without a residency transition"
      else if current.modelResident ∧ current.modelIdentitySha256 ≠ previous.modelIdentitySha256 then
        receiptError "resident model identity changed without unload and reload"
      else .ok ()
    else if current.modelResident then
      if loads ≠ 1 ∨ unloads ≠ 0 then receiptError "model load transition was invalid" else .ok ()
    else if unloads ≠ 1 ∨ loads ≠ 0 then receiptError "model unload transition was invalid"
    else .ok ()

/-- The loads that are not undone by an unload, without the model that is there. -/
def RuntimeState.balance (state : RuntimeState) : ℤ :=
  state.modelLoadGeneration - state.modelUnloadGeneration - if state.modelResident then 1 else 0

theorem balance_of_transition {previous current : RuntimeState}
    (h : validateRuntimeTransition (some previous) current = .ok ()) :
    current.balance = previous.balance := by
  rw [validateRuntimeTransition] at h
  simp only [Procedure.bind_eq_ok] at h
  obtain ⟨-, -, -, -, -, -, -, -, h⟩ := h
  rw [RuntimeState.balance, RuntimeState.balance]
  split at h
  · next hsame =>
    rw [hsame]
    split at h
    · cases h
    · next hnone => omega
  · next hchanged =>
    split at h
    · next hresident =>
      have hprevious : previous.modelResident = false := by
        rw [hresident] at hchanged
        exact Bool.eq_false_iff.2 hchanged
      split at h
      · cases h
      · next hload =>
        rw [hresident, hprevious, if_pos rfl, if_neg Bool.false_ne_true]
        omega
    · next habsent =>
      have hprevious : previous.modelResident = true := by
        rw [Bool.eq_false_iff.2 habsent] at hchanged
        exact Bool.eq_true_of_not_eq_false hchanged
      split at h
      · cases h
      · next hunload =>
        rw [hprevious, if_pos rfl, if_neg habsent]
        omega

end Subgen

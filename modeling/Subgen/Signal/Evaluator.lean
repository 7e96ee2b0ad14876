import Subgen.Lib.Procedure
import Subgen.Signal.Publication

/-!
# Decisions about the source

What the producer makes of the telemetry of the camera server: the telemetry is normalised
(`normalizeFrigateSource`), and the evaluator decides whether it asserts pressure. It keeps
the newest generation of the telemetry it has seen, with the time it saw it first and the
decision it came to, and counts generations in a row for what must not assert pressure at
once. A generation that is older, or that changed, counts as a failure.

Numbers are floats: an integer of the telemetry is rounded to one, unless none can hold it, and
so are the quotients that are compared with the literals `0.95` and `0.98`, which are floats too.
-/

namespace Subgen

open Procedure

/-! ## Policy and telemetry -/

/-- A policy that was loaded, as far as the evaluation uses it. -/
structure PriorityPolicy where
  frigateVersion : String
  detectionFpsLimit : ℚ
  cameras : List (String × ℚ)
  detectors : List String
  requiredEmbeddingSpeeds : List String
  conditionalEmbeddingPairs : List (String × String)
  frigateConfigSha256 : String
  sha256 : String

/-- `NvidiaObservation`. -/
structure NvidiaObservation where
  index : ℕ
  uuid : String
  driverVersion : String
  computeMode : String
  deriving DecidableEq

/-- Why there is no source: `PolicyDrift`, or `SourceUnavailable`. -/
inductive SourceError
  | policyDrift (message : String)
  | sourceUnavailable (message : String)

/-- `NormalizedSource`. -/
structure NormalizedSource where
  generation : ℤ
  detectionFps : ℚ
  cameras : List (String × ℚ × ℚ)
  detectors : List (String × ℚ)
  embeddings : List (String × Option ℚ)
  frigateVersion : String
  configSha256 : String
  policySha256 : String
  nvidia : NvidiaObservation
  generation_pos : 1 ≤ generation
  generation_le : generation ≤ maxGeneration
  deriving DecidableEq

/-- The least integer that `float` overflows at. -/
def floatOverflow : ℤ := 2 ^ 1024 - 2 ^ 970

/-- `_json_number`, of a number that may be zero: `float(value)`. -/
def jsonNumber (value : Value) (label : String) : Except SourceError ℚ :=
  match value with
  | .int n =>
    if floatOverflow ≤ n ∨ n < 0 then .error (.sourceUnavailable (label ++ " is out of range"))
    else .ok (Binary64.nearest n)
  | .float q =>
    if q < 0 then .error (.sourceUnavailable (label ++ " is out of range")) else .ok q
  | .nonFinite => .error (.sourceUnavailable (label ++ " is out of range"))
  | _ => .error (.sourceUnavailable (label ++ " is not numeric"))

/-- `_positive_generation`. -/
def positiveGeneration : Value → Except SourceError {n : ℤ // 1 ≤ n ∧ n ≤ maxGeneration}
  | .int n =>
    if h : 1 ≤ n ∧ n ≤ maxGeneration then .ok ⟨n, h⟩
    else .error (.sourceUnavailable "Frigate generation is invalid")
  | _ => .error (.sourceUnavailable "Frigate generation is invalid")

/-- A mapping, or the error. -/
def requireDict (error : SourceError) : Value → Except SourceError Dict
  | .dict items => .ok items
  | _ => .error error

/-- A mapping whose keys are these. -/
def requireTopology (error : SourceError) (names : List String) : Value → Except SourceError Dict
  | .dict items =>
    if (∀ k ∈ items.map Prod.fst, k ∈ names) ∧ (∀ k ∈ names, k ∈ items.map Prod.fst) then .ok items
    else .error error
  | _ => .error error

/-- One camera of the policy. -/
def normalizeCamera (cameras : Dict) (name : String) : Except SourceError (String × ℚ × ℚ) := do
  let item ← requireDict (.sourceUnavailable "Frigate camera telemetry is invalid") (cameras.get name)
  let process ← jsonNumber (item.get "process_fps") "camera process FPS"
  let skipped ← jsonNumber (item.get "skipped_fps") "camera skipped FPS"
  .ok (name, process, skipped)

/-- One detector of the policy. -/
def normalizeDetector (detectors : Dict) (name : String) : Except SourceError (String × ℚ) := do
  let item ← requireDict (.sourceUnavailable "Frigate detector telemetry is invalid")
    (detectors.get name)
  let speed ← jsonNumber (item.get "inference_speed") "detector speed"
  .ok (name, speed)

/-- One embedding, which may be missing. -/
def normalizeEmbedding (embeddings : Dict) (name : String) :
    Except SourceError (String × Option ℚ) :=
  match embeddings.lookup name with
  | none => .error (.sourceUnavailable "required embedding telemetry is missing")
  | some value => do
    let speed ← jsonNumber value "embedding speed"
    .ok (name, some speed)

/-- The two embeddings of a pair. -/
def normalizePair (embeddings : Dict) (pair : String × String) :
    Except SourceError (List (String × Option ℚ)) :=
  match embeddings.lookup pair.1, embeddings.lookup pair.2 with
  | none, none => .ok [(pair.1, none), (pair.2, none)]
  | some first, some second => do
    let first ← jsonNumber first "embedding metric"
    let second ← jsonNumber second "embedding metric"
    .ok [(pair.1, some first), (pair.2, some second)]
  | _, _ => .error (.sourceUnavailable "conditional embedding telemetry is incomplete")

/-- `normalize_frigate_source` behind the check of the version. -/
def normalizeStats (stats : Value) (version : String) (nvidia : NvidiaObservation)
    (policy : PriorityPolicy) : Except SourceError NormalizedSource := do
  let stats ← requireDict (.sourceUnavailable "Frigate stats root is invalid") stats
  let service ← requireDict (.sourceUnavailable "Frigate service telemetry is invalid")
    (stats.get "service")
  let generation ← positiveGeneration (service.get "last_updated")
  let detectionFps ← jsonNumber (stats.get "detection_fps") "detection FPS"
  let cameras ← requireTopology (.policyDrift "Frigate camera topology drifted")
    (policy.cameras.map Prod.fst) (stats.get "cameras")
  let cameras ← policy.cameras.mapM fun camera => normalizeCamera cameras camera.1
  let detectors ← requireTopology (.policyDrift "Frigate detector topology drifted")
    policy.detectors (stats.get "detectors")
  let detectors ← policy.detectors.mapM (normalizeDetector detectors)
  let embeddings ← requireDict (.sourceUnavailable "Frigate embedding telemetry is invalid")
    (stats.get "embeddings")
  let required ← policy.requiredEmbeddingSpeeds.mapM (normalizeEmbedding embeddings)
  let pairs ← policy.conditionalEmbeddingPairs.mapM (normalizePair embeddings)
  .ok {
    generation := generation.1
    detectionFps := detectionFps
    cameras := cameras
    detectors := detectors
    embeddings := required ++ pairs.flatten
    frigateVersion := version
    configSha256 := policy.frigateConfigSha256
    policySha256 := policy.sha256
    nvidia := nvidia
    generation_pos := generation.2.1
    generation_le := generation.2.2 }

/-- `normalize_frigate_source`. -/
def normalizeFrigateSource (stats : Value) (version : String) (nvidia : NvidiaObservation)
    (policy : PriorityPolicy) : Except SourceError NormalizedSource :=
  if version ≠ policy.frigateVersion then .error (.policyDrift "Frigate version drifted")
  else normalizeStats stats version nvidia policy

/-- `classify_ollama`: whether models are loaded. -/
def classifyOllama : Value → Except SourceError Bool
  | .dict items =>
    match Dict.get items "models" with
    | .list models =>
      if 128 < models.length then .error (.sourceUnavailable "Ollama model list is invalid")
      else if models.any (fun | .dict _ => false | _ => true) then
        .error (.sourceUnavailable "Ollama model entry is invalid")
      else .ok (!models.isEmpty)
    | _ => .error (.sourceUnavailable "Ollama model list is invalid")
  | _ => .error (.sourceUnavailable "Ollama response root is invalid")

namespace NormalizedSource

variable (source : NormalizedSource)

/-- The frames of each camera as a part of those that are expected of it; the quotient is
    rounded. -/
def ratios (policy : PriorityPolicy) : List ℚ :=
  source.cameras.map fun (name, process, _) =>
    Binary64.nearest (process / (policy.cameras.lookup name).getD 0)

/-- A camera skips frames. -/
def hasSkips : Bool := source.cameras.any fun (_, _, skipped) => 0 < skipped

/-- A camera skips more than half a frame a second. -/
def hasSignificantSkips : Bool := source.cameras.any fun (_, _, skipped) => 1 / 2 < skipped

/-- A detector or an embedding stands still. -/
def hasStalledWorker : Bool :=
  (source.detectors.any fun (_, speed) => speed = 0) ||
    source.embeddings.any fun (_, value) => value = some 0

end NormalizedSource

/-! ## Decisions -/

/-- `SourceDecision`. -/
structure SourceDecision where
  pressure : Bool
  clearEligible : Bool
  reasonCodes : List Text

namespace SourceDecision

/-- A decision that asserts pressure. -/
def asserted (reasons : List Text) : Except Exc SourceDecision :=
  if sortedSet reasons = [] then .error (.valueError "asserted decision needs one reason")
  else .ok ⟨true, false, sortedSet reasons⟩

/-- A decision that may clear. -/
def clear : SourceDecision := ⟨false, true, []⟩

/-- A decision that does neither. -/
def neutral : SourceDecision := ⟨false, false, []⟩

/-- A decision with more reasons. -/
def union (d : SourceDecision) (reasons : List Text) : Except Exc SourceDecision :=
  if sortedSet (d.reasonCodes ++ reasons) = [] then .ok d
  else asserted (sortedSet (d.reasonCodes ++ reasons))

end SourceDecision

/-- The reason for a busy server. -/
def higherPriorityBusy : Text := text "higher_priority_busy"

/-- The reason for a degraded server. -/
def higherPriorityDegraded : Text := text "higher_priority_degraded"

/-- The reason for a server that does not answer. -/
def higherPriorityUnavailable : Text := text "higher_priority_unavailable"

/-- The reason for a drift from the policy. -/
def policyDriftReason : Text := text "policy_drift"

/-- `FrigatePriorityEvaluator`. -/
structure FrigatePriorityEvaluator where
  source : Option NormalizedSource
  sourceObservedNs : Option ℤ
  cachedBaseDecision : Option SourceDecision
  highStreak : ℕ
  lowStreak : ℕ
  skipStreak : ℕ

/-- A method of the evaluator. -/
abbrev EvaluatorM := EStateM Exc FrigatePriorityEvaluator

namespace FrigatePriorityEvaluator

/-- An evaluator that has observed nothing. -/
def new : FrigatePriorityEvaluator := ⟨none, none, none, 0, 0, 0⟩

/-- The three streaks start again. -/
def resetStreaks : EvaluatorM Unit :=
  modify ({ · with highStreak := 0, lowStreak := 0, skipStreak := 0 })

/-- `failure`: the cached decision with some reasons more, if there was a source. -/
def failure (reasons : List Text) : EvaluatorM (Option SourceDecision) := do
  resetStreaks
  let e ← get
  if e.source.isNone then
    pure none
  else
    some <$> ofExcept ((e.cachedBaseDecision.getD .neutral).union reasons)

/-- The reasons that count at once. -/
def immediateReasons (source : NormalizedSource) : List Text :=
  if source.hasSignificantSkips = true ∨ source.hasStalledWorker = true ∨
      source.nvidia.computeMode ≠ "Default" then [higherPriorityDegraded] else []

/-- `_immediate_decision`. -/
def immediateDecision (source : NormalizedSource) : Except Exc SourceDecision :=
  if immediateReasons source = [] then .ok .neutral else SourceDecision.asserted (immediateReasons source)

/-- The literal `0.95`, a float below it: with less of its frames, a camera is degraded. -/
def degradedRatio : ℚ := Binary64.nearest (95 / 100)

/-- The literal `0.98`, a float below it as well: with so much of its frames, a camera is in
    order again. -/
def clearRatio : ℚ := Binary64.nearest (98 / 100)

/-- The streaks behind one more generation. -/
def counted (e : FrigatePriorityEvaluator) (source : NormalizedSource) (policy : PriorityPolicy) :
    FrigatePriorityEvaluator :=
  { e with
    skipStreak := if source.hasSkips then e.skipStreak + 1 else 0
    highStreak := if policy.detectionFpsLimit ≤ source.detectionFps then e.highStreak + 1 else 0
    lowStreak :=
      if (source.ratios policy).any (· < degradedRatio) then e.lowStreak + 1
      else if (source.ratios policy).all (degradedRatio ≤ ·) then 0 else e.lowStreak }

/-- The reasons of a generation, with the streaks behind it. -/
def baseReasons (e : FrigatePriorityEvaluator) (source : NormalizedSource) : List Text :=
  immediateReasons source ++ (if 2 ≤ e.highStreak then [higherPriorityBusy] else []) ++
    (if 2 ≤ e.lowStreak ∨ 3 ≤ e.skipStreak then [higherPriorityDegraded] else [])

/-- `_base_decision`. -/
def baseDecision (source : NormalizedSource) (policy : PriorityPolicy) :
    EvaluatorM SourceDecision := do
  modify (counted · source policy)
  let e ← get
  if e.baseReasons source ≠ [] then
    ofExcept (SourceDecision.asserted (e.baseReasons source))
  else if source.detectionFps < policy.detectionFpsLimit ∧
      (source.ratios policy).all (clearRatio ≤ ·) = true then
    pure .clear
  else
    pure .neutral

/-- A generation that is older than the one before, or that changed. -/
def refuse (reasons : List Text) : EvaluatorM SourceDecision := do
  let result ← failure reasons
  match result with
  | some decision => pure decision
  | none => throw (.foreign "AssertionError" true)

/-- The reasons of the other workload. -/
def ollamaReasons (ollamaBusy ollamaUnavailable : Bool) : List Text :=
  (if ollamaBusy then [higherPriorityBusy] else []) ++ (if ollamaUnavailable then [higherPriorityUnavailable] else [])

/-- The generation that was seen before, once more. -/
def observeAgain (reasons : List Text) (ollamaUnavailable : Bool) : EvaluatorM SourceDecision := do
  if ollamaUnavailable then
    refuse reasons
  else do
    let e ← get
    match e.cachedBaseDecision with
    | none => throw (.runtimeError "cached source decision is unavailable")
    | some decision => ofExcept (decision.union reasons)

/-- The decision about a new generation, without the other workload. -/
def decideNew (source : NormalizedSource) (policy : PriorityPolicy) (ollamaUnavailable : Bool) :
    EvaluatorM SourceDecision := do
  if ollamaUnavailable then do
    resetStreaks
    ofExcept (immediateDecision source)
  else
    baseDecision source policy

/-- A new generation. -/
def observeNew (source : NormalizedSource) (policy : PriorityPolicy) (observedNs : ℤ)
    (reasons : List Text) (ollamaUnavailable : Bool) : EvaluatorM SourceDecision := do
  modify ({ · with source := some source, sourceObservedNs := some observedNs })
  let decision ← decideNew source policy ollamaUnavailable
  modify ({ · with cachedBaseDecision := some decision })
  ofExcept (decision.union reasons)

/-- `observe`. -/
def observe (source : NormalizedSource) (policy : PriorityPolicy) (observedNs : ℤ)
    (ollamaBusy ollamaUnavailable : Bool) : EvaluatorM SourceDecision := do
  let e ← get
  let reasons := ollamaReasons ollamaBusy ollamaUnavailable
  match e.source with
  | none => observeNew source policy observedNs reasons ollamaUnavailable
  | some last =>
    if source.generation < last.generation then
      refuse (reasons ++ [higherPriorityUnavailable])
    else if source.generation = last.generation then
      if source ≠ last then refuse (reasons ++ [higherPriorityUnavailable])
      else observeAgain reasons ollamaUnavailable
    else
      observeNew source policy observedNs reasons ollamaUnavailable

end FrigatePriorityEvaluator

end Subgen

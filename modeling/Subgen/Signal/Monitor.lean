import Mathlib
import Subgen.Signal.Evaluator

/-!
# The producer of the signal

One poll of the producer loads its policy, probes its sources and publishes the decision of
the evaluator (`pollOnce`). A failure of a source is published, too, as long as there was a
source before. Each publication takes a new reading of the clock and the next sequence
number.

What the probes gave is the input of a poll (`Probes`). The clock gives its readings one
after another. A poll that raises ends the run (`run` of the source lets it through), so that
a run is the list of its polls up to the first one that raises (`runPolls`).
-/

namespace Subgen

open Procedure

/-- A configuration that passed the checks of `from_environment` and of `start`, with the hash
    of the boot and the epoch. -/
structure ProducerConfig where
  expectedPolicySha256 : Text
  bootSha256 : Text
  epoch : Text
  ollamaEnabled : Bool
  policy_hex : isHex 64 expectedPolicySha256 = true
  boot_hex : isHex 64 bootSha256 = true
  epoch_hex : isHex 32 epoch = true

/-- What the producer asks for outside: the readings of a monotonic clock, one after another,
    and the ids of its observations, of 32 random bytes each. -/
structure ProducerEnvironment where
  clockNs : ℕ → ℤ
  tokenHex : ℕ → Text
  clock_strictMono : StrictMono clockNs
  token_hex : ∀ n, isHex 64 (tokenHex n) = true

/-- What the policy store gives. -/
inductive PolicyResult
  | loaded (policy : PriorityPolicy)
  | drifted
  | raised (error : Exc)

/-- What a probe gives: a value, the error `PolicyDrift`, or another error. -/
inductive ProbeResult (α : Type)
  | value (a : α)
  | drifted
  | failed

/-- What the write of a publication does: it may fail before the file is replaced, or behind it. -/
inductive WriteResult
  | written
  | failedBefore
  | failedBehind
  deriving DecidableEq

/-- What one poll finds. -/
structure Probes where
  policy : PolicyResult
  stats : ProbeResult Value
  version : ProbeResult String
  ollama : ProbeResult Value
  nvidia : ProbeResult NvidiaObservation
  write : WriteResult

/-- A publication in the file, with the decision behind it. -/
structure Written where
  decision : SourceDecision
  arguments : PublicationArguments
  payload : List UInt8

/-- The producer, the number of readings of the clock, and what it has written, in its order. -/
structure FrigatePriorityMonitor where
  evaluator : FrigatePriorityEvaluator
  sequence : ℕ
  ticks : ℕ
  written : List Written

/-- A method of the monitor. -/
abbrev MonitorM := EStateM Exc FrigatePriorityMonitor

namespace FrigatePriorityMonitor

/-- A monitor that has polled nothing. -/
def new : FrigatePriorityMonitor := ⟨.new, 0, 0, []⟩

variable (config : ProducerConfig) (env : ProducerEnvironment)

/-- `self._clock_ns()`. -/
def now : MonitorM ℤ := modifyGet fun m => (env.clockNs m.ticks, { m with ticks := m.ticks + 1 })

/-- What is done to the evaluator. -/
def onEvaluator {α : Type} : EvaluatorM α → MonitorM α :=
  zoom FrigatePriorityMonitor.evaluator fun m e => { m with evaluator := e }

/-- `source_generation`, or an error without a source. -/
def sourceGeneration (e : FrigatePriorityEvaluator) : Except Exc ℤ :=
  match e.source with
  | none => .error (.runtimeError "no valid source generation exists")
  | some source => .ok source.generation

/-- The time of the last source, which has to be there. -/
def sourceObservedNs (e : FrigatePriorityEvaluator) : Except Exc ℤ :=
  match e.sourceObservedNs with
  | none => .error (.runtimeError "no valid source timestamp exists")
  | some observedNs => .ok observedNs

/-- The arguments of a publication. -/
def arguments (m : FrigatePriorityMonitor) (decision : SourceDecision)
    (observedNs generation sourceObserved : ℤ) : PublicationArguments where
  bootIdSha256 := config.bootSha256
  producerEpoch := config.epoch
  sequence := m.sequence + 1
  observedMonotonicNs := observedNs
  sourceGeneration := generation
  sourceObservedMonotonicNs := sourceObserved
  observationId := env.tokenHex m.ticks
  policySha256 := config.expectedPolicySha256
  pressure := decision.pressure
  clearEligible := decision.clearEligible
  reasonCodes := decision.reasonCodes

/-- `self._signals.publish(payload)`, and the sequence number behind it. -/
def write (w : Written) : WriteResult → MonitorM Unit
  | .written => modify fun m => { m with written := m.written ++ [w], sequence := m.sequence + 1 }
  | .failedBefore => throw (.runtimeError "signal publication failed")
  | .failedBehind => do
    modify fun m => { m with written := m.written ++ [w] }
    throw (.runtimeError "signal publication failed")

/-- The check of the clock. -/
def requireClock (observedNs : ℤ) : Except Exc Unit :=
  if 1 ≤ observedNs ∧ observedNs ≤ maxGeneration then .ok ()
  else .error (.runtimeError "monotonic clock is invalid")

/-- `_publish`. -/
def publish (decision : SourceDecision) (result : WriteResult) : MonitorM Unit := do
  let observedNs ← now env
  ofExcept (requireClock observedNs)
  let m ← get
  let generation ← ofExcept (sourceGeneration m.evaluator)
  let sourceObserved ← ofExcept (sourceObservedNs m.evaluator)
  let a := m.arguments config env decision observedNs generation sourceObserved
  let payload ← ofExcept (encodePriorityPublication a)
  write ⟨decision, a, payload⟩ result

/-- A decision is published, if there is one. -/
def publishSome (result : WriteResult) : Option SourceDecision → MonitorM Bool
  | none => pure false
  | some decision => do
    publish config env decision result
    pure true

/-- The reason of a probe that failed. -/
def probeReasons {α : Type} : ProbeResult α → List Text
  | .value _ => []
  | .drifted => [policyDriftReason]
  | .failed => [higherPriorityUnavailable]

/-- The reasons that an error is published with. -/
def sourceErrorReasons : SourceError → List Text
  | .policyDrift _ => [policyDriftReason]
  | .sourceUnavailable _ => [higherPriorityUnavailable]

/-- The source of a poll, or the reasons why there is none. -/
def normalize (probes : Probes) (policy : PriorityPolicy) : Except (List Text) NormalizedSource :=
  match probes.stats, probes.version, probes.nvidia with
  | .value stats, .value version, .value nvidia =>
    match normalizeFrigateSource stats version nvidia policy with
    | .ok source => .ok source
    | .error e => .error (sourceErrorReasons e)
  | stats, version, nvidia =>
    .error (probeReasons stats ++ probeReasons version ++ probeReasons nvidia)

/-- Whether the other workload is busy, and whether that could not be found out. -/
def ollama (probes : Probes) : Bool × Bool :=
  if config.ollamaEnabled then
    match probes.ollama with
    | .value v =>
      match classifyOllama v with
      | .ok busy => (busy, false)
      | .error _ => (false, true)
    | _ => (false, true)
  else
    (false, false)

/-- A poll with a policy. -/
def pollSource (probes : Probes) (policy : PriorityPolicy) : MonitorM Bool := do
  let (ollamaBusy, ollamaUnavailable) := ollama config probes
  match normalize probes policy with
  | .error reasons => do
    let decision ← onEvaluator (FrigatePriorityEvaluator.failure (reasons ++
      FrigatePriorityEvaluator.ollamaReasons ollamaBusy ollamaUnavailable))
    publishSome config env probes.write decision
  | .ok source => do
    let observedNs ← now env
    let decision ← onEvaluator (FrigatePriorityEvaluator.observe source policy observedNs ollamaBusy
      ollamaUnavailable)
    publishSome config env probes.write (some decision)

/-- `poll_once`. -/
def pollOnce (probes : Probes) : MonitorM Bool :=
  match probes.policy with
  | .drifted => do
    let decision ← onEvaluator (FrigatePriorityEvaluator.failure [policyDriftReason])
    publishSome config env probes.write decision
  | .raised error => throw error
  | .loaded policy => pollSource config env probes policy

/-- The polls of a run, up to the first one that raises: the producer behind them, and the
    error, if there was one. -/
def runPolls (m : FrigatePriorityMonitor) : List Probes → FrigatePriorityMonitor × Option Exc
  | [] => (m, none)
  | probes :: rest =>
    match pollOnce config env probes m with
    | .ok _ m' => runPolls m' rest
    | .error e m' => (m', some e)

end FrigatePriorityMonitor

end Subgen

import Subgen.Value
import Mathlib.Data.Rat.Floor

/-!
# The adaptive working duration

How much of a file a worker is given at a time: it starts at a baseline, is halved
when memory is short, and grows back after a few successes. Two allocation failures
in a row at the minimum exhaust the file.

Durations are whole seconds; only what was attempted is any number. A pressure yield, an allocation failure, a
success and a recovery of the external pressure each are a method of `AdaptiveChunkState`. A failure that says
how much was attempted first limits the duration to that (`limitToAttempt`). Failures are counted at the minimum
alone, and every other call starts their count again.
-/

namespace Subgen

/-- The duration and the failure counts of one worker, over one file. The durations are
    positive, and the baseline is not below the minimum. -/
structure AdaptiveChunkState where
  baselineSeconds : ℕ
  minimumSeconds : ℕ
  successesToGrow : ℕ
  currentSeconds : ℕ
  minimumAllocationFailures : ℕ
  consecutiveHealthySuccesses : ℕ
  minimum_pos : 0 < minimumSeconds
  minimum_le : minimumSeconds ≤ currentSeconds
  baseline_le : minimumSeconds ≤ baselineSeconds
  deriving DecidableEq

namespace AdaptiveChunkState

/-- `__init__`. -/
def new (baselineSeconds minimumSeconds successesToGrow : ℤ) : Except Exc AdaptiveChunkState :=
  if baselineSeconds ≤ 0 then
    .error (.valueError "Chunk baseline must be a positive integer")
  else if hm : minimumSeconds ≤ 0 then
    .error (.valueError "Chunk minimum must be a positive integer")
  else if successesToGrow ≤ 0 then
    .error (.valueError "Chunk success count must be a positive integer")
  else if hb : baselineSeconds < minimumSeconds then
    .error (.valueError "Chunk baseline must not be below its minimum")
  else
    .ok ⟨baselineSeconds.toNat, minimumSeconds.toNat, successesToGrow.toNat,
      baselineSeconds.toNat, 0, 0, by omega, by omega, by omega⟩

variable (a : AdaptiveChunkState)

/-- `exhausted`. -/
def exhausted : Bool := 2 ≤ a.minimumAllocationFailures

/-- Half the duration, but not below the minimum. -/
def shrink : AdaptiveChunkState :=
  { a with
    currentSeconds := max a.minimumSeconds (a.currentSeconds / 2)
    consecutiveHealthySuccesses := 0
    minimum_le := le_max_left _ _ }

/-- External pressure shrinks the duration, and counts no failure. -/
def recordPressureYield : AdaptiveChunkState := { a with minimumAllocationFailures := 0 }.shrink

/-- `record_external_pressure_recovery`. -/
def recordExternalPressureRecovery : AdaptiveChunkState :=
  { a with minimumAllocationFailures := 0, consecutiveHealthySuccesses := 0 }

/-- The size that actually failed counts, if it is known. -/
def limitToAttempt (attemptedSeconds : ℚ) : AdaptiveChunkState :=
  { a with
    currentSeconds := min a.currentSeconds (max a.minimumSeconds ⌊attemptedSeconds⌋.toNat)
    minimum_le := le_min a.minimum_le (le_max_left _ _) }

/-- The state after an allocation failure; `exhausted` of it is what the method returns. -/
def recordAllocationFailure (attemptedSeconds : Option ℚ) : Except Exc AdaptiveChunkState :=
  match attemptedSeconds with
  | none => .ok (failed a)
  | some q =>
    if q ≤ 0 then .error (.valueError "Attempted chunk duration must be finite and positive")
    else .ok (failed (a.limitToAttempt q))
where
  failed (a : AdaptiveChunkState) : AdaptiveChunkState :=
    { a.shrink with
      minimumAllocationFailures :=
        if a.currentSeconds = a.minimumSeconds then a.minimumAllocationFailures + 1 else 0 }

/-- Three successful chunks in a row, with healthy samples, double the duration. -/
def recordSuccess (healthy : Bool) : AdaptiveChunkState :=
  if ¬ healthy ∨ a.baselineSeconds ≤ a.currentSeconds then
    { a with minimumAllocationFailures := 0, consecutiveHealthySuccesses := 0 }
  else if a.successesToGrow ≤ a.consecutiveHealthySuccesses + 1 then
    { a with
      minimumAllocationFailures := 0
      currentSeconds := min a.baselineSeconds (a.currentSeconds * 2)
      consecutiveHealthySuccesses := 0
      minimum_le := le_min a.baseline_le (a.minimum_le.trans (Nat.le_mul_of_pos_right _ two_pos)) }
  else
    { a with
      minimumAllocationFailures := 0
      consecutiveHealthySuccesses := a.consecutiveHealthySuccesses + 1 }

end AdaptiveChunkState

/-- `_external_pressure_recovered`: an exact monotonic generation window; `none` is any
    other object. -/
def externalPressureRecovered : Option (ℤ × ℤ) → Bool
  | some (before, after) => 0 ≤ before ∧ before < after
  | none => false

end Subgen

import Subgen.Segmentation.Adaptive
import Subgen.Segmentation.Commit

/-!
# The sequential driver

`run_segmented_transcription` transcribes one file chunk after chunk. An attempt on a
window extracts it, runs the inference and stages the result; memory pressure and a
failed allocation end the attempt and not the file, which goes on at the same cursor
with another duration. Everything else that raises ends the file.

All its work is done by callbacks, which act on a world of their own and may raise
anything at any time, except for the three observers of the lifecycle. What they were
called with is recorded as a trace of events.
-/

namespace Subgen

open Procedure

/-- The callbacks of the driver, and the adaptive policy. -/
structure SegmentedCallbacks (W : Type) where
  Audio : Type
  currentSeconds : EStateM Exc W ℚ
  recordPressureYield : EStateM Exc W Unit
  recordAllocationFailure : EStateM Exc W Bool
  recordExternalPressureRecovery : EStateM Exc W Unit
  recordSuccess : Bool → EStateM Exc W Unit
  extractChunk : ChunkWindow → EStateM Exc W Audio
  /-- The inference; it is given what a progress report is mapped to. -/
  transcribeChunk : Audio → ChunkWindow → (ℚ → ℚ → ℚ × ℚ) → EStateM Exc W Value
  releaseFailure : Exc → ChunkWindow → EStateM Exc W Unit
  /-- A recovery window is a pair of integers; `none` is any other object. -/
  waitForRecovery : Exc → ChunkWindow → EStateM Exc W (Option (ℤ × ℤ))
  persistChunk : PersistChunk W
  finalizeAssembly : AssemblyState → EStateM Exc W Value
  checkCancelled : EStateM Exc W Unit
  checkBeforeCommit : EStateM Exc W Bool
  isAllocationFailure : Exc → EStateM Exc W Bool
  chunkStarted : ChunkWindow → W → W
  chunkUnwound : ChunkWindow → W → W
  chunkCommitted : ChunkWindow → AssemblyState → W → W
  overlapSeconds : ℚ

/-- What the lifecycle observers and the storage were called with. `handed` is a call of the
    persistence callback, and `persisted` its return. -/
inductive Event
  | started (window : ChunkWindow)
  | unwound (window : ChunkWindow)
  | committed (window : ChunkWindow) (state : AssemblyState)
  | handed (window : ChunkWindow) (staged : StagedChunk) (state : AssemblyState)
  | persisted (window : ChunkWindow)
  | finalized (state : AssemblyState)
  deriving DecidableEq

/-- The world, the trace, and the flag that an attempt is under way. -/
structure Session (W : Type) where
  world : W
  events : List Event
  chunkIsUncommitted : Bool

/-- What progress on the clock of the extraction is reported as. -/
def mappedProgress (window : ChunkWindow) (seek total : ℚ) : ℚ × ℚ :=
  if total ≤ 0 then
    (window.coreStart, window.mediaDuration)
  else
    let boundedSeek := min (max 0 seek) (window.extractEnd - window.extractStart)
    (min (max (window.extractStart + boundedSeek) window.coreStart) window.coreEnd,
      window.mediaDuration)

/-- How an attempt ends, if it ends without ending the file. -/
inductive Attempt
  | pressure (error : Exc)
  | allocation (error : Exc)
  | staged (chunk : StagedChunk) (healthy : Bool)

namespace Session

variable {W : Type}

/-- A callback. -/
def call {α : Type} (m : EStateM Exc W α) : EStateM Exc (Session W) α :=
  zoom world (fun s w => { s with world := w }) m

/-- An event on the trace. -/
def record (event : Event) : EStateM Exc (Session W) Unit :=
  modify fun s => { s with events := s.events ++ [event] }

variable (cb : SegmentedCallbacks W)

/-- `chunk_started`. -/
def chunkStarted (window : ChunkWindow) : EStateM Exc (Session W) Unit := do
  record (.started window)
  modify fun s => { s with world := cb.chunkStarted window s.world }

/-- `chunk_unwound`. -/
def chunkUnwound (window : ChunkWindow) : EStateM Exc (Session W) Unit := do
  record (.unwound window)
  modify fun s => { s with world := cb.chunkUnwound window s.world }

/-- `chunk_committed`. -/
def chunkCommitted (window : ChunkWindow) (state : AssemblyState) :
    EStateM Exc (Session W) Unit := do
  record (.committed window state)
  modify fun s => { s with world := cb.chunkCommitted window state s.world }

/-- `persist_chunk`, with the record of what it was handed. -/
def persistChunk : PersistChunk (Session W) := fun window staged state => do
  record (.handed window staged state)
  call (cb.persistChunk window staged state)
  record (.persisted window)

/-- `chunk_is_uncommitted = ...`. -/
def setUncommitted (b : Bool) : EStateM Exc (Session W) Unit :=
  modify fun s => { s with chunkIsUncommitted := b }

/-- The window is unwound if its attempt is still under way. -/
def unwindUncommitted (window : ChunkWindow) : EStateM Exc (Session W) Unit := do
  let s ← get
  if s.chunkIsUncommitted then
    chunkUnwound cb window
    setUncommitted false
  else
    pure ()

/-- The inference; of what it raises, pressure and allocation failures end the attempt. -/
def transcribe (audio : cb.Audio) (window : ChunkWindow) :
    EStateM Exc (Session W) (Except Attempt Value) :=
  tryCatch (Except.ok <$> call (cb.transcribeChunk audio window (mappedProgress window)))
    fun e =>
      if e.isMemoryPressureYield then
        pure (.error (.pressure e))
      else if e.isException then do
        let allocation ← call (cb.isAllocationFailure e)
        if allocation then pure (.error (.allocation e)) else throw e
      else
        throw e

/-- The health check before the commit. -/
def checkHealth (staged : StagedChunk) : EStateM Exc (Session W) Attempt :=
  tryCatch (Attempt.staged staged <$> call cb.checkBeforeCommit) fun e =>
    if e.isMemoryPressureYield then pure (.pressure e) else throw e

/-- From the start of an attempt to a staged chunk, inside the outer `try`. -/
def attemptBody (audio : cb.Audio) (window : ChunkWindow) : EStateM Exc (Session W) Attempt := do
  call cb.checkCancelled
  chunkStarted cb window
  setUncommitted true
  let outcome ← transcribe cb audio window
  match outcome with
  | .error attempt => pure attempt
  | .ok result =>
    call cb.checkCancelled
    let staged ← ofExcept (stageChunkResult result window)
    call cb.checkCancelled
    checkHealth cb staged

/-- An attempt; whatever it raises, its window is unwound first. -/
def attempt (audio : cb.Audio) (window : ChunkWindow) : EStateM Exc (Session W) Attempt :=
  tryCatch (attemptBody cb audio window) fun e => do
    unwindUncommitted cb window
    throw e

/-- After an attempt that failed: the window is unwound, and the recovery waited for.
    `exhausted` is what the policy says after the failure. -/
def recoverFrom (error : Exc) (window : ChunkWindow) (isAllocation : Bool) :
    EStateM Exc (Session W) Unit := do
  chunkUnwound cb window
  setUncommitted false
  call (cb.releaseFailure error window)
  call cb.checkCancelled
  let exhausted ← call (if isAllocation then cb.recordAllocationFailure
    else (fun _ => false) <$> cb.recordPressureYield)
  let recoveryWindow ← call (cb.waitForRecovery error window)
  call cb.checkCancelled
  if isAllocation ∧ externalPressureRecovered recoveryWindow then
    call cb.recordExternalPressureRecovery
  else if exhausted then
    throw error
  else
    pure ()

/-- The commit of the `try` block. -/
def commitBody (state : AssemblyState) (window : ChunkWindow) (staged : StagedChunk) :
    EStateM Exc (Session W) AssemblyState := do
  let nextState ← commitChunk state window staged (persistChunk cb)
  chunkCommitted cb window nextState
  setUncommitted false
  pure nextState

/-- A staged chunk is committed, or unwound if that raises; `finally` finds nothing to do
    after a commit. -/
def commit (state : AssemblyState) (window : ChunkWindow) (staged : StagedChunk) (healthy : Bool) :
    EStateM Exc (Session W) AssemblyState := do
  let nextState ← tryCatch (commitBody cb state window staged) fun e => do
    unwindUncommitted cb window
    throw e
  unwindUncommitted cb window
  call cb.checkCancelled
  call (cb.recordSuccess healthy)
  pure nextState

/-- One round of the loop, from an incomplete state: the state of the next round, and
    whether the loop is left. -/
def round (state : AssemblyState) : EStateM Exc (Session W) (AssemblyState × Bool) := do
  call cb.checkCancelled
  let coreSeconds ← call cb.currentSeconds
  let window? ← ofExcept (planNextWindow state.cursor state.mediaDuration coreSeconds
    state.completedChunks cb.overlapSeconds)
  match window? with
  | none => pure (state, true)
  | some window =>
    call cb.checkCancelled
    let audio ← call (cb.extractChunk window)
    setUncommitted false
    let outcome ← attempt cb audio window
    match outcome with
    | .pressure e =>
      recoverFrom cb e window false
      pure (state, false)
    | .allocation e =>
      recoverFrom cb e window true
      pure (state, false)
    | .staged staged healthy =>
      let nextState ← commit cb state window staged healthy
      pure (nextState, false)

/-- The loop, for at most `fuel` rounds; the state in which it is left. -/
def loop : ℕ → AssemblyState → EStateM Exc (Session W) (Option AssemblyState)
  | 0, _ => pure none
  | fuel + 1, state =>
    if state.complete then
      pure (some state)
    else do
      let (next, left) ← round cb state
      if left then pure (some next) else loop fuel next

/-- The end of the run, after the loop. -/
def finish (state : AssemblyState) : EStateM Exc (Session W) Value := do
  call cb.checkCancelled
  record (.finalized state)
  let result ← call (cb.finalizeAssembly state)
  call cb.checkCancelled
  pure result

/-- `run_segmented_transcription`; no result while the loop has not been left. -/
def runSegmentedTranscription (mediaDuration : ℚ) (fuel : ℕ) :
    EStateM Exc (Session W) (Option Value) := do
  let duration ← ofExcept (positiveNumber mediaDuration "media_duration")
  let state ← ofExcept (AssemblyState.empty duration)
  let left ← loop cb fuel state
  match left with
  | none => pure none
  | some state => some <$> finish cb state

end Session

end Subgen

import Subgen.Lib.Procedure
import Subgen.Lib.Partition
import Subgen.Segmentation.Commit
import Mathlib.Data.List.AList
import Mathlib.Data.Prod.Lex

/-!
# The chunk coordinator

Several workers transcribe one media at the same time. The *coordinator* is the
single owner of the scheduling state: it hands out windows (`claim`), takes back
the range of an attempt that gave up (`yielded`), spools the output of one that
succeeded (`completed`) and commits the spooled chunks in source order
(`commitReady`).

The timeline of the media is in five places: the committed prefix, the chunks
that are spooled (`ready`), the assignments in flight, the ranges to retry, and
the fresh range that no worker has seen. Storage is behind callbacks, which act
on a world of their own and may raise.

A run is a sequence of calls, in any order, by any worker and on any attempt,
the raising ones included (`run`).
-/

namespace Subgen

open Procedure

/-- The identity of an assignment object: it comes from a claim, or from elsewhere. Two
    assignments are the same object when they agree in it and in the fields. -/
inductive Identity
  | claimed (attempt : ℕ)
  | foreign (n : ℕ)
  deriving DecidableEq

/-- An attempt; the ordinal of its window is not yet a committed chunk number. -/
structure ChunkAssignment where
  identity : Identity
  worker : String
  window : ChunkWindow
  deriving DecidableEq

/-- The storage callbacks: staged chunks are spooled under a handle. -/
structure Callbacks (W H : Type) where
  storeResult : StagedChunk → EStateM Exc W H
  readResult : H → EStateM Exc W StagedChunk
  discardResult : H → EStateM Exc W Unit
  persistChunk : PersistChunk W

/-- The scheduling state. -/
structure Coordinator (H : Type) where
  state : AssemblyState
  workers : List String
  overlap : ℚ
  cursor : ℚ
  attempt : ℕ
  inflight : AList fun _ : String => ChunkAssignment
  ready : AList fun _ : ℚ => ChunkWindow × H
  retry : List (ℚ × ℚ)
  closed : Bool
  dispatchPaused : Bool

variable {W H : Type}

namespace Coordinator

/-- `__init__`. -/
def new (mediaDuration : ℚ) (workers : List String) (overlapSeconds : ℚ) :
    Except Exc (Coordinator H) :=
  if ¬ (1 ≤ workers.length ∧ workers.length ≤ 32) ∨ (∃ w ∈ workers, w = "" ∨ 64 < w.length) ∨
      ¬ workers.Nodup then
    .error (.valueError "Scheduler requires 1 to 32 distinct worker identities")
  else do
    let state ← AssemblyState.empty mediaDuration
    if overlapSeconds < 0 then
      .error (.segmentationError "overlap_seconds must not be negative")
    else
      .ok ⟨state, workers, overlapSeconds, 0, 0, ∅, ∅, [], false, false⟩

variable (c : Coordinator H)

/-- Extra lookahead is on disk, not a growing result queue in memory. -/
def maximumPending : ℕ := 2 * c.workers.length

/-- The chunks that are claimed and not committed. -/
def pendingCount : ℕ := c.inflight.entries.length + c.ready.entries.length

/-- The range that the next claim takes from: the earliest retry, or the fresh one. -/
def nextRange : ℚ × ℚ := c.retry.head?.getD (c.cursor, c.state.mediaDuration)

/-- The claimed window is cut off the range that it was planned in: the ranges to retry,
    and the cursor of the fresh one. -/
def takeRange (window : ChunkWindow) : List (ℚ × ℚ) × ℚ :=
  match c.retry with
  | (_, limit) :: rest =>
    if window.coreEnd = limit then (rest, c.cursor)
    else ((window.coreEnd, limit) :: rest, c.cursor)
  | [] => ([], window.coreEnd)

/-- The claimed window becomes an attempt in flight. -/
def assign (worker : String) (window : ChunkWindow) : Coordinator H :=
  { c with
    retry := (c.takeRange window).1
    cursor := (c.takeRange window).2
    attempt := c.attempt + 1
    inflight := c.inflight.insert worker ⟨.claimed c.attempt, worker, window⟩ }

/-- The ranges to retry, with one more: sorted, and the adjacent ones joined. -/
def retryWith (range : ℚ × ℚ) : List (ℚ × ℚ) :=
  coalesce ((c.retry ++ [range]).insertionSort fun p q => toLex p ≤ toLex q)

/-- The range of an attempt goes back to those to retry. -/
def putBack (assignment : ChunkAssignment) : Coordinator H :=
  { c with
    retry := c.retryWith assignment.window.core
    inflight := c.inflight.erase assignment.worker }

/-- The output of an attempt is spooled under a handle. -/
def spool (assignment : ChunkAssignment) (handle : H) : Coordinator H :=
  { c with
    ready := c.ready.insert assignment.window.coreStart (assignment.window, handle)
    inflight := c.inflight.erase assignment.worker }

/-- The chunk at the cursor is committed. -/
def advance (nextState : AssemblyState) : Coordinator H :=
  { c with ready := c.ready.erase c.state.cursor, state := nextState }

/-- `pause_dispatch`. -/
def pauseDispatch (paused : Value) : EStateM Exc (Coordinator H) Unit :=
  match paused with
  | .bool b => modify fun c => { c with dispatchPaused := b }
  | _ => throw (.valueError "Dispatch pause must be a boolean")

/-- An available worker gets the earliest retry, otherwise fresh work. -/
def claim [Rounding] (worker : String) (coreSeconds : ℚ) :
    EStateM Exc (Coordinator H) (Option ChunkAssignment) := do
  let c ← get
  if c.closed then
    throw (.runtimeError "Chunk scheduler is closed")
  else if worker ∉ c.workers then
    throw (.valueError "Unknown chunk worker")
  else
    let seconds ← ofExcept (positiveNumber coreSeconds "core_seconds")
    if worker ∈ c.inflight then
      throw (.runtimeError "Worker already has an in-flight chunk")
    else if c.dispatchPaused ∨ c.maximumPending ≤ c.pendingCount then
      pure none
    else if c.nextRange.1 = c.nextRange.2 then
      pure none
    else
      let window? ← ofExcept (planNextWindow c.nextRange.1 c.state.mediaDuration
        (min seconds (rounded (c.nextRange.2 - c.nextRange.1))) c.attempt c.overlap)
      match window? with
      -- The assignment is built, and its window then asked for the core end.
      | none => throw (.attributeError "'NoneType' object has no attribute 'core_end'")
      | some window =>
        set (c.assign worker window)
        pure (some ⟨.claimed c.attempt, worker, window⟩)

/-- `_require_attempt`: the attempt is the one its worker has in flight, as an object;
    `none` stands for an object of another type. -/
def requireAttempt (assignment : Option ChunkAssignment) :
    EStateM Exc (Coordinator H) ChunkAssignment := do
  let c ← get
  if c.closed then
    throw (.runtimeError "Chunk scheduler is closed")
  else
    match assignment with
    | none => throw (.segmentationError "Late, duplicate, or unknown chunk attempt")
    | some a =>
      if c.inflight.lookup a.worker = some a then
        pure a
      else
        throw (.segmentationError "Late, duplicate, or unknown chunk attempt")

/-- The range of an attempt that has unwound is returned. -/
def yielded (assignment : Option ChunkAssignment) : EStateM Exc (Coordinator H) Unit := do
  let a ← requireAttempt assignment
  modify fun c => c.putBack a

/-- The limit of a `commit_ready`, if there is one. -/
def commitLimit (maximumCommits : Value) : Except Exc (Option ℕ) :=
  match maximumCommits with
  | .none => .ok none
  | .int n =>
    if n < 1 then .error (.valueError "Commit limit must be a positive integer")
    else .ok (some n.toNat)
  | _ => .error (.valueError "Commit limit must be a positive integer")

end Coordinator

/-- The coordinator, and the world that its callbacks act on. -/
structure Scheduler (W H : Type) where
  self : Coordinator H
  world : W

namespace Scheduler

/-- A procedure of the coordinator. -/
def onSelf {α : Type} (m : EStateM Exc (Coordinator H) α) : EStateM Exc (Scheduler W H) α :=
  zoom self (fun s c => { s with self := c }) m

/-- A procedure of the world. -/
def onWorld {α : Type} (m : EStateM Exc W α) : EStateM Exc (Scheduler W H) α :=
  zoom world (fun s w => { s with world := w }) m

variable (cb : Callbacks W H)

/-- The output of an attempt is staged, and stored. -/
def completed [Rounding] (assignment : Option ChunkAssignment) (result : Value) :
    EStateM Exc (Scheduler W H) Unit := do
  let a ← onSelf (Coordinator.requireAttempt assignment)
  let staged ← ofExcept (stageChunkResult result a.window)
  let handle ← onWorld (cb.storeResult staged)
  onSelf (modify fun c => c.spool a handle)

/-- The commit of one ready chunk, the body of the loop. Only the successful commit in
    source order assigns the final ordinal. -/
def commitFront (window : ChunkWindow) (handle : H) :
    EStateM Exc (Scheduler W H) ChunkWindow := do
  let staged ← onWorld (cb.readResult handle)
  let c ← onSelf get
  let window := window.withOrdinal c.state.completedChunks
  let nextState ← onWorld (commitChunk c.state window staged cb.persistChunk)
  onSelf (modify fun c => c.advance nextState)
  onWorld (cb.discardResult handle)
  pure window

/-- The loop of `commit_ready`. Each round takes one entry out of the ready ones, so that
    as many rounds as there are entries are enough. -/
def commitLoop (checkBeforeCommit : EStateM Exc W Bool) (limit : Option ℕ) :
    ℕ → List ChunkWindow → EStateM Exc (Scheduler W H) (List ChunkWindow)
  | 0, committed => pure committed
  | rounds + 1, committed => do
    let c ← onSelf get
    match c.ready.lookup c.state.cursor with
    | none => pure committed
    | some (window, handle) =>
      if limit.any (· ≤ committed.length) then
        pure committed
      else
        let healthy ← onWorld checkBeforeCommit
        if healthy then
          let window ← commitFront cb window handle
          commitLoop checkBeforeCommit limit rounds (committed ++ [window])
        else
          pure committed

/-- The contiguous prefix is committed; later staged sections stay. -/
def commitReady (checkBeforeCommit : EStateM Exc W Bool) (maximumCommits : Value) :
    EStateM Exc (Scheduler W H) (List ChunkWindow) := do
  let c ← onSelf get
  if c.closed then
    throw (.runtimeError "Chunk scheduler is closed")
  else
    let limit ← ofExcept (Coordinator.commitLimit maximumCommits)
    commitLoop cb checkBeforeCommit limit c.ready.entries.length []

/-- Staged output is dropped, in the order it was stored; the rest is cleared also when
    a callback raises. -/
def close : EStateM Exc (Scheduler W H) Unit := do
  onSelf (modify fun c => { c with closed := true })
  let c ← onSelf get
  let clear : EStateM Exc (Scheduler W H) Unit :=
    onSelf (modify fun c => { c with ready := ∅, retry := [], inflight := ∅ })
  tryCatch (forM c.ready.entries.reverse fun entry => onWorld (cb.discardResult entry.2.2))
    fun e => clear >>= fun _ => throw e
  clear

end Scheduler

/-- A call of a method of the coordinator, with its arguments. -/
inductive Call (W : Type)
  | claim (worker : String) (coreSeconds : ℚ)
  | yielded (assignment : Option ChunkAssignment)
  | completed (assignment : Option ChunkAssignment) (result : Value)
  | commitReady (checkBeforeCommit : EStateM Exc W Bool) (maximumCommits : Value)
  | pauseDispatch (paused : Value)
  | close

namespace Scheduler

/-- One call; what it returns or raises goes to the caller, who is not modelled here. -/
def perform [Rounding] (cb : Callbacks W H) : Call W → EStateM Exc (Scheduler W H) Unit
  | .claim worker coreSeconds => do let _ ← onSelf (Coordinator.claim worker coreSeconds)
  | .yielded assignment => onSelf (Coordinator.yielded assignment)
  | .completed assignment result => completed cb assignment result
  | .commitReady check maximumCommits => do let _ ← commitReady cb check maximumCommits
  | .pauseDispatch paused => onSelf (Coordinator.pauseDispatch paused)
  | .close => close cb

/-- A sequence of calls; one that raises leaves behind what it had written. -/
def run [Rounding] (cb : Callbacks W H) (s : Scheduler W H) (calls : List (Call W)) : Scheduler W H :=
  calls.foldl (fun s call => after (perform cb call) s) s

end Scheduler

end Subgen

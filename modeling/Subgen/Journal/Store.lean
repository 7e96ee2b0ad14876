import Subgen.Journal.Record
import Subgen.Lib.Storage

/-!
# The segment journal

The committed chunks of one task, as a file of records. A commit writes its record
behind the committed bytes and then moves the counters; if the file fails, it is cut
back, and if that fails too, the journal is poisoned.

The readers are generators. A generator is its local variables (`ForwardIterator`,
`ReverseIterator`), and it goes on by one step at a time: it yields a payload it has,
reads the next record while it holds the lock, or finishes. Other calls may come
between any two steps.
-/

namespace Subgen

open Procedure Storage Lines

/-- `SegmentJournal`; `hasFactories` says that both factories are callable. -/
structure SegmentJournal where
  file : Storage Exc
  committedOffset : ℕ
  chunkCount : ℕ
  segmentCount : ℕ
  lastSegment : Option Dict
  lastSegmentEnd : ℚ
  allSegmentsHaveWords : Bool
  closed : Bool
  poisoned : Bool
  hasFactories : Bool

namespace SegmentJournal

/-- A new journal, on a file whose operations will fail as `faults` says. -/
def new (faults : List (Option (Fault Exc))) (hasFactories : Bool) : SegmentJournal :=
  ⟨⟨[], 0, faults⟩, 0, 0, 0, none, 0, true, false, false, hasFactories⟩

/-- What is committed. -/
def committedBytes (j : SegmentJournal) : List UInt8 := j.file.content.take j.committedOffset

/-- What is done to the backing file. -/
def onFile {α : Type} (m : EStateM Exc (Storage Exc) α) : EStateM Exc SegmentJournal α :=
  zoom file (fun j f => { j with file := f }) m

/-- `_require_usable`. -/
def requireUsable : EStateM Exc SegmentJournal Unit := do
  let j ← get
  if j.closed then
    throw (.segmentJournalError "Segment journal is closed")
  else if j.poisoned then
    throw (.segmentJournalPoisonedError "Segment journal is poisoned")
  else
    pure ()

/-! ## Commits -/

/-- A flush, and an fsync. -/
def sync : EStateM Exc (Storage Exc) Unit := do
  settle
  settle

/-- `_rollback`. -/
def rollback (offset : ℕ) : EStateM Exc (Storage Exc) Unit := do
  seek offset
  truncate offset
  sync

/-- The pieces of an encoded value; behind the last of them the encoder may raise. -/
def writePieces (pieces : List (List UInt8)) (error : Option Exc) :
    EStateM Exc (Storage Exc) Unit := do
  forM pieces write
  match error with
  | none => pure ()
  | some e => throw e

/-- The `try` block of `_commit_record`: the offset behind the record. -/
def writeRecord (codec : Codec) (offset : ℕ) (record : Record) : EStateM Exc (Storage Exc) ℕ := do
  seek offset
  truncate offset
  writePieces (codec.iterencode (.dict record.toDict)).1 (codec.iterencode (.dict record.toDict)).2
  write [Codec.newline]
  sync
  tell

/-- A rollback that failed. -/
def poison : EStateM Exc SegmentJournal Unit := do
  modify fun j => { j with poisoned := true }
  throw (.segmentJournalPoisonedError "Segment journal commit and rollback both failed")

/-- Its `except` clause. -/
def undo (offset : ℕ) : EStateM Exc SegmentJournal ℕ := do
  tryCatch (onFile (rollback offset)) fun _ => poison
  throw (.segmentJournalCommitError "Segment journal commit failed and was rolled back")

/-- The counters behind a record that was written up to `nextOffset`. -/
def counted (nextOffset : ℕ) (record : Record) (j : SegmentJournal) : SegmentJournal :=
  { j with
    committedOffset := nextOffset
    chunkCount := j.chunkCount + record.chunkDelta
    segmentCount := j.segmentCount + record.segments.length
    lastSegment := record.segments.getLast?.or j.lastSegment
    lastSegmentEnd := (record.segments.getLast?.map (Dict.float · "end")).getD j.lastSegmentEnd
    allSegmentsHaveWords := j.allSegmentsHaveWords && record.segments.all segmentHasWords }

/-- `_commit_record`. -/
def commitRecord (codec : Codec) (record : Record) : EStateM Exc SegmentJournal Unit := do
  requireUsable
  let j ← get
  let nextOffset ← tryCatch (onFile (writeRecord codec j.committedOffset record)) fun _ =>
    undo j.committedOffset
  modify (counted nextOffset record)

/-- The checks of `commit_chunk`. -/
def checkCommit (j : SegmentJournal) (window : ChunkWindow) (staged : StagedChunk)
    (state : AssemblyState) : Except Exc Unit :=
  if window.ordinal ≠ j.chunkCount then
    .error (.segmentJournalError "Journal chunk ordinal is not sequential")
  else if state.completedChunks ≠ j.chunkCount + 1 then
    .error (.segmentJournalError "Journal state chunk count is inconsistent")
  else if state.cursor ≠ window.coreEnd then
    .error (.segmentJournalError "Journal state cursor is inconsistent")
  else if state.segmentCount ≠ j.segmentCount + staged.segments.length then
    .error (.segmentJournalError "Journal state segment count is inconsistent")
  else if state.lastSegmentEnd ≠ (staged.segments.getLast?.map Segment.stop).getD j.lastSegmentEnd then
    .error (.segmentJournalError "Journal state segment end is inconsistent")
  else
    .ok ()

/-- The record of a chunk. -/
def chunkRecord (window : ChunkWindow) (staged : StagedChunk) (state : AssemblyState) : Record :=
  .chunk window.ordinal window.coreStart window.coreEnd state.language
    (staged.segments.map Segment.payload)

/-- `commit_chunk`. -/
def commitChunk (codec : Codec) (window : ChunkWindow) (staged : StagedChunk)
    (state : AssemblyState) : EStateM Exc SegmentJournal Unit := do
  requireUsable
  let j ← get
  ofExcept (checkCommit j window staged state)
  commitRecord codec (chunkRecord window staged state)

/-- The check of `append_segment`. -/
def checkAppend (j : SegmentJournal) (payload : Dict) : Except Exc Unit :=
  if payload.float "start" < j.lastSegmentEnd then
    .error (.nonMonotonicResult "Appended segment overlaps committed output")
  else
    .ok ()

/-- `append_segment`. -/
def appendSegment (codec : Codec) (segment : Value) : EStateM Exc SegmentJournal Unit := do
  let payload ← ofExcept (segmentPayload segment)
  requireUsable
  let j ← get
  ofExcept (checkAppend j payload)
  commitRecord codec (.append [payload])

/-- `last_segment_payload`. -/
def lastSegmentPayload : EStateM Exc SegmentJournal Dict := do
  requireUsable
  let j ← get
  match j.lastSegment with
  | none => throw (.indexError "Segment journal is empty")
  | some payload => pure payload

/-! ## Readers -/

/-- What one step of a generator does. -/
inductive Advance (ι : Type)
  | yielded (payload : Dict) (it : ι)
  | advanced (it : ι)
  | finished

/-- The `finally` clause of the readers: whatever they do, the handle goes back to the end of
    what is committed. -/
def seekCommitted : EStateM Exc SegmentJournal Unit := do
  let j ← get
  onFile (seek j.committedOffset)

/-- A read that ends, one way or the other, with the file at its committed end. -/
def restoring {α : Type} (m : EStateM Exc (Storage Exc) α) : EStateM Exc SegmentJournal α := do
  let a ← tryCatch (onFile m) fun e => do
    seekCommitted
    throw e
  seekCommitted
  pure a

/-- A generator of `iter_segment_payloads`, with the payloads of the record it read last. -/
structure ForwardIterator where
  limit : ℕ
  chunkCount : ℕ
  expectedOrdinal : ℕ
  position : ℕ
  pending : List Dict

/-- The first step of `iter_segment_payloads`, which fixes the snapshot. -/
def iterSegmentPayloads : EStateM Exc SegmentJournal ForwardIterator := do
  requireUsable
  let j ← get
  pure ⟨j.committedOffset, j.chunkCount, 0, 0, []⟩

/-- A decoded record, whose ordinal must be the next one if it is a chunk. -/
def ForwardIterator.accept (it : ForwardIterator) (record : Dict) (position : ℕ) :
    Except Exc ForwardIterator :=
  if isChunk record then
    if (record.get "ordinal").eqInt it.expectedOrdinal then
      .ok { it with
        expectedOrdinal := it.expectedOrdinal + 1
        position := position
        pending := decodedSegments record }
    else
      .error (.segmentJournalError "Committed journal ordinals are not sequential")
  else
    .ok { it with position := position, pending := decodedSegments record }

/-- One record further, from the position of the generator. -/
def readForward (codec : Codec) (it : ForwardIterator) :
    EStateM Exc (Storage Exc) ForwardIterator := do
  seek it.position
  let encoded ← readUpTo Codec.newline (it.limit - it.position)
  let position ← tell
  if encoded.getLast? = some Codec.newline then do
    let record ← ofExcept (decodeRecord codec encoded.dropLast)
    ofExcept (it.accept record position)
  else
    throw (.segmentJournalError "Committed journal record is truncated")

/-- One step of the forward generator. -/
def advanceForward (codec : Codec) (it : ForwardIterator) :
    EStateM Exc SegmentJournal (Advance ForwardIterator) :=
  match it.pending with
  | payload :: rest => pure (.yielded payload { it with pending := rest })
  | [] =>
    if it.position < it.limit then do
      requireUsable
      let next ← restoring (readForward codec it)
      pure (.advanced next)
    else if it.expectedOrdinal ≠ it.chunkCount then
      throw (.segmentJournalError "Committed journal chunk count is inconsistent")
    else
      pure .finished

/-- A generator of `iter_segment_payloads_reverse`. -/
structure ReverseIterator where
  position : ℕ
  expectedOrdinal : ℤ
  pending : List Dict

/-- The first step of `iter_segment_payloads_reverse`. -/
def iterSegmentPayloadsReverse : EStateM Exc SegmentJournal ReverseIterator := do
  requireUsable
  let j ← get
  pure ⟨j.committedOffset, j.chunkCount - 1, []⟩

/-- A record that was read backwards is checked against the ordinals. -/
def ReverseIterator.accept (it : ReverseIterator) (record : Dict) (position : ℕ) :
    Except Exc ReverseIterator :=
  if isChunk record then
    if (record.get "ordinal").eqInt it.expectedOrdinal then
      .ok ⟨position, it.expectedOrdinal - 1, (decodedSegments record).reverse⟩
    else
      .error (.segmentJournalError "Committed journal ordinals are not sequential")
  else
    .ok ⟨position, it.expectedOrdinal, (decodedSegments record).reverse⟩

/-- The block of a backwards read. -/
def blockSize : ℕ := 64 * 1024

/-- The loop over the blocks before a record: where the record starts. It goes back by one
    byte or more each time, so `scanPosition` rounds are enough. -/
def scanBlocks (size : ℕ) : ℕ → ℕ → EStateM Exc (Storage Exc) ℕ
  | 0, _ => pure 0
  | fuel + 1, scanPosition =>
    if scanPosition = 0 then
      pure 0
    else do
      seek (scanPosition - size)
      let block ← read (scanPosition - (scanPosition - size))
      match rfind Codec.newline block with
      | some separator => pure (scanPosition - size + separator + 1)
      | none => scanBlocks size fuel (scanPosition - size)

/-- The record that ends before `recordEnd`. -/
def readBackwards (codec : Codec) (it : ReverseIterator) (recordEnd : ℕ) :
    EStateM Exc (Storage Exc) ReverseIterator := do
  let recordStart ← scanBlocks blockSize recordEnd recordEnd
  seek recordStart
  let encoded ← read (recordEnd - recordStart)
  let record ← ofExcept (decodeRecord codec encoded)
  ofExcept (it.accept record recordStart)

/-- One record back, from the position of the generator. -/
def readReverse (codec : Codec) (it : ReverseIterator) :
    EStateM Exc (Storage Exc) ReverseIterator := do
  seek (it.position - 1)
  let last ← read 1
  if last = [Codec.newline] then
    readBackwards codec it (it.position - 1)
  else
    throw (.segmentJournalError "Committed journal record is truncated")

/-- One step of the reverse generator. -/
def advanceReverse (codec : Codec) (it : ReverseIterator) :
    EStateM Exc SegmentJournal (Advance ReverseIterator) :=
  match it.pending with
  | payload :: rest => pure (.yielded payload { it with pending := rest })
  | [] =>
    if it.position ≠ 0 then do
      requireUsable
      let next ← restoring (readReverse codec it)
      pure (.advanced next)
    else if it.expectedOrdinal ≠ -1 then
      throw (.segmentJournalError "Committed journal chunk count is inconsistent")
    else
      pure .finished

/-! ## The end -/

/-- The checks of `finalize`. -/
def checkFinal (j : SegmentJournal) (state : AssemblyState) : Except Exc Unit :=
  if ¬ state.complete then
    .error (.segmentationError "Cannot finalize a partial segmented result")
  else if state.completedChunks ≠ j.chunkCount then
    .error (.segmentJournalError "Final assembly chunk count is inconsistent")
  else if state.segmentCount ≠ j.segmentCount then
    .error (.segmentJournalError "Final assembly segment count is inconsistent")
  else if state.lastSegmentEnd ≠ j.lastSegmentEnd then
    .error (.segmentJournalError "Final assembly segment end is inconsistent")
  else if ¬ j.hasFactories then
    .error (.typeError "Journal finalization requires result and segment factories")
  else
    .ok ()

/-- `finalize`; the result keeps the journal, and the language of the state. -/
def finalize (state : AssemblyState) : EStateM Exc SegmentJournal (Option String) := do
  requireUsable
  let j ← get
  ofExcept (checkFinal j state)
  pure state.language

/-- `close`; the file is gone with its handle, and no call looks at it again. -/
def close : EStateM Exc SegmentJournal Unit := do
  let j ← get
  if j.closed then
    pure ()
  else do
    modify fun j => { j with closed := true }
    onFile settle

end SegmentJournal

end Subgen

import Subgen.Journal.Store

/-!
# Short cues

`iter_min_duration_segment_payloads` reads the journal newest first, merges segments
that are shorter than a threshold into a neighbour, and writes what is settled to a
spool, each payload followed by its length, so that the spool is read back in the order
of the output. The spool is a temporary file of its own, of which only the bytes matter;
it is taken to work.

A pass holds the segment that was settled last and, beside it, a short one on its way to its left neighbour. A
short segment is merged into the longer of its two neighbours, which is known as soon as the left one is read.
The loop goes on until the journal has no more records.
-/

namespace Subgen

open Procedure

namespace Dict

/-- `mapping[name] = value`. -/
def put (items : Dict) (name : String) (value : Value) : Dict :=
  if items.any (·.1 = name) then items.set name value else items ++ [(name, value)]

/-- `mapping["text"]` of a payload. -/
def text (items : Dict) : String :=
  match items.get "text" with
  | .str s => s
  | _ => ""

end Dict

/-- The length of a segment. -/
def segmentDuration (segment : Dict) : ℚ := segment.float "end" - segment.float "start"

/-- The two lists one behind the other, if both are lists. -/
def joinLists : Value → Value → Option Value
  | .list left, .list right => some (.list (left ++ right))
  | _, _ => none

/-- `left += right` on the level of segments; without words on one side the words are dropped. -/
def mergeSegmentPayloads (left right : Dict) : Dict :=
  let merged := ((left.put "end" (.float (right.float "end"))).put "text"
    (.str (left.text ++ right.text))).put "tokens"
      ((joinLists (left.get "tokens") (right.get "tokens")).getD .none)
  match joinLists (left.get "words") (right.get "words") with
  | some words => merged.put "words" words
  | none => merged.pop "words"

/-! ## The spool -/

/-- The bytes of `struct.Struct(">Q")`. -/
def frameLengthSize : ℕ := 8

/-- `struct.Struct(">Q").pack`. -/
def packLength (n : ℕ) : Except Exc (List UInt8) :=
  if n < 2 ^ 64 then
    .ok ((List.range frameLengthSize).map fun i => UInt8.ofNat (n / 256 ^ (7 - i)))
  else
    .error (.foreign "struct.error" true)

/-- `struct.Struct(">Q").unpack`, of eight bytes. -/
def unpackLength (bytes : List UInt8) : ℕ := bytes.foldl (fun n b => n * 256 + b.toNat) 0

/-- `write_reverse`. -/
def writeReverse (codec : Codec) (spool : List UInt8) (payload : Dict) :
    Except Exc (List UInt8) := do
  let encoded ← codec.dumps (.dict payload)
  let length ← packLength encoded.length
  .ok (spool ++ encoded ++ length)

/-- A frame of the spool. -/
def decodeFrame (codec : Codec) (encoded : List UInt8) : Except Exc Dict :=
  match codec.loads encoded with
  | none => .error (.segmentJournalError "Minimum-duration spool is invalid")
  | some (.dict payload) => .ok payload
  | some _ => .error (.segmentJournalError "Minimum-duration spool segment is invalid")

/-- The payloads of the spool, last frame first; `position` rounds are enough. -/
def readSpool (codec : Codec) (spool : List UInt8) : ℕ → ℕ → Except Exc (List Dict)
  | 0, _ => .ok []
  | fuel + 1, position =>
    if position = 0 then
      .ok []
    else if position < frameLengthSize then
      .error (.segmentJournalError "Minimum-duration spool is truncated")
    else
      let length := unpackLength ((spool.drop (position - frameLengthSize)).take frameLengthSize)
      if position - frameLengthSize < length then
        .error (.segmentJournalError "Minimum-duration spool is truncated")
      else do
        let payload ← decodeFrame codec
          ((spool.drop (position - frameLengthSize - length)).take length)
        let rest ← readSpool codec spool fuel (position - frameLengthSize - length)
        .ok (payload :: rest)

/-! ## The pass -/

/-- `right` is the segment that was settled last, `carry` a short one on its way to its left
    neighbour. -/
structure MergePass where
  right : Option Dict
  carry : Option Dict
  spool : List UInt8

namespace MergePass

/-- The segment that was settled before is written. -/
def writeRight (codec : Codec) (pass : MergePass) : Except Exc (List UInt8) :=
  match pass.right with
  | none => .ok pass.spool
  | some right => writeReverse codec pass.spool right

/-- One round of the loop, with the next segment to the left. -/
def step (codec : Codec) (threshold : ℚ) (currentRaw : Dict) (leftRaw : Option Dict)
    (pass : MergePass) : Except Exc MergePass :=
  let current := match pass.carry with
    | none => currentRaw
    | some carry => mergeSegmentPayloads currentRaw carry
  if ¬ segmentDuration current < threshold then do
    let spool ← pass.writeRight codec
    .ok ⟨some current, none, spool⟩
  else
    match pass.right, leftRaw with
    | none, none => .ok ⟨some current, none, pass.spool⟩
    | none, some _ => .ok ⟨none, some current, pass.spool⟩
    | some right, none => .ok ⟨some (mergeSegmentPayloads current right), none, pass.spool⟩
    | some right, some left =>
      if segmentDuration right < segmentDuration left then
        .ok ⟨some right, some current, pass.spool⟩
      else
        .ok ⟨some (mergeSegmentPayloads current right), none, pass.spool⟩

/-- What is left after the loop is written. -/
def finish (codec : Codec) (pass : MergePass) : Except Exc (List UInt8) :=
  match pass.carry, pass.right with
  | none, _ => pass.writeRight codec
  | some carry, none => writeReverse codec pass.spool carry
  | some carry, some right => writeReverse codec pass.spool (mergeSegmentPayloads carry right)

end MergePass

namespace SegmentJournal

/-- `next` of a reverse generator. A step that yields nothing has read a record, so that the
    position of the generator bounds their number. -/
def nextReverse (codec : Codec) : ℕ → ReverseIterator →
    EStateM Exc SegmentJournal (Option (Dict × ReverseIterator))
  | 0, _ => pure none
  | fuel + 1, it => do
    let step ← advanceReverse codec it
    match step with
    | .yielded payload it => pure (some (payload, it))
    | .advanced it => nextReverse codec fuel it
    | .finished => pure none

/-- `next(source)` in the generator of the pass, where an end is an error. -/
def nextSource (codec : Codec) (it : ReverseIterator) :
    EStateM Exc SegmentJournal (Dict × ReverseIterator) := do
  let next ← nextReverse codec (it.position + 1) it
  match next with
  | some next => pure next
  | none => throw (.runtimeError "generator raised StopIteration")

/-- The loop, over the segment at hand and the `remaining` ones before it. -/
def mergeLoop (codec : Codec) (threshold : ℚ) : ℕ → Dict → ReverseIterator → MergePass →
    EStateM Exc SegmentJournal MergePass
  | 0, currentRaw, _, pass => ofExcept (pass.step codec threshold currentRaw none)
  | remaining + 1, currentRaw, it, pass => do
    let (leftRaw, it) ← nextSource codec it
    let pass ← ofExcept (pass.step codec threshold currentRaw (some leftRaw))
    mergeLoop codec threshold remaining leftRaw it pass

/-- The pass over a journal with segments. -/
def mergeCommitted (codec : Codec) (threshold : ℚ) : EStateM Exc SegmentJournal (List Dict) := do
  let source ← iterSegmentPayloadsReverse
  let (currentRaw, source) ← nextSource codec source
  let j ← get
  let pass ← mergeLoop codec threshold (j.segmentCount - 1) currentRaw source ⟨none, none, []⟩
  let spool ← ofExcept (pass.finish codec)
  ofExcept (readSpool codec spool spool.length spool.length)

/-- `list(journal.iter_min_duration_segment_payloads(min_duration))`. -/
def iterMinDurationSegmentPayloads (codec : Codec) (minDuration : Value) :
    EStateM Exc SegmentJournal (List Dict) := do
  let threshold ← ofExcept (finiteNumber minDuration "minimum subtitle duration")
  if threshold < 0 then
    throw (.segmentationError "Minimum subtitle duration must not be negative")
  else do
    let j ← get
    -- The journal is not asked whether it is usable before this.
    if j.segmentCount = 0 then
      pure []
    else
      mergeCommitted codec threshold

end SegmentJournal

end Subgen

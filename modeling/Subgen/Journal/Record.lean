import Subgen.Segmentation.Stage

/-!
# Journal records

A committed chunk, or a segment appended to the output, is one JSON text in the journal. The payload of a
segment is a mapping: a staged segment as it was built (`Segment.payload`), or a mapping from outside,
checked and normalised (`segmentPayload`).

The encoder and the decoder of JSON are a parameter (`Codec`): the encoder yields its text piece by piece and
may raise behind any of them, and the decoder need not understand a text. What a reader relies on is asked of
a record (`Codec.Lossless`): there is no newline in its text, which is decoded to what was encoded. A record is
one line of the journal (`Codec.line`), and the log is the lines of its records (`Codec.log`).

* `decodeRecord`: what a decoded text must look like, with the checks in the order in which the journal makes
  them;
* `checkSegments_toDict`: a record that was built passes them;
* `decodeRecord_toDict`: a record that the codec does not lose is decoded as it was encoded.
-/

namespace Subgen

open Procedure

/-! ## Payloads -/

namespace Dict

/-- `mapping.pop(name, None)`. -/
def pop (items : Dict) (name : String) : Dict := items.filter (·.1 ≠ name)

/-- `mapping[name] = value`, for a name that is there. -/
def set (items : Dict) (name : String) (value : Value) : Dict :=
  items.map fun item => if item.1 = name then (name, value) else item

/-- `float(mapping[name])` of a payload, which has a number there. -/
def float (items : Dict) (name : String) : ℚ :=
  match items.get name with
  | .int n => n
  | .float q => q
  | _ => 0

end Dict

/-- A value that may be missing. -/
def Value.ofOption {α : Type} (f : α → Value) : Option α → Value
  | Option.none => .none
  | some a => f a

/-- Tokens as a list, or `None`. -/
def Value.ofTokens : Option (List ℤ) → Value := ofOption fun tokens => .list (tokens.map .int)

/-- The mapping of a staged word. -/
def Word.payload (w : Word) : Dict :=
  [("word", .str w.word), ("start", .float w.start), ("end", .float w.stop),
    ("probability", .ofOption .float w.probability), ("tokens", .ofTokens w.tokens)]

/-- The metadata as the members of a mapping. -/
def SegmentMetadata.payload (m : SegmentMetadata) : Dict :=
  [("seek", .none), ("temperature", .ofOption .float m.temperature),
    ("avg_logprob", .ofOption .float m.avgLogprob),
    ("compression_ratio", .ofOption .float m.compressionRatio),
    ("no_speech_prob", .ofOption .float m.noSpeechProb)]

/-- The mapping of a staged segment. -/
def Segment.payload (s : Segment) : Dict :=
  s.metadata.payload ++
    [("start", .float s.start), ("end", .float s.stop), ("text", .str s.text),
      ("tokens", .ofTokens s.tokens)] ++
    match s.words with
    | none => []
    | some words => [("words", .list (words.map fun w => .dict w.payload))]

/-- The mapping an appended segment is, or gives. -/
def appendedMapping : Value → Except Exc Dict
  | .dict items => .ok items
  | .object _ (some (.ok (.dict items))) => .ok items
  | .object _ (some (.ok _)) =>
    .error (.typeError "Appended segment structured data must be a mapping")
  | .object _ (some (.error e)) => .error e
  | _ => .error (.typeError "Appended segment must be a mapping or provide to_dict()")

/-- `_segment_payload`. -/
def segmentPayload (value : Value) : Except Exc Dict := do
  let source ← appendedMapping value
  let payload := (Dict.pop source "id").pop "result"
  let start ← finiteNumber (payload.get "start") "segment start"
  let stop ← finiteNumber (payload.get "end") "segment end"
  if start > stop then
    .error (.nonMonotonicResult "Segment start exceeds end")
  else
    match payload.get "text" with
    | .str _ => .ok ((payload.set "start" (.float start)).set "end" (.float stop))
    | _ => .error (.segmentationError "Segment text must be a string")

/-- `_segment_has_words`. -/
def segmentHasWords (segment : Dict) : Bool :=
  match segment.get "words" with
  | .list (_ :: _) => true
  | _ => false

/-! ## Records -/

/-- `_JOURNAL_VERSION`. -/
def journalVersion : ℤ := 1

/-- A record of the journal: a chunk, or a segment that was appended. -/
inductive Record
  | chunk (ordinal : ℕ) (coreStart coreEnd : ℚ) (language : Option String) (segments : List Dict)
  | append (segments : List Dict)

namespace Record

/-- The segments of a record. -/
def segments : Record → List Dict
  | chunk _ _ _ _ segments | append segments => segments

/-- How many chunks the record completes. -/
def chunkDelta : Record → ℕ
  | chunk .. => 1
  | append _ => 0

/-- The mapping that is encoded. -/
def toDict : Record → Dict
  | chunk ordinal coreStart coreEnd language segments =>
    [("version", .int journalVersion), ("kind", .str "chunk"), ("ordinal", .int ordinal),
      ("core_start", .float coreStart), ("core_end", .float coreEnd),
      ("language", .ofOption .str language), ("segments", .list (segments.map .dict))]
  | append segments =>
    [("version", .int journalVersion), ("kind", .str "append"),
      ("segments", .list (segments.map .dict))]

end Record

/-- JSON: the encoder yields the text piece by piece, and may raise behind any of them; the
    decoder gives nothing for bytes that are no JSON text. -/
structure Codec where
  iterencode : Value → List (List UInt8) × Option Exc
  loads : List UInt8 → Option Value

namespace Codec

variable (codec : Codec)

/-- The bytes of a value, or of the part of it before the encoder raises. -/
def bytes (value : Value) : List UInt8 := (codec.iterencode value).1.flatten

/-- `json.dumps(value).encode("utf-8")`. -/
def dumps (value : Value) : Except Exc (List UInt8) :=
  match (codec.iterencode value).2 with
  | none => .ok (codec.bytes value)
  | some e => .error e

/-- The byte that ends a record. -/
def newline : UInt8 := 10

/-- A record of the journal: the text, and a newline. -/
def line (record : Record) : List UInt8 := codec.bytes (.dict record.toDict) ++ [newline]

/-- The bytes of a log. -/
def log (records : List Record) : List UInt8 := records.flatMap codec.line

/-- What the readers rely on: the text of the record has no newline in it, and is decoded to
    what was encoded. -/
structure Lossless (record : Record) : Prop where
  newline_notMem : newline ∉ codec.bytes (.dict record.toDict)
  loads_eq : codec.loads (codec.bytes (.dict record.toDict)) = some (.dict record.toDict)

@[simp] theorem log_nil : codec.log [] = [] := rfl

@[simp] theorem log_append (l l' : List Record) :
    codec.log (l ++ l') = codec.log l ++ codec.log l' := List.flatMap_append

theorem log_cons (r : Record) (l : List Record) : codec.log (r :: l) = codec.line r ++ codec.log l :=
  List.flatMap_cons

theorem length_line (r : Record) :
    (codec.line r).length = (codec.bytes (.dict r.toDict)).length + 1 := by
  rw [line, List.length_append, List.length_singleton]

end Codec

/-- `value == n`. -/
def Value.eqInt (n : ℤ) : Value → Bool
  | .int m => m = n
  | .float q => q = n
  | .bool b => (if b then 1 else 0) = n
  | _ => false

/-- The mapping, where the value is one. -/
def Value.dict? : Value → Option Dict
  | .dict items => some items
  | _ => Option.none

/-- `record["segments"]` of a decoded record. -/
def decodedSegments (record : Dict) : List Dict :=
  match record.get "segments" with
  | .list items => items.filterMap Value.dict?
  | _ => []

/-- The segments of a record, if they are a list of mappings. -/
def checkSegments (record : Dict) : Except Exc Dict :=
  match record.get "segments" with
  | .list items =>
    if items.any (·.dict?.isNone) then
      .error (.segmentJournalError "Committed journal segment is invalid")
    else
      .ok record
  | _ => .error (.segmentJournalError "Committed journal segments are invalid")

/-- The version and the kind of a decoded mapping. -/
def checkRecord (record : Dict) : Except Exc Dict :=
  if (record.get "version").eqInt journalVersion then
    match record.get "kind" with
    | .str kind =>
      if kind = "chunk" ∨ kind = "append" then
        checkSegments record
      else
        .error (.segmentJournalError "Committed journal record kind is invalid")
    | .list _ | .dict _ => .error (.typeError "unhashable type")
    | _ => .error (.segmentJournalError "Committed journal record kind is invalid")
  else
    .error (.segmentJournalError "Committed journal version is invalid")

/-- `_decode_record`. -/
def decodeRecord (codec : Codec) (encoded : List UInt8) : Except Exc Dict :=
  match codec.loads encoded with
  | none => .error (.segmentJournalError "Committed journal record is invalid")
  | some (.dict record) => checkRecord record
  | some _ => .error (.segmentJournalError "Committed journal version is invalid")

/-- `record.get("kind") == "chunk"`. -/
def isChunk (record : Dict) : Bool :=
  match record.get "kind" with
  | .str kind => kind = "chunk"
  | _ => false

@[simp] theorem decodedSegments_toDict (r : Record) : decodedSegments r.toDict = r.segments := by
  have hmap : ∀ l : List Dict, (l.map Value.dict).filterMap Value.dict? = l := by
    intro l
    rw [List.filterMap_map]
    exact List.filterMap_some
  cases r with
  | chunk n a b language segments => exact hmap segments
  | append segments => exact hmap segments

theorem checkSegments_toDict (r : Record) : checkSegments r.toDict = .ok r.toDict := by
  have hany : ∀ l : List Dict, (l.map Value.dict).any (·.dict?.isNone) = false := by
    intro l
    rw [List.any_map]
    exact List.any_eq_false.2 fun x _ => by simp [Value.dict?]
  cases r with
  | chunk n a b language segments => exact if_neg (by rw [hany]; exact Bool.false_ne_true)
  | append segments => exact if_neg (by rw [hany]; exact Bool.false_ne_true)

/-- What is written without loss is read back. -/
theorem decodeRecord_toDict {codec : Codec} {r : Record} (h : codec.Lossless r) :
    decodeRecord codec (codec.bytes (.dict r.toDict)) = .ok r.toDict := by
  rw [decodeRecord, h.loads_eq]
  cases r with
  | chunk n a b language segments => exact checkSegments_toDict (.chunk n a b language segments)
  | append segments => exact checkSegments_toDict (.append segments)

end Subgen

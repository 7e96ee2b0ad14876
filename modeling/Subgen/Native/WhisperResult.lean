import Subgen.Native.WhisperWorker
import Subgen.Value

/-!
# The result of the native worker

`decode_whisper_cpp_result`: what is taken of the JSON with the segments of some audio, and when a result
that the worker wrote is taken.

The decoder bounds the size of the result and the number of its segments, checks the language, and takes the
offsets of each segment as they are: a segment has to begin where the one before it ended or later, and must
not end behind the audio. That last check compares a whole number of milliseconds with a duration in seconds
that has been multiplied back, and the product can be below it (`Native.Milliseconds`). So a segment that ends
with the audio may be refused.

* `decodeWhisperCppResult_dump`: what the decoder makes of a result that the worker wrote;
* `decode_emitted_iff`: exactly when it takes one, for every number of samples;
* `end_of_audio_refused`: a result of the worker that is refused.
-/

namespace Subgen

namespace Native

/-- `WhisperCppResultError`. `unreadable` is raised by `json.loads` or a hook of it. -/
inductive WhisperCppResultError
  | unreadable
  | refused (message : String)

open WhisperCppResultError

/-- `MAX_RESULT_BYTES`. -/
def maxResultBytes : ℕ := 8 * 1024 * 1024

/-- `MAX_SEGMENTS`. -/
def maxSegments : ℕ := 20000

/-- `[a-z]`. -/
def isLower (c : ℕ) : Bool := 97 ≤ c ∧ c ≤ 122

/-- What may follow the letters of a language. -/
def regionMatches : Text → Bool
  | [] => true
  | c :: t => c = 45 ∧ 2 ≤ t.length ∧ t.length ≤ 4 ∧ t.all isLower = true

/-- `_LANGUAGE.fullmatch`. -/
def languageMatches (t : Text) : Bool :=
  let head := t.takeWhile isLower
  2 ≤ head.length ∧ head.length ≤ 3 ∧ regionMatches (t.dropWhile isLower) = true

/-- `_milliseconds`. -/
def milliseconds (value : Json) (label : String) : Except WhisperCppResultError ℤ :=
  match value with
  | .int n =>
    if 0 ≤ n ∧ n ≤ 86400000 then .ok n
    else .error (refused s!"{label} must be non-negative integer milliseconds")
  | _ => .error (refused s!"{label} must be non-negative integer milliseconds")

/-- A segment of the result, in seconds. -/
structure ResultSegment where
  start : ℚ
  stop : ℚ
  text : Text
  deriving DecidableEq

/-- A result that passed every check. -/
structure WhisperCppResult where
  language : Text
  segments : List ResultSegment
  text : Text
  deriving DecidableEq

/-- The text of a segment. -/
def segmentText : Json → Except WhisperCppResultError Text
  | .str t =>
    if 0 ∈ t then .error (refused "Backend segment text is invalid")
    else if t.any isSurrogate then .error (refused "Backend segment text is not valid Unicode")
    else .ok t
  | _ => .error (refused "Backend segment text is invalid")

/-- One segment: its end, and the segment itself if it is kept. -/
def resultSegment (durationSeconds : ℚ) (previousEnd : ℤ) :
    Json → Except WhisperCppResultError (ℤ × Option ResultSegment)
  | .object source =>
    match Json.get source (text "offsets") with
    | .object offsets => do
      let start ← milliseconds (Json.get offsets (text "from")) "Segment start"
      let stop ← milliseconds (Json.get offsets (text "to")) "Segment end"
      if start < previousEnd ∨ stop < start ∨ durationMs durationSeconds < stop then
        .error (refused "Backend segment timing is reversed, overlapping or out of bounds")
      else do
        let words ← segmentText (Json.get source (text "text"))
        if stripText words = [] then .ok (stop, none)
        else if stop = start then .error (refused "Backend speech has zero duration")
        else .ok (stop, some ⟨Binary64.nearest (start / 1000), Binary64.nearest (stop / 1000), words⟩)
    | _ => .error (refused "Backend segment has no millisecond offsets")
  | _ => .error (refused "Backend segment has no millisecond offsets")

/-- The loop over the segments, from one on. -/
def resultSegments (durationSeconds : ℚ) : ℤ → List Json → Except WhisperCppResultError (List ResultSegment)
  | _, [] => .ok []
  | previousEnd, source :: rest => do
    let (stop, segment) ← resultSegment durationSeconds previousEnd source
    let segments ← resultSegments durationSeconds stop rest
    .ok (segment.toList ++ segments)

/-- The language that a document names. -/
def resultLanguage : Json → Except WhisperCppResultError Text
  | .object metadata =>
    match Json.get metadata (text "language") with
    | .str language =>
      if languageMatches language then .ok language
      else .error (refused "Backend result has no valid detected language")
    | _ => .error (refused "Backend result has no valid detected language")
  | _ => .error (refused "Backend result has no valid detected language")

/-- The segments of the result, if they are not too many. -/
def sourceSegments : Json → Except WhisperCppResultError (List Json)
  | .array segments =>
    if maxSegments < segments.length then
      .error (refused "Backend transcription must be a bounded segment list")
    else .ok segments
  | _ => .error (refused "Backend transcription must be a bounded segment list")

/-- `decode_whisper_cpp_result`. -/
def decodeWhisperCppResult (F : FloatReader) (payload : List ℕ) (durationSeconds : ℚ) :
    Except WhisperCppResultError WhisperCppResult :=
  if maxResultBytes < payload.length then
    .error (refused "Backend JSON exceeds its byte limit or is not bytes")
  else if ¬ (0 < durationSeconds ∧ durationSeconds ≤ 86400) then
    .error (refused "Extracted audio duration must be finite and positive")
  else
    match (decodeUtf8 payload).bind (Json.loads F) with
    | some (.object document) => do
      let language ← resultLanguage (Json.get document (text "result"))
      let source ← sourceSegments (Json.get document (text "transcription"))
      let segments ← resultSegments durationSeconds 0 source
      .ok ⟨language, segments, segments.flatMap ResultSegment.text⟩
    | some _ => .error (refused "Backend result must be a JSON object")
    | none => .error unreadable

/-! ## What the worker wrote -/

/-- A segment of the worker, as it is taken. -/
def NativeSegment.result (s : NativeSegment) : ResultSegment :=
  ⟨Binary64.nearest (s.start / 1000), Binary64.nearest (s.stop / 1000), s.text⟩

theorem any_isSurrogate {t : Text} (h : Encodable t) : t.any isSurrogate = false :=
  List.any_eq_false.2 fun c hc => by simp [(h c hc).2]

theorem segmentText_of_encodable {t : Text} (h : Encodable t) (hnul : 0 ∉ t) : segmentText (.str t) = .ok t := by
  rw [segmentText, if_neg hnul, any_isSurrogate h, if_neg Bool.false_ne_true]

theorem milliseconds_of_le {n : ℤ} {label : String} (h : 0 ≤ n) (hle : n ≤ 86400000) :
    milliseconds (.int n) label = .ok n := if_pos ⟨h, hle⟩

/-- One segment is taken, if it is not over the duration. -/
theorem resultSegment_toJson {d : ℚ} {previousEnd : ℤ} {s : NativeSegment} (hprevious : 0 ≤ previousEnd)
    (hstart : previousEnd ≤ s.start) (hlt : s.start < s.stop) (hmax : s.stop ≤ 86400000)
    (htext : Encodable s.text) (hnul : 0 ∉ s.text) :
    resultSegment d previousEnd s.toJson =
      if durationMs d < s.stop then
        .error (refused "Backend segment timing is reversed, overlapping or out of bounds")
      else .ok (s.stop, if stripText s.text = [] then none else some s.result) := by
  have hoffsets : Json.get [(text "offsets", .object [(text "from", .int s.start), (text "to", .int s.stop)]),
      (text "text", .str s.text)] (text "offsets") =
        .object [(text "from", .int s.start), (text "to", .int s.stop)] := rfl
  have hfrom : Json.get [(text "from", .int s.start), (text "to", .int s.stop)] (text "from") = .int s.start := rfl
  have hto : Json.get [(text "from", .int s.start), (text "to", .int s.stop)] (text "to") = .int s.stop := rfl
  have hwords : Json.get [(text "offsets", .object [(text "from", .int s.start), (text "to", .int s.stop)]),
      (text "text", .str s.text)] (text "text") = .str s.text := rfl
  rw [NativeSegment.toJson, resultSegment, hoffsets]
  dsimp only
  rw [hfrom, hto, hwords, milliseconds_of_le (by omega) (by omega), milliseconds_of_le (by omega) hmax,
    segmentText_of_encodable htext hnul]
  by_cases hover : durationMs d < s.stop
  · exact (if_pos (.inr (.inr hover))).trans (if_pos hover).symm
  · have hwithin : ¬ (s.start < previousEnd ∨ s.stop < s.start ∨ durationMs d < s.stop) := by
      push Not
      exact ⟨hstart, hlt.le, not_lt.1 hover⟩
    refine (if_neg hwithin).trans (Eq.trans ?_ (if_neg hover).symm)
    by_cases hblank : stripText s.text = []
    · exact (if_pos hblank).trans (by rw [if_pos hblank])
    · rw [if_neg hblank]
      exact (if_neg hblank).trans (if_neg hlt.ne')

/-- The segments that are kept: those with more than whitespace. -/
def keptSegments (segments : List NativeSegment) : List ResultSegment :=
  (segments.filter fun s => stripText s.text ≠ []).map NativeSegment.result

variable {F : FloatReader} {d : ℚ} {audioEndMs previousEnd : ℤ} {predicted : List PredictedSegment}
  {segments : List NativeSegment} {language : Text}

/-- The segments are taken as they were written, if none is over the duration. -/
theorem resultSegments_toJson (hbounded : Bounded audioEndMs previousEnd predicted segments)
    (hprevious : 0 ≤ previousEnd) (hmax : audioEndMs ≤ 86400000)
    (htexts : ∀ s ∈ segments, Encodable s.text ∧ 0 ∉ s.text) :
    resultSegments d previousEnd (segments.map NativeSegment.toJson) =
      if ∃ s ∈ segments, durationMs d < s.stop then
        .error (refused "Backend segment timing is reversed, overlapping or out of bounds")
      else .ok (keptSegments segments) := by
  induction hbounded with
  | nil => rfl
  | @cons previousEnd p rest s segments _ hstart hle hbefore hstop _ ih =>
    obtain ⟨⟨htext, hnul⟩, htexts⟩ := List.forall_mem_cons.1 htexts
    have hend : s.stop ≤ audioEndMs := hstop ▸ min_le_right _ _
    rw [List.map_cons, resultSegments, resultSegment_toJson hprevious hstart hle (by omega) htext hnul]
    by_cases hover : durationMs d < s.stop
    · rw [if_pos hover, if_pos ⟨s, List.mem_cons_self, hover⟩]
      rfl
    · simp only [List.exists_mem_cons_iff, hover, false_or, if_false, bind, Except.bind]
      rw [ih (by omega) htexts]
      by_cases hrest : ∃ s ∈ segments, durationMs d < s.stop
      · rw [if_pos hrest, if_pos hrest]
      · rw [if_neg hrest, if_neg hrest, keptSegments, keptSegments, List.filter_cons]
        by_cases hblank : stripText s.text = []
        · simp [hblank]
        · simp [hblank]

/-- The language has no other characters than letters and a hyphen. -/
theorem encodable_of_languageMatches (h : languageMatches language = true) : Encodable language := by
  have hlower : ∀ t : Text, (∀ c ∈ t, isLower c = true) → Encodable t := by
    refine fun t ht => Json.encodable_ascii fun c hc => ?_
    have hc := of_decide_eq_true (ht c hc)
    omega
  rw [languageMatches, decide_eq_true_eq] at h
  obtain ⟨-, -, hregion⟩ := h
  rw [← List.takeWhile_append_dropWhile (p := isLower) (l := language)]
  refine Json.encodable_append (hlower _ fun c hc => List.mem_takeWhile_imp hc) ?_
  revert hregion
  rcases language.dropWhile isLower with _ | ⟨c, t⟩
  · exact fun _ => nofun
  · intro hregion
    rw [regionMatches, decide_eq_true_eq] at hregion
    exact Json.encodable_cons (hregion.1 ▸ by decide) (hlower t (List.all_eq_true.1 hregion.2.2.2))

theorem writable_resultJson (hlanguage : languageMatches language = true)
    (htexts : ∀ s ∈ segments, Encodable s.text ∧ 0 ∉ s.text) : (resultJson language segments).Writable := by
  have hkey : ∀ k ∈ [text "offsets", text "from", text "to", text "text", text "language", text "result",
      text "transcription"], Encodable k := by
    simp only [List.forall_mem_cons]
    refine ⟨?_, ?_, ?_, ?_, ?_, ?_, ?_, nofun⟩ <;> exact Json.encodable_ascii (by decide)
  simp only [List.forall_mem_cons, List.not_mem_nil, false_imp_iff, implies_true, and_true] at hkey
  obtain ⟨hoffsets, hfrom, hto, hwords, hlang, hresult, htranscription⟩ := hkey
  have htwo : [text "offsets", text "text"].Nodup := by decide
  have hends : [text "from", text "to"].Nodup := by decide
  have hparts : [text "result", text "transcription"].Nodup := by decide
  have hsegment : ∀ v ∈ segments.map NativeSegment.toJson, v.Writable := by
    intro v hv
    obtain ⟨s, hs, rfl⟩ := List.mem_map.1 hv
    refine Json.writable_object htwo (List.forall_mem_cons.2 ⟨⟨hoffsets, ?_⟩, List.forall_mem_singleton.2
      ⟨hwords, Json.writable_str (htexts s hs).1⟩⟩)
    exact Json.writable_object hends (List.forall_mem_cons.2 ⟨⟨hfrom, Json.writable_int _⟩,
      List.forall_mem_singleton.2 ⟨hto, Json.writable_int _⟩⟩)
  refine Json.writable_object hparts (List.forall_mem_cons.2 ⟨⟨hresult, ?_⟩, List.forall_mem_singleton.2
    ⟨htranscription, Json.writable_array hsegment⟩⟩)
  exact Json.writable_object (List.nodup_singleton _) (List.forall_mem_singleton.2
    ⟨hlang, Json.writable_str (encodable_of_languageMatches hlanguage)⟩)

/-- What is written is taken but for the segments, which have to be within the duration. -/
theorem decodeWhisperCppResult_dump (hlanguage : languageMatches language = true)
    (htexts : ∀ s ∈ segments, Encodable s.text ∧ 0 ∉ s.text) (hcount : segments.length ≤ maxSegments)
    (hbytes : (dump (resultJson language segments)).length ≤ maxResultBytes) (hd : 0 < d ∧ d ≤ 86400) :
    decodeWhisperCppResult F (dump (resultJson language segments)) d =
      resultSegments d 0 (segments.map NativeSegment.toJson) >>= fun kept =>
        .ok ⟨language, kept, kept.flatMap ResultSegment.text⟩ := by
  have hread := (writable_resultJson hlanguage htexts).read F.strict ⟨false, none⟩ 0
  rw [decodeWhisperCppResult, if_neg (not_lt.2 hbytes), if_neg (not_not.2 hd)]
  rw [show (decodeUtf8 (dump (resultJson language segments))).bind (Json.loads F) =
    some (resultJson language segments) from hread, resultJson]
  have hresult : resultLanguage (.object [(text "language", .str language)]) = .ok language := if_pos hlanguage
  have hsource : sourceSegments (.array (segments.map NativeSegment.toJson)) =
      .ok (segments.map NativeSegment.toJson) := if_neg (by rw [List.length_map]; omega)
  have hget : ∀ result transcription : Json,
      Json.get [(text "result", result), (text "transcription", transcription)] (text "result") = result ∧
      Json.get [(text "result", result), (text "transcription", transcription)] (text "transcription") =
        transcription := fun _ _ => ⟨rfl, rfl⟩
  dsimp only
  rw [(hget _ _).1, (hget _ _).2, hresult, hsource]
  rfl

/-- A result is not longer than its packet. -/
theorem length_dump_le {request : ℤ} {memory result : Json} {line : List ℕ}
    (h : emit (packet request memory result) = .ok line) : (dump result).length ≤ maxResult := by
  rw [emit] at h
  split_ifs at h with hlimit
  have hmem : (text "result", result) ∈ [(text "event", .str (text "result")), (text "request_id", .int request),
      (text "memory", memory), (text "result", result)] := by simp
  have hline : (⟨false, none⟩ : Json.Layout).indent = none := rfl
  obtain ⟨before, after, heq⟩ := Json.write_infix hline 0 hmem
  rw [dump, packet, ← heq, utf8, List.flatMap_append, List.flatMap_append, List.length_append,
    List.length_append] at hlimit
  rw [dump, utf8]
  dsimp only at hlimit
  omega

/-- A segment is over the duration only where the audio ends. -/
theorem exists_over_iff {frames : ℕ} (h : 0 < frames) (hmax : frames ≤ maxFrames)
    (hbounded : Bounded (frames / 16 : ℕ) previousEnd predicted segments) :
    (∃ s ∈ segments, durationMs (audioSeconds frames) < s.stop) ↔
      RoundsBelow frames ∧ ∃ p ∈ predicted, ((frames / 16 : ℕ) : ℤ) ≤ p.t1 * 10 := by
  rw [← hbounded.exists_stop_eq_iff]
  have hle := hbounded.stop_le
  constructor
  · rintro ⟨s, hs, hover⟩
    have hend : s.stop = (frames / 16 : ℕ) := by
      by_contra hne
      exact absurd (lt_durationMs h hmax (lt_of_le_of_ne (hle s hs) hne)) (not_le.2 hover)
    refine ⟨?_, s, hs, hend⟩
    by_contra hround
    rw [hend] at hover
    exact absurd ((le_durationMs_iff h hmax).2 hround) (not_le.2 hover)
  · rintro ⟨hround, s, hs, hend⟩
    refine ⟨s, hs, not_le.1 fun hwithin => ?_⟩
    rw [hend] at hwithin
    exact (le_durationMs_iff h hmax).1 hwithin hround

/-- What the decoder returns for the segments of the worker. -/
def whisperResult (language : Text) (segments : List NativeSegment) : WhisperCppResult :=
  ⟨language, keptSegments segments, (keptSegments segments).flatMap ResultSegment.text⟩

section Emitted

variable {frames : ℕ} (h : 1 ≤ frames) (hmax : frames ≤ maxFrames)
  (htexts : ∀ p ∈ predicted, Encodable p.text ∧ 0 ∉ p.text) (hlanguage : languageMatches language = true)
  (hloop : nativeSegments frames predicted = .ok segments) {request : ℤ} {memory : Json} {line : List ℕ}
  (hemit : emit (packet request memory (resultJson language segments)) = .ok line)
include h hmax htexts hlanguage hloop hemit

/-- What is said of a result that was emitted. -/
theorem decode_emitted : decodeWhisperCppResult F (dump (resultJson language segments)) (audioSeconds frames) =
    if RoundsBelow frames ∧ ∃ p ∈ predicted, ((frames / 16 : ℕ) : ℤ) ≤ p.t1 * 10 then
      .error (refused "Backend segment timing is reversed, overlapping or out of bounds")
    else .ok (whisperResult language segments) := by
  obtain ⟨hbounded, hcount⟩ := bounded_of_nativeSegments hloop
  have hwritten : ∀ s ∈ segments, Encodable s.text ∧ 0 ∉ s.text := by
    intro s hs
    obtain ⟨p, hp, heq⟩ := hbounded.text_mem hs
    exact heq ▸ htexts p hp
  have hms : ((frames / 16 : ℕ) : ℤ) ≤ 86400000 := by
    rw [maxFrames, sampleRate] at hmax
    omega
  rw [decodeWhisperCppResult_dump hlanguage hwritten (hbounded.length_eq.trans_le hcount) (length_dump_le hemit)
    ⟨audioSeconds_pos h hmax, audioSeconds_le h hmax⟩, resultSegments_toJson hbounded le_rfl hms hwritten]
  simp only [exists_over_iff h hmax hbounded]
  by_cases hover : RoundsBelow frames ∧ ∃ p ∈ predicted, ((frames / 16 : ℕ) : ℤ) ≤ p.t1 * 10
  · rw [if_pos hover, if_pos hover]
    rfl
  · rw [if_neg hover, if_neg hover]
    rfl

/-- The result of the worker is taken as it is, unless its last segment ends with the audio and the rounded
    milliseconds of the duration are below the whole ones. `whisper_lang_str` names a language of the table of
    whisper.cpp, all of which match. -/
theorem decode_emitted_iff :
    decodeWhisperCppResult F (dump (resultJson language segments)) (audioSeconds frames) =
        .ok (whisperResult language segments) ↔
      ¬ (RoundsBelow frames ∧ ∃ p ∈ predicted, ((frames / 16 : ℕ) : ℤ) ≤ p.t1 * 10) := by
  rw [decode_emitted h hmax htexts hlanguage hloop hemit]
  split_ifs with hover
  · exact ⟨nofun, fun hnot => absurd hover hnot⟩
  · exact ⟨fun _ => hover, fun _ => rfl⟩

end Emitted

/-- Two words over a second. -/
theorem decode_emitted_iff_greeting :
    decodeWhisperCppResult ⟨some, rfl⟩ (dump (resultJson (text "en") [⟨0, 900, text "Hi all"⟩]))
        (audioSeconds 16000) = .ok (whisperResult (text "en") [⟨0, 900, text "Hi all"⟩]) ↔
      ¬ (RoundsBelow 16000 ∧ ∃ p ∈ [(⟨0, 90, text "Hi all"⟩ : PredictedSegment)],
        ((16000 / 16 : ℕ) : ℤ) ≤ p.t1 * 10) :=
  decode_emitted_iff (by decide) (by decide)
    (List.forall_mem_singleton.2 ⟨Json.encodable_ascii (by decide), by decide⟩) (by decide) (by rfl)
    (show emit (packet 1 .null (resultJson (text "en") [⟨0, 900, text "Hi all"⟩])) = .ok _ from
      if_neg (by decide +kernel))

/-- The audio has 1001 ms, but `1.001 * 1000` is less than 1001. -/
theorem end_of_audio_refused : ¬ ∀ (F : FloatReader) (frames : ℕ) (predicted : List PredictedSegment)
    (language : Text) (segments : List NativeSegment) (request : ℤ) (memory : Json) (line : List ℕ),
    1 ≤ frames → frames ≤ maxFrames → (∀ p ∈ predicted, Encodable p.text ∧ 0 ∉ p.text) →
    languageMatches language = true → nativeSegments frames predicted = .ok segments →
    emit (packet request memory (resultJson language segments)) = .ok line →
    decodeWhisperCppResult F (dump (resultJson language segments)) (audioSeconds frames) =
      .ok (whisperResult language segments) := by
  intro hall
  have hvalid : ∀ p ∈ [(⟨0, 101, text "Hi"⟩ : PredictedSegment)], Encodable p.text ∧ 0 ∉ p.text :=
    List.forall_mem_singleton.2 ⟨Json.encodable_ascii (by decide), by decide⟩
  have hloop : nativeSegments 16016 [⟨0, 101, text "Hi"⟩] = .ok [⟨0, 1001, text "Hi"⟩] := by rfl
  have hemit : emit (packet 1 .null (resultJson (text "en") [⟨0, 1001, text "Hi"⟩])) =
      .ok (dump (packet 1 .null (resultJson (text "en") [⟨0, 1001, text "Hi"⟩]))) := if_neg (by decide +kernel)
  have hok := hall ⟨some, rfl⟩ 16016 _ (text "en") _ 1 .null _ (by decide) (by decide) hvalid (by decide) hloop hemit
  rw [decode_emitted (by decide) (by decide) hvalid (by decide) hloop hemit, if_pos ⟨by decide, by simp⟩] at hok
  cases hok

end Native

end Subgen

import Subgen.Lib.JsonTexts
import Subgen.Lib.Procedure
import Subgen.Native.Milliseconds

/-!
# The segments of the native worker

The loop over the predicted segments in `whisper_cpp_worker.cpp`, and the packet with its result. The times
are predicted in units of 10 ms. A text is given by its code points, which are those of valid UTF-8; `dump`
escapes what JSON wants to be escaped, and nothing else.

The loop clamps the end of the last segment to that of the audio, if it is not further behind it than the window
of the decoder. It raises where any other segment ends behind the audio or goes back, and where the texts are
too large. What it leaves is bounded by the audio and in order (`Bounded`).

* `bounded_of_nativeSegments`: the segments of a worker that did not raise;
* `Bounded.exists_stop_eq_iff`: when one of them ends with the audio.
-/

namespace Subgen

namespace Native

/-- `WorkerError`, by its fixed code. -/
abbrev WorkerError := String

/-- `MAX_RESULT`. -/
def maxResult : ℕ := 8 * 1024 * 1024

/-- `WHISPER_CHUNK_SIZE * 1000`. -/
def whisperChunkMs : ℤ := 30 * 1000

/-- What `whisper_full_get_segment_t0`, `t1` and `text` return. -/
structure PredictedSegment where
  t0 : ℤ
  t1 : ℤ
  text : Text

/-- The offsets that are emitted, and the text. -/
structure NativeSegment where
  start : ℤ
  stop : ℤ
  text : Text
  deriving DecidableEq

/-- `native_audio_end_ms`. -/
def nativeAudioEndMs (start stop previousEnd audioEnd : ℤ) (finalSegment : Bool) (decoderWindowMs : ℤ) :
    Except WorkerError ℤ :=
  if audioEnd ≤ 0 ∨ audioEnd > 1810000 ∨ decoderWindowMs ≤ 0 ∨ decoderWindowMs > 30000 ∨ previousEnd < 0 ∨
      start < previousEnd ∨ start ≥ audioEnd ∨ stop ≤ start then
    .error "invalid_segment_timing"
  else if stop ≤ audioEnd then .ok stop
  else if ¬ finalSegment ∨ stop - audioEnd > decoderWindowMs then .error "invalid_segment_timing"
  else .ok audioEnd

/-- The bytes of a text. -/
def utf8 (t : Text) : List ℕ := t.flatMap utf8Char

/-- The loop, from one segment on. -/
def segmentLoop (audioEndMs : ℤ) : ℕ → ℤ → List PredictedSegment → Except WorkerError (List NativeSegment)
  | _, _, [] => .ok []
  | textBytes, previousEndMs, segment :: rest =>
    if maxResult < textBytes + (utf8 segment.text).length then .error "text_limit"
    else do
      let endMs ← nativeAudioEndMs (segment.t0 * 10) (segment.t1 * 10) previousEndMs audioEndMs rest.isEmpty
        whisperChunkMs
      let segments ← segmentLoop audioEndMs (textBytes + (utf8 segment.text).length) endMs rest
      .ok (⟨segment.t0 * 10, endMs, segment.text⟩ :: segments)

/-- The segments of so many samples of audio. -/
def nativeSegments (frames : ℕ) (predicted : List PredictedSegment) : Except WorkerError (List NativeSegment) :=
  if 20000 < predicted.length then .error "segment_limit"
  else segmentLoop (frames * 1000 / sampleRate : ℕ) 0 0 predicted

/-- A segment as the worker writes it. -/
def NativeSegment.toJson (s : NativeSegment) : Json :=
  .object [(Subgen.text "offsets", .object [(Subgen.text "from", .int s.start), (Subgen.text "to", .int s.stop)]),
    (Subgen.text "text", .str s.text)]

/-- The `result` of a packet. -/
def resultJson (language : Text) (segments : List NativeSegment) : Json :=
  .object [(text "result", .object [(text "language", .str language)]),
    (text "transcription", .array (segments.map NativeSegment.toJson))]

/-- The packet that carries a result. -/
def packet (request : ℤ) (memory result : Json) : Json :=
  .object [(text "event", .str (text "result")), (text "request_id", .int request), (text "memory", memory),
    (text "result", result)]

/-- `packet.dump()`. -/
def dump (v : Json) : List ℕ := utf8 (v.write ⟨false, none⟩ 0)

/-- A packet as a line, if it is not too long. -/
def emit (v : Json) : Except WorkerError (List ℕ) :=
  if maxResult < (dump v).length then .error "result_limit" else .ok (dump v)

/-! ## What the loop leaves -/

/-- The segments go forward without overlap, none is empty, and only the last one is bounded. -/
inductive Bounded (audioEndMs : ℤ) : ℤ → List PredictedSegment → List NativeSegment → Prop
  | nil (previousEndMs : ℤ) : Bounded audioEndMs previousEndMs [] []
  | cons {previousEndMs : ℤ} {p : PredictedSegment} {rest : List PredictedSegment} {s : NativeSegment}
      {segments : List NativeSegment} (htext : s.text = p.text) (hstart : previousEndMs ≤ s.start)
      (hle : s.start < s.stop) (hbefore : s.start < audioEndMs) (hstop : s.stop = min (p.t1 * 10) audioEndMs)
      (hrest : Bounded audioEndMs s.stop rest segments) : Bounded audioEndMs previousEndMs (p :: rest) (s :: segments)

variable {audioEndMs : ℤ} {predicted : List PredictedSegment} {segments : List NativeSegment}

theorem bounded_of_segmentLoop {textBytes : ℕ} {previousEndMs : ℤ}
    (h : segmentLoop audioEndMs textBytes previousEndMs predicted = .ok segments) :
    Bounded audioEndMs previousEndMs predicted segments := by
  induction predicted generalizing textBytes previousEndMs segments with
  | nil =>
    cases h
    exact .nil previousEndMs
  | cons p rest ih =>
    rw [segmentLoop] at h
    split_ifs at h
    obtain ⟨endMs, hend, h⟩ := Procedure.bind_eq_ok.1 h
    obtain ⟨more, hmore, h⟩ := Procedure.bind_eq_ok.1 h
    obtain rfl := Except.ok.inj h
    rw [nativeAudioEndMs] at hend
    split_ifs at hend with hinvalid hinside hwindow
    · obtain rfl := Except.ok.inj hend
      push Not at hinvalid
      exact .cons rfl hinvalid.2.2.2.2.2.1 hinvalid.2.2.2.2.2.2.2 hinvalid.2.2.2.2.2.2.1
        (min_eq_left hinside).symm (ih hmore)
    · obtain rfl := Except.ok.inj hend
      push Not at hinvalid hinside
      exact .cons rfl hinvalid.2.2.2.2.2.1 hinvalid.2.2.2.2.2.2.1 hinvalid.2.2.2.2.2.2.1
        (min_eq_right hinside.le).symm (ih hmore)

theorem bounded_of_nativeSegments {frames : ℕ} (h : nativeSegments frames predicted = .ok segments) :
    Bounded (frames / 16 : ℕ) 0 predicted segments ∧ predicted.length ≤ 20000 := by
  rw [nativeSegments] at h
  split_ifs at h with hlimit
  have hms : frames * 1000 / sampleRate = frames / 16 := Nat.mul_div_mul_right frames 16 (by norm_num)
  rw [hms] at h
  exact ⟨bounded_of_segmentLoop h, not_lt.1 hlimit⟩

theorem Bounded.length_eq {previousEndMs : ℤ} (h : Bounded audioEndMs previousEndMs predicted segments) :
    segments.length = predicted.length := by
  induction h with
  | nil => rfl
  | cons _ _ _ _ _ _ ih => rw [List.length_cons, List.length_cons, ih]

theorem Bounded.text_mem {previousEndMs : ℤ} (h : Bounded audioEndMs previousEndMs predicted segments)
    {s : NativeSegment} (hs : s ∈ segments) : ∃ p ∈ predicted, s.text = p.text := by
  induction h with
  | nil => cases hs
  | cons htext _ _ _ _ _ ih =>
    rcases List.mem_cons.1 hs with rfl | hs
    · exact ⟨_, List.mem_cons_self, htext⟩
    · obtain ⟨p, hp, heq⟩ := ih hs
      exact ⟨p, List.mem_cons_of_mem _ hp, heq⟩

theorem Bounded.stop_le {previousEndMs : ℤ} (h : Bounded audioEndMs previousEndMs predicted segments) :
    ∀ s ∈ segments, s.stop ≤ audioEndMs := by
  induction h with
  | nil => exact nofun
  | cons _ _ _ _ hstop _ ih => exact List.forall_mem_cons.2 ⟨hstop ▸ min_le_right _ _, ih⟩

/-- A segment ends with the audio where one was predicted to end there or behind it. -/
theorem Bounded.exists_stop_eq_iff {previousEndMs : ℤ} (h : Bounded audioEndMs previousEndMs predicted segments) :
    (∃ s ∈ segments, s.stop = audioEndMs) ↔ ∃ p ∈ predicted, audioEndMs ≤ p.t1 * 10 := by
  induction h with
  | nil => simp
  | cons _ _ _ _ hstop _ ih => rw [List.exists_mem_cons_iff, List.exists_mem_cons_iff, hstop, min_eq_right_iff, ih]

end Native

end Subgen

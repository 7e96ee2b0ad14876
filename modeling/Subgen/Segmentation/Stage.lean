import Subgen.Lib.Procedure
import Subgen.Segmentation.Window
import Mathlib.Tactic.Ring

/-!
# Staging a chunk result

One successful inference result is copied, moved to the source timeline, and cut
down to what the core of its window owns: a word or a wordless segment belongs to
the core its midpoint is in, and its ends are clamped to that core
(`clampOwnedIntervalToCore`). The staged segments are then validated: their
intervals, and those of their words, go forward without overlap.

* `validateMonotonicSegments_eq_ok_iff`: the validator accepts exactly the lists of
  segments with `MonotoneSegments`.
* `inside_of_stageChunkResult`: at exact times, everything staged lies inside the core.
-/

namespace Subgen

open Procedure

/-! ## Staged content -/

/-- A staged word, on the source timeline. -/
structure Word where
  word : String
  start : ℚ
  stop : ℚ
  probability : Option ℚ
  tokens : Option (List ℤ)
  deriving DecidableEq

/-- The fields of a segment that are copied as they are. -/
structure SegmentMetadata where
  temperature : Option ℚ
  avgLogprob : Option ℚ
  compressionRatio : Option ℚ
  noSpeechProb : Option ℚ
  deriving DecidableEq

/-- A staged segment; `words` is `none` where the payload has no such key. -/
structure Segment where
  metadata : SegmentMetadata
  start : ℚ
  stop : ℚ
  text : String
  tokens : Option (List ℤ)
  words : Option (List Word)
  deriving DecidableEq

/-- The words of a segment, none where it has no such key. -/
def Segment.wordList (s : Segment) : List Word := s.words.getD []

/-- Copied chunk content that is safe to consider for one atomic commit. -/
structure StagedChunk where
  language : Option String
  segments : List Segment
  deriving DecidableEq

/-! ## Reading a structured result -/

/-- `_field` of a result; without a default the field must be there. -/
def field (value : Value) (name : String) (fallback : Option Value) : Except Exc Value :=
  let found := match value with
    | .dict items => items.lookup name
    | .object attributes _ => attributes.lookup name
    | _ => none
  match found, fallback with
  | some v, _ => .ok v
  | none, some v => .ok v
  | none, none => .error (.segmentationError s!"Structured result is missing {name}")

/-- `_canonical_mapping`. -/
def canonicalMapping (value : Value) (label : String) : Except Exc Dict :=
  match value with
  | .dict items => .ok items
  | .object _ (some (.ok (.dict items))) => .ok items
  | .object _ (some (.ok _)) =>
    .error (.segmentationError s!"{label} structured data must be a mapping")
  | .object _ (some (.error e)) => .error e
  | _ => .error (.segmentationError s!"{label} does not provide structured data")

/-- `_structured_sequence`. -/
def structuredSequence (value : Value) (label : String) : Except Exc (List Value) :=
  match value with
  | .list items => .ok items
  | _ => .error (.segmentationError s!"{label} must be a finite sequence")

/-- One token. -/
def copyToken (label : String) : Value → Except Exc ℤ
  | .int n => .ok n
  | _ => .error (.segmentationError s!"{label} tokens must contain integers")

/-- `_copy_tokens`. -/
def copyTokens (value : Value) (label : String) : Except Exc (Option (List ℤ)) :=
  match value with
  | .none => .ok none
  | value => do
    let tokens ← structuredSequence value s!"{label} tokens"
    .ok (some (← tokens.mapM (copyToken label)))

/-- `_copy_optional_real`. -/
def copyOptionalReal [Rounding] (value : Value) (label : String) : Except Exc (Option ℚ) :=
  match value with
  | .none => .ok none
  | value => do .ok (some (← finiteNumber value label))

/-- The interval, if it is not reversed and lies in the media. -/
def validatedInterval (start stop : ℚ) (label : String) (mediaDuration : ℚ) :
    Except Exc (ℚ × ℚ) :=
  let difference := start - stop
  if start > stop then
    .error (.nonMonotonicResult
      s!"{label} start exceeds end (start={start}s, end={stop}s, difference={difference}s)")
  else if ¬ (0 ≤ start ∧ start ≤ mediaDuration ∧ 0 ≤ stop ∧ stop ≤ mediaDuration) then
    .error (.nonMonotonicResult s!"{label} is outside the media timeline")
  else
    .ok (start, stop)

theorem validatedInterval_eq_ok_iff {a b d : ℚ} {label : String} {p : ℚ × ℚ} :
    validatedInterval a b label d = .ok p ↔ p = (a, b) ∧ 0 ≤ a ∧ a ≤ b ∧ b ≤ d := by
  by_cases h₁ : a > b
  · simp [validatedInterval, h₁, not_le.2 h₁]
  by_cases h₂ : 0 ≤ a ∧ a ≤ d ∧ 0 ≤ b ∧ b ≤ d
  · rw [validatedInterval, if_neg h₁, if_neg (not_not.2 h₂), Except.ok.injEq, eq_comm]
    exact ⟨fun h => ⟨h, h₂.1, not_lt.1 h₁, h₂.2.2.2⟩, fun h => h.1⟩
  · rw [validatedInterval, if_neg h₁, if_pos h₂]
    refine ⟨fun h => (by cases h), fun ⟨_, h0, hab, hb⟩ => absurd ?_ h₂⟩
    exact ⟨h0, hab.trans hb, h0.trans hab, hb⟩

/-- `_copy_word`. -/
def copyWord [Rounding] (word : Value) (offset mediaDuration : ℚ) : Except Exc Word := do
  let source ← canonicalMapping word "word"
  match source.get "word" with
  | .str text => do
    let wordStart ← finiteNumber (source.get "start") "word start"
    let wordEnd ← finiteNumber (source.get "end") "word end"
    let (start, stop) ← validatedInterval (rounded (wordStart + offset))
      (rounded (wordEnd + offset)) "word" mediaDuration
    let probability ← copyOptionalReal (source.get "probability") "word probability"
    let tokens ← copyTokens (source.get "tokens") "word"
    .ok ⟨text, start, stop, probability, tokens⟩
  | _ => .error (.segmentationError "Word text must be a string")

/-- The copied fields; `seek` is chunk-local and is dropped. -/
def copySegmentMetadata [Rounding] (source : Dict) : Except Exc SegmentMetadata := do
  let temperature ← copyOptionalReal (source.get "temperature") "segment temperature"
  let avgLogprob ← copyOptionalReal (source.get "avg_logprob") "segment avg_logprob"
  let compressionRatio ←
    copyOptionalReal (source.get "compression_ratio") "segment compression_ratio"
  let noSpeechProb ← copyOptionalReal (source.get "no_speech_prob") "segment no_speech_prob"
  .ok ⟨temperature, avgLogprob, compressionRatio, noSpeechProb⟩

/-- The tokens of all owned words, if every one has them. -/
def flattenOwnedTokens (words : List Word) : Option (List ℤ) :=
  match words with
  | [] => none
  | words => (words.mapM Word.tokens).map List.flatten

/-- An owned interval, kept inside the core that publishes it. -/
def clampOwnedIntervalToCore (start stop : ℚ) (window : ChunkWindow) : ℚ × ℚ :=
  (max start window.coreStart, min stop window.coreEnd)

/-- The word cut to the core of the window. -/
def clampWord (window : ChunkWindow) (word : Word) : Word :=
  let (start, stop) := clampOwnedIntervalToCore word.start word.stop window
  { word with start := start, stop := stop }

/-- `(start + end) / 2`, which is what the code computes of it. -/
def midpoint [Rounding] (start stop : ℚ) : ℚ := rounded (rounded (start + stop) / 2)

/-- Whether the core of the window owns the word. -/
def ownsWord [Rounding] (window : ChunkWindow) (word : Word) : Bool :=
  window.ownsMidpoint (midpoint word.start word.stop)

/-- The payload of a segment with words: its bounds are those of its owned words. -/
def stageWords [Rounding] (metadata : SegmentMetadata) (window : ChunkWindow) (copied : List Word) :
    Option Segment :=
  match (copied.filter (ownsWord window)).map (clampWord window) with
  | [] => none
  | first :: rest =>
    some ⟨metadata, first.start, ((first :: rest).getLast (List.cons_ne_nil _ _)).stop,
      String.join ((first :: rest).map Word.word), flattenOwnedTokens (first :: rest),
      some (first :: rest)⟩

/-- The payload of a segment without words, by its own interval. -/
def stageWordless [Rounding] (source : Dict) (metadata : SegmentMetadata) (hasWords : Bool)
    (window : ChunkWindow) : Except Exc (Option Segment) :=
  match (source.lookup "text").getD (.str "") with
  | .str text =>
    if text = "" then
      .ok none
    else do
      let segmentStart ← finiteNumber (source.get "start") "segment start"
      let segmentEnd ← finiteNumber (source.get "end") "segment end"
      let (start, stop) ← validatedInterval
        (rounded (segmentStart + window.extractStart))
        (rounded (segmentEnd + window.extractStart)) "segment" window.mediaDuration
      if window.ownsMidpoint (midpoint start stop) then do
        let (start, stop) := clampOwnedIntervalToCore start stop window
        let tokens ← copyTokens ((source.lookup "tokens").getD (.list [])) "segment"
        .ok (some ⟨metadata, start, stop, text, tokens, if hasWords then some [] else none⟩)
      else
        .ok none
  | _ => .error (.segmentationError "Segment text must be a string")

/-- The words of a segment, and whether it has a value for them at all. -/
def segmentWords (source : Dict) : Except Exc (List Value × Bool) :=
  match source.lookup "words" with
  | none | some .none => .ok ([], false)
  | some value => do .ok (← structuredSequence value "segment words", true)

/-- `_stage_segment`. -/
def stageSegment [Rounding] (segment : Value) (window : ChunkWindow) : Except Exc (Option Segment) := do
  let source ← canonicalMapping segment "segment"
  let metadata ← copySegmentMetadata source
  let (words, hasWords) ← segmentWords source
  match words with
  | [] => stageWordless source metadata hasWords window
  | words => do
    let copied ← words.mapM fun word => copyWord word window.extractStart window.mediaDuration
    .ok (stageWords metadata window copied)

/-! ## Monotone segments -/

/-- The words of one segment, in their order. -/
def validateMonotonicWords (segmentIndex : ℕ) (mediaDuration : ℚ) :
    ℕ → ℚ → List Word → Except Exc Unit
  | _, _, [] => .ok ()
  | wordIndex, previousWordEnd, word :: words => do
    let (wordStart, wordEnd) ← validatedInterval word.start word.stop
      s!"segment {segmentIndex} word {wordIndex}" mediaDuration
    if wordStart < previousWordEnd then
      .error (.nonMonotonicResult "Word timestamps overlap or move backwards")
    else
      validateMonotonicWords segmentIndex mediaDuration (wordIndex + 1) wordEnd words

/-- The words of one segment, against each other and against its bounds. -/
def validateSegmentWords (segmentIndex : ℕ) (mediaDuration : ℚ) (segment : Segment) :
    Except Exc Unit :=
  match segment.wordList with
  | [] => .ok ()
  | first :: rest => do
    validateMonotonicWords segmentIndex mediaDuration 0 segment.start (first :: rest)
    if segment.start ≠ first.start ∨
        segment.stop ≠ ((first :: rest).getLast (List.cons_ne_nil _ _)).stop then
      .error (.nonMonotonicResult "Word-bearing segment bounds do not match its words")
    else
      .ok ()

/-- The loop of `_validate_monotonic_segments`, from a segment index on. -/
def validateSegmentsFrom (mediaDuration : ℚ) : ℕ → ℚ → List Segment → Except Exc Unit
  | _, _, [] => .ok ()
  | segmentIndex, previousSegmentEnd, segment :: segments => do
    let (start, stop) ← validatedInterval segment.start segment.stop s!"segment {segmentIndex}"
      mediaDuration
    if start < previousSegmentEnd then
      .error (.nonMonotonicResult "Segment timestamps overlap or move backwards")
    else do
      validateSegmentWords segmentIndex mediaDuration segment
      validateSegmentsFrom mediaDuration (segmentIndex + 1) stop segments

/-- `_validate_monotonic_segments`. -/
def validateMonotonicSegments (segments : List Segment) (mediaDuration : ℚ) : Except Exc Unit :=
  validateSegmentsFrom mediaDuration 0 0 segments

/-- The words go forward from `p` without overlap, inside the media. -/
def MonotoneWords (d : ℚ) : ℚ → List Word → Prop
  | _, [] => True
  | p, w :: l => (0 ≤ w.start ∧ w.start ≤ w.stop ∧ w.stop ≤ d) ∧ p ≤ w.start ∧
    MonotoneWords d w.stop l

/-- The bounds of a segment are those of its words, which go forward inside it. -/
def Segment.Bounds (d : ℚ) (s : Segment) : Prop :=
  ∀ first rest, s.wordList = first :: rest →
    MonotoneWords d s.start (first :: rest) ∧ s.start = first.start ∧
      s.stop = ((first :: rest).getLast (List.cons_ne_nil _ _)).stop

/-- The segments go forward from `p` without overlap, inside the media. -/
def MonotoneSegments (d : ℚ) : ℚ → List Segment → Prop
  | _, [] => True
  | p, s :: l => (0 ≤ s.start ∧ s.start ≤ s.stop ∧ s.stop ≤ d) ∧ p ≤ s.start ∧ s.Bounds d ∧
    MonotoneSegments d s.stop l

theorem validateMonotonicWords_eq_ok_iff {d : ℚ} {i j : ℕ} {p : ℚ} {l : List Word} :
    validateMonotonicWords i d j p l = .ok () ↔ MonotoneWords d p l := by
  induction l generalizing j p with
  | nil => simp [validateMonotonicWords, MonotoneWords]
  | cons w l ih =>
    simp only [validateMonotonicWords, bind_eq_ok, validatedInterval_eq_ok_iff, MonotoneWords]
    constructor
    · rintro ⟨_, ⟨rfl, hw⟩, h⟩
      dsimp only at h
      split_ifs at h with hp
      exact ⟨hw, not_lt.1 hp, ih.1 h⟩
    · rintro ⟨hw, hp, hl⟩
      refine ⟨_, ⟨rfl, hw⟩, ?_⟩
      dsimp only
      rw [if_neg (not_lt.2 hp)]
      exact ih.2 hl

theorem validateSegmentWords_eq_ok_iff {d : ℚ} {i : ℕ} {s : Segment} :
    validateSegmentWords i d s = .ok () ↔ s.Bounds d := by
  unfold validateSegmentWords Segment.Bounds
  split
  · next h => simp [h]
  · next first rest h =>
    simp only [h, bind_eq_ok, List.cons.injEq]
    constructor
    · rintro ⟨⟨⟩, hm, hb⟩ _ _ ⟨rfl, rfl⟩
      split_ifs at hb with hne
      push Not at hne
      exact ⟨validateMonotonicWords_eq_ok_iff.1 hm, hne⟩
    · intro h
      obtain ⟨hm, hb⟩ := h first rest ⟨rfl, rfl⟩
      refine ⟨(), validateMonotonicWords_eq_ok_iff.2 hm, ?_⟩
      rw [if_neg (by push Not; exact hb)]

theorem validateSegmentsFrom_eq_ok_iff {d : ℚ} {i : ℕ} {p : ℚ} {l : List Segment} :
    validateSegmentsFrom d i p l = .ok () ↔ MonotoneSegments d p l := by
  induction l generalizing i p with
  | nil => simp [validateSegmentsFrom, MonotoneSegments]
  | cons s l ih =>
    simp only [validateSegmentsFrom, bind_eq_ok, validatedInterval_eq_ok_iff, MonotoneSegments]
    constructor
    · rintro ⟨_, ⟨rfl, hs⟩, h⟩
      dsimp only at h
      split_ifs at h with hp
      obtain ⟨⟨⟩, hw, h⟩ := bind_eq_ok.1 h
      exact ⟨hs, not_lt.1 hp, validateSegmentWords_eq_ok_iff.1 hw, ih.1 h⟩
    · rintro ⟨hs, hp, hb, hl⟩
      refine ⟨_, ⟨rfl, hs⟩, ?_⟩
      dsimp only
      rw [if_neg (not_lt.2 hp)]
      exact bind_eq_ok.2 ⟨(), validateSegmentWords_eq_ok_iff.2 hb, ih.2 hl⟩

/-- The validator accepts exactly the segments that go forward from the start of
    the media. -/
theorem validateMonotonicSegments_eq_ok_iff {d : ℚ} {l : List Segment} :
    validateMonotonicSegments l d = .ok () ↔ MonotoneSegments d 0 l :=
  validateSegmentsFrom_eq_ok_iff

/-- Where the last of the segments ends, or `p` if there is none. -/
def lastEnd (p : ℚ) (l : List Segment) : ℚ := (l.getLast?.map Segment.stop).getD p

theorem monotoneSegments_append {d p : ℚ} {l l' : List Segment} :
    MonotoneSegments d p (l ++ l') ↔
      MonotoneSegments d p l ∧ MonotoneSegments d (lastEnd p l) l' := by
  induction l generalizing p with
  | nil => simp [MonotoneSegments, lastEnd]
  | cons s l ih =>
    have hlast : lastEnd p (s :: l) = lastEnd s.stop l := by
      simp only [lastEnd, List.getLast?_cons]
      cases l.getLast? <;> rfl
    simp only [List.cons_append, MonotoneSegments, ih, hlast]
    tauto

/-- Only the first segment is compared with where the segments go forward from. -/
theorem MonotoneSegments.from {d p q : ℚ} {l : List Segment} (h : MonotoneSegments d p l)
    (hq : ∀ s ∈ l.head?, q ≤ s.start) : MonotoneSegments d q l := by
  cases l with
  | nil => trivial
  | cons s l => exact ⟨h.1, hq s rfl, h.2.2⟩

theorem MonotoneSegments.of_le {d p q : ℚ} {l : List Segment} (h : MonotoneSegments d p l)
    (hq : q ≤ p) : MonotoneSegments d q l := by
  cases l with
  | nil => trivial
  | cons s l => exact ⟨h.1, hq.trans h.2.1, h.2.2⟩

theorem MonotoneSegments.interval {d p : ℚ} {l : List Segment} (h : MonotoneSegments d p l) :
    ∀ s ∈ l, 0 ≤ s.start ∧ s.start ≤ s.stop ∧ s.stop ≤ d := by
  induction l generalizing p with
  | nil => simp
  | cons s l ih => exact List.forall_mem_cons.2 ⟨h.1, ih h.2.2.2⟩

/-! ## Staging -/

/-- `_normalized_language`. -/
def normalizedLanguage (value : Value) : Except Exc (Option String) :=
  match value with
  | .none => .ok none
  | .str s => .ok (if strip s = "" then none else some (strip s))
  | _ => .error (.segmentationError "Chunk language must be text or null")

/-- The language of a result, looked at only if something was staged from it. -/
def stagedLanguage (result : Value) (stagedSegments : List Segment) :
    Except Exc (Option String) :=
  if stagedSegments = [] then
    .ok none
  else do
    let language ← field result "language" (some .none)
    normalizedLanguage language

/-- The staged chunk of one successful, uncommitted result. -/
def stageChunkResult [Rounding] (result : Value) (window : ChunkWindow) : Except Exc StagedChunk := do
  let segmentsValue ← field result "segments" none
  let sourceSegments ← structuredSequence segmentsValue "result segments"
  let staged ← sourceSegments.mapM fun segment => stageSegment segment window
  let stagedSegments := staged.filterMap id
  validateMonotonicSegments stagedSegments window.mediaDuration
  let language ← stagedLanguage result stagedSegments
  .ok ⟨language, stagedSegments⟩

/-! ## What is staged lies inside the core -/

/-- The interval lies inside the core of the window. -/
def ChunkWindow.Contains (w : ChunkWindow) (a b : ℚ) : Prop :=
  w.coreStart ≤ a ∧ a ≤ b ∧ b ≤ w.coreEnd

/-- At exact times, clamping an owned interval keeps its midpoint between its ends, whatever
    part of it the core cuts off. -/
theorem contains_clamp {w : ChunkWindow} {a b : ℚ} (hab : a ≤ b)
    (h : w.ownsMidpoint (midpoint a b) = true) :
    w.Contains (clampOwnedIntervalToCore a b w).1 (clampOwnedIntervalToCore a b w).2 := by
  obtain ⟨h₁, h₂⟩ : w.coreStart ≤ (a + b) / 2 ∧ (a + b) / 2 ≤ w.coreEnd :=
    ChunkWindow.le_of_ownsMidpoint h
  have ha : max a w.coreStart ≤ (a + b) / 2 := max_le (by linarith) h₁
  have hb : (a + b) / 2 ≤ min b w.coreEnd := le_min (by linarith) h₂
  exact ⟨le_max_right _ _, ha.trans hb, min_le_right _ _⟩

theorem le_of_copyWord [Rounding] {v : Value} {o d : ℚ} {word : Word} (h : copyWord v o d = .ok word) :
    word.start ≤ word.stop := by
  obtain ⟨source, -, h⟩ := bind_eq_ok.1 h
  split at h
  · obtain ⟨a, -, h⟩ := bind_eq_ok.1 h
    obtain ⟨b, -, h⟩ := bind_eq_ok.1 h
    obtain ⟨p, hp, h⟩ := bind_eq_ok.1 h
    obtain ⟨q, -, h⟩ := bind_eq_ok.1 h
    obtain ⟨t, -, h⟩ := bind_eq_ok.1 h
    obtain ⟨rfl, -, hab, -⟩ := validatedInterval_eq_ok_iff.1 hp
    cases h
    exact hab
  · cases h

/-- The words a segment keeps are owned ones, clamped to the core. -/
theorem stageWords_eq_some [Rounding] {m : SegmentMetadata} {w : ChunkWindow} {l : List Word} {s : Segment}
    (h : stageWords m w l = some s) :
    s.wordList = (l.filter (ownsWord w)).map (clampWord w) ∧
      ∃ first rest, s.wordList = first :: rest ∧ s.start = first.start ∧
        s.stop = ((first :: rest).getLast (List.cons_ne_nil _ _)).stop := by
  unfold stageWords at h
  split at h
  · cases h
  · next first rest hl =>
    cases h
    exact ⟨hl.symm, first, rest, rfl, rfl, rfl⟩

/-- A segment is dropped when it owns none of its words. -/
theorem stageWords_eq_none [Rounding] {m : SegmentMetadata} {w : ChunkWindow} {l : List Word}
    (h : stageWords m w l = none) : (l.filter (ownsWord w)).map (clampWord w) = [] := by
  rw [stageWords] at h
  split at h
  · next hl => exact hl
  · cases h

/-- A segment that is staged by its own interval has no words. -/
theorem wordList_of_stageWordless [Rounding] {source : Dict} {m : SegmentMetadata} {b : Bool}
    {w : ChunkWindow} {o : Option Segment} (h : stageWordless source m b w = .ok o) :
    o.toList.flatMap Segment.wordList = [] := by
  rw [stageWordless] at h
  split at h
  · split at h
    · cases h
      rfl
    obtain ⟨_, -, h⟩ := bind_eq_ok.1 h
    obtain ⟨_, -, h⟩ := bind_eq_ok.1 h
    obtain ⟨p, -, h⟩ := bind_eq_ok.1 h
    dsimp only at h
    split at h
    · obtain ⟨_, -, h⟩ := bind_eq_ok.1 h
      cases h
      cases b <;> rfl
    · cases h
      rfl
  · cases h

theorem contains_clampWord {w : ChunkWindow} {l : List Word} (hl : ∀ x ∈ l, x.start ≤ x.stop) :
    ∀ x ∈ (l.filter (ownsWord w)).map (clampWord w), w.Contains x.start x.stop := by
  intro x hx
  obtain ⟨y, hy, rfl⟩ := List.mem_map.1 hx
  obtain ⟨hy, howns⟩ := List.mem_filter.1 hy
  exact contains_clamp (hl y hy) howns

/-- A staged segment starts and ends inside the core, and so does each of its words. -/
theorem contains_of_stageSegment {v : Value} {w : ChunkWindow} {s : Segment}
    (h : stageSegment v w = .ok (some s)) :
    w.coreStart ≤ s.start ∧ s.stop ≤ w.coreEnd ∧
      ∀ x ∈ s.wordList, w.Contains x.start x.stop := by
  obtain ⟨source, -, h⟩ := bind_eq_ok.1 h
  obtain ⟨metadata, -, h⟩ := bind_eq_ok.1 h
  obtain ⟨⟨words, hasWords⟩, -, h⟩ := bind_eq_ok.1 h
  dsimp only at h
  split at h
  · -- Without words, the segment is clamped by its own interval.
    unfold stageWordless at h
    split at h
    · split at h
      · cases h
      obtain ⟨a, -, h⟩ := bind_eq_ok.1 h
      obtain ⟨b, -, h⟩ := bind_eq_ok.1 h
      obtain ⟨p, hp, h⟩ := bind_eq_ok.1 h
      obtain ⟨rfl, -, hab, -⟩ := validatedInterval_eq_ok_iff.1 hp
      dsimp only at h
      split at h
      · -- The segment is owned, so that its clamped interval is not empty.
        rename_i howns
        obtain ⟨t, -, h⟩ := bind_eq_ok.1 h
        have hc := contains_clamp hab howns
        cases h
        refine ⟨hc.1, hc.2.2, ?_⟩
        cases hasWords <;> simp [Segment.wordList]
      · cases h
    · cases h
  · -- With words, its bounds are those of the owned words.
    obtain ⟨copied, hcopied, h⟩ := bind_eq_ok.1 h
    obtain ⟨hwords, first, rest, hl, hstart, hstop⟩ := stageWords_eq_some (Except.ok.inj h)
    have hle : ∀ x ∈ copied, x.start ≤ x.stop := fun x hx => by
      obtain ⟨y, -, hy⟩ := exists_of_mem_mapM hcopied hx
      exact le_of_copyWord hy
    have hin : ∀ x ∈ s.wordList, w.Contains x.start x.stop := by
      rw [hwords]
      exact contains_clampWord hle
    refine ⟨?_, ?_, hin⟩
    · rw [hstart]
      exact (hin first (by rw [hl]; exact List.mem_cons_self)).1
    · rw [hstop]
      exact (hin _ (by rw [hl]; exact List.getLast_mem _)).2.2

/-- Everything a chunk stages lies inside the core of its window, and goes forward. -/
theorem inside_of_stageChunkResult {v : Value} {w : ChunkWindow} {c : StagedChunk}
    (h : stageChunkResult v w = .ok c) :
    MonotoneSegments w.mediaDuration w.coreStart c.segments ∧
      ∀ s ∈ c.segments, w.Contains s.start s.stop ∧
        ∀ x ∈ s.wordList, w.Contains x.start x.stop := by
  obtain ⟨value, -, h⟩ := bind_eq_ok.1 h
  obtain ⟨source, -, h⟩ := bind_eq_ok.1 h
  obtain ⟨staged, hstaged, h⟩ := bind_eq_ok.1 h
  obtain ⟨⟨⟩, hvalid, h⟩ := bind_eq_ok.1 h
  obtain ⟨language, -, h⟩ := bind_eq_ok.1 h
  cases h
  have hmono := validateMonotonicSegments_eq_ok_iff.1 hvalid
  have hin : ∀ s ∈ staged.filterMap id, w.coreStart ≤ s.start ∧ s.stop ≤ w.coreEnd ∧
      ∀ x ∈ s.wordList, w.Contains x.start x.stop := fun s hs => by
    obtain ⟨o, ho, rfl⟩ := List.mem_filterMap.1 hs
    obtain ⟨v, -, hv⟩ := exists_of_mem_mapM hstaged ho
    exact contains_of_stageSegment hv
  refine ⟨hmono.from fun s hs => (hin s (List.mem_of_mem_head? hs)).1, fun s hs => ?_⟩
  obtain ⟨h₁, h₂, h₃⟩ := hin s hs
  exact ⟨⟨h₁, (hmono.interval s hs).2.1, h₂⟩, h₃⟩

end Subgen

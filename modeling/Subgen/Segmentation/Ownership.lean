import Subgen.Segmentation.Commit

/-!
# Ownership of words

Every extraction overlaps its neighbours, so that several windows may report the
same word. The core its midpoint is in owns it: half-open cores, and the closed end
of the last one, leave every point of the media to exactly one window of a tiling
(`filter_ownsMidpoint_eq`). A word no longer than twice the overlap is heard in full
by its owner, also at the ends of the media and where cores are shorter than the
overlap; but the midpoint is that of the floats, and a word whose ends have an
inexact sum must be shorter by as much as that is off (`owned_not_heard`).

`reports` are the words of a result, on the source timeline, and
`words_eq_of_stageChunkResult` says which of them are staged: the owned ones, clamped
and in their order.
-/

namespace Subgen

open Procedure

/-! ## One owner -/

section

variable [Rounding]

/-- No window planned from a cursor owns a point before it. -/
theorem filter_ownsMidpoint_of_lt {d v c m : ℚ} {n : ℕ} {l : List ChunkWindow}
    (h : Planned d v c n l) (hm : m < c) : l.filter (fun w => w.ownsMidpoint m) = [] := by
  induction l generalizing c n with
  | nil => rfl
  | cons w l ih =>
    obtain ⟨⟨s, hplan⟩, hrest⟩ := h
    obtain ⟨_, _, rfl⟩ := eq_of_planned hplan
    rw [List.filter_cons, if_neg, ih hrest (hm.trans w.core_lt)]
    intro howns
    exact absurd (ChunkWindow.le_of_ownsMidpoint howns).1 (not_le.2 hm)

/-- Exactly one of the windows planned from a cursor owns a point from there on. -/
theorem filter_ownsMidpoint_eq {d v c m : ℚ} {n : ℕ} {l : List ChunkWindow}
    (h : Planned d v c n l) (hcd : c < d) (hcm : c ≤ m) (hmd : m ≤ d) :
    ∃ w ∈ l, l.filter (fun w => w.ownsMidpoint m) = [w] := by
  induction l generalizing c n with
  | nil => exact absurd h hcd.ne
  | cons w l ih =>
    obtain ⟨⟨s, hplan⟩, hrest⟩ := h
    obtain ⟨hwd, _, rfl⟩ := eq_of_planned hplan
    rcases lt_or_ge m w.coreEnd with hlt | hge
    · -- The point is in this core, and before all the others.
      have howns : w.ownsMidpoint m = true := by
        rw [ChunkWindow.ownsMidpoint]
        split_ifs
        · exact decide_eq_true ⟨hcm, hlt.le⟩
        · exact decide_eq_true ⟨hcm, hlt⟩
      refine ⟨w, List.mem_cons_self, ?_⟩
      rw [List.filter_cons, if_pos howns, filter_ownsMidpoint_of_lt hrest hlt]
    rcases eq_or_lt_of_le (hwd ▸ w.core_le_duration : w.coreEnd ≤ d) with hfin | hlt
    · -- The last core, which is closed: the point is the end of the media.
      obtain rfl : m = d := le_antisymm hmd (hfin ▸ hge)
      have howns : w.ownsMidpoint m = true := by
        rw [ChunkWindow.ownsMidpoint, if_pos (by simp [ChunkWindow.isFinal, hfin, hwd])]
        exact decide_eq_true ⟨hcm, hfin.ge⟩
      have hl : l = [] := by
        cases l with
        | nil => rfl
        | cons w' l =>
          obtain ⟨⟨s', hplan'⟩, _⟩ := hrest
          obtain ⟨hwd', _, hstart⟩ := eq_of_planned hplan'
          have hlt := w'.core_lt.trans_le (hwd' ▸ w'.core_le_duration)
          exact absurd hfin (hstart ▸ hlt.ne)
      exact ⟨w, List.mem_cons_self, by rw [List.filter_cons, if_pos howns, hl, List.filter_nil]⟩
    · -- A core that ends before the point.
      have howns : ¬ w.ownsMidpoint m = true := by
        rw [ChunkWindow.ownsMidpoint, if_neg (by simp [ChunkWindow.isFinal, hwd, hlt.ne])]
        simp [not_lt.2 hge]
      obtain ⟨w', hw', heq⟩ := ih hrest hlt hge
      exact ⟨w', List.mem_cons_of_mem _ hw', by rw [List.filter_cons, if_neg howns, heq]⟩

/-- A planned window extracts the overlap around its core, as far as the media goes. -/
theorem extract_of_planned {d v c : ℚ} {n : ℕ} {l : List ChunkWindow} (h : Planned d v c n l) :
    ∀ w ∈ l, w.Extracts d v := by
  induction l generalizing c n with
  | nil => simp
  | cons w l ih =>
    obtain ⟨⟨s, hplan⟩, hrest⟩ := h
    exact List.forall_mem_cons.2 ⟨(planNextWindow_spec hplan).1, ih hrest⟩

/-- Halving is exact: all of the error in a midpoint comes from the sum of the ends. -/
theorem midpoint_eq (s e : ℚ) : midpoint s e = rounded (s + e) / 2 :=
  (representable_rounded (s + e)).half

/-- The midpoint of an interval of the media is a point of the media. -/
theorem midpoint_mem {d s e : ℚ} (hd : Representable d) (hs : 0 ≤ s) (hse : s ≤ e) (hed : e ≤ d) :
    0 ≤ midpoint s e ∧ midpoint s e ≤ d := by
  have hlow : 0 ≤ rounded (s + e) := representable_zero.le_rounded (by linarith)
  have hhigh : rounded (s + e) ≤ 2 * d := hd.two_mul.rounded_le (by linarith)
  rw [midpoint_eq]
  constructor <;> linarith

/-- The owner of a word hears all of it, if the word is no longer than twice the overlap, less
    the error in the sum of its ends. The two sums of the extraction may be off as well, but
    what is rounded does not go past an end of the word. -/
theorem extract_of_owns {d v s e : ℚ} {w : ChunkWindow} (hw : w.Extracts d v)
    (hrs : Representable s) (hre : Representable e) (hs : 0 ≤ s) (he : e ≤ d)
    (hlen : e - s ≤ 2 * v - |rounded (s + e) - (s + e)|)
    (howns : w.ownsMidpoint (midpoint s e) = true) : w.extractStart ≤ s ∧ e ≤ w.extractEnd := by
  obtain ⟨h₁, h₂⟩ := ChunkWindow.le_of_ownsMidpoint howns
  rw [midpoint_eq] at h₁ h₂
  obtain ⟨herror, herror'⟩ := abs_le.1 (le_refl |rounded (s + e) - (s + e)|)
  rw [hw.extractStart_eq, hw.extractEnd_eq]
  exact ⟨max_le hs (hrs.rounded_le (by linarith)), le_min he (hre.le_rounded (by linarith))⟩

/-! ## The words of a result -/

/-- The words of one segment of a result, on the source timeline. -/
def reportedWords (window : ChunkWindow) (segment : Value) : Except Exc (List Word) := do
  let source ← canonicalMapping segment "segment"
  let (words, _) ← segmentWords source
  words.mapM fun word => copyWord word window.extractStart window.mediaDuration

/-- The words of a whole result, on the source timeline. -/
def resultWords (window : ChunkWindow) (result : Value) : Except Exc (List Word) := do
  let segmentsValue ← field result "segments" none
  let sourceSegments ← structuredSequence segmentsValue "result segments"
  let words ← sourceSegments.mapM (reportedWords window)
  .ok words.flatten

/-- The words that a window reports; none where its result cannot be read. -/
def reports (window : ChunkWindow) (result : Value) : List Word :=
  (resultWords window result).toOption.getD []

/-- A staged segment has the owned words of its source, clamped. -/
theorem reportedWords_of_stageSegment {v : Value} {w : ChunkWindow} {o : Option Segment}
    (h : stageSegment v w = .ok o) :
    ∃ words, reportedWords w v = .ok words ∧
      o.toList.flatMap Segment.wordList = (words.filter (ownsWord w)).map (clampWord w) := by
  obtain ⟨source, hsource, h⟩ := bind_eq_ok.1 h
  obtain ⟨metadata, -, h⟩ := bind_eq_ok.1 h
  obtain ⟨⟨words, hasWords⟩, hwords, h⟩ := bind_eq_ok.1 h
  have hreported : reportedWords w v =
      words.mapM fun word => copyWord word w.extractStart w.mediaDuration := by
    rw [reportedWords, hsource]
    change (segmentWords source >>= _) = _
    rw [hwords]
    rfl
  dsimp only at h
  split at h
  · refine ⟨[], by rw [hreported]; rfl, ?_⟩
    rw [wordList_of_stageWordless h]
    rfl
  · obtain ⟨copied, hcopied, h⟩ := bind_eq_ok.1 h
    cases h
    refine ⟨copied, hreported.trans hcopied, ?_⟩
    cases ho : stageWords metadata w copied with
    | none => rw [stageWords_eq_none ho]; rfl
    | some s => simpa using (stageWords_eq_some ho).1

theorem mapM_reportedWords {w : ChunkWindow} {vs : List Value} {os : List (Option Segment)}
    (h : vs.mapM (fun v => stageSegment v w) = .ok os) :
    ∃ words, vs.mapM (reportedWords w) = .ok words ∧
      (os.filterMap id).flatMap Segment.wordList =
        (words.flatten.filter (ownsWord w)).map (clampWord w) := by
  replace h := mapM_eq_ok.1 h
  induction h with
  | nil => exact ⟨[], rfl, rfl⟩
  | @cons v o vs os hv _ ih =>
    obtain ⟨words, hwords, heq⟩ := reportedWords_of_stageSegment hv
    obtain ⟨rest, hrest, hreq⟩ := ih
    refine ⟨words :: rest, ?_, ?_⟩
    · exact mapM_eq_ok.2 (List.Forall₂.cons hwords (mapM_eq_ok.1 hrest))
    · rw [List.flatten_cons, List.filter_append, List.map_append, ← heq, ← hreq]
      cases o <;> simp

/-- The words of a staged chunk are the owned reports of its result, clamped to the
    core and in their order. -/
theorem words_eq_of_stageChunkResult {v : Value} {w : ChunkWindow} {c : StagedChunk}
    (h : stageChunkResult v w = .ok c) :
    c.segments.flatMap Segment.wordList =
      ((reports w v).filter (ownsWord w)).map (clampWord w) := by
  obtain ⟨value, hvalue, h⟩ := bind_eq_ok.1 h
  obtain ⟨source, hsource, h⟩ := bind_eq_ok.1 h
  obtain ⟨staged, hstaged, h⟩ := bind_eq_ok.1 h
  obtain ⟨⟨⟩, -, h⟩ := bind_eq_ok.1 h
  obtain ⟨language, -, h⟩ := bind_eq_ok.1 h
  cases h
  obtain ⟨words, hwords, heq⟩ := mapM_reportedWords hstaged
  have hall : resultWords w v = .ok words.flatten :=
    bind_eq_ok.2 ⟨value, hvalue, bind_eq_ok.2 ⟨source, hsource, bind_eq_ok.2 ⟨words, hwords, rfl⟩⟩⟩
  rw [heq, reports, hall]
  rfl

/-! ## Heard in full, committed once -/

/-- The word `t` from `s` to `e`. -/
def isReportOf (t : String) (s e : ℚ) (x : Word) : Bool := x.word = t ∧ x.start = s ∧ x.stop = e

/-- The words of a transcript, joined of the chunks of its windows. -/
def transcriptWords (chunks : List (ChunkWindow × Value × StagedChunk)) : List Word :=
  (chunks.flatMap fun p => p.2.2.segments).flatMap Segment.wordList

/-- The reports that the cores own, over all windows and in their order. -/
def ownedReports (chunks : List (ChunkWindow × Value × StagedChunk)) : List (ChunkWindow × Word) :=
  chunks.flatMap fun p => ((reports p.1 p.2.1).filter (ownsWord p.1)).map fun x => (p.1, x)

theorem transcriptWords_eq {chunks : List (ChunkWindow × Value × StagedChunk)}
    (h : ∀ p ∈ chunks, stageChunkResult p.2.1 p.1 = .ok p.2.2) :
    transcriptWords chunks = (ownedReports chunks).map fun q => clampWord q.1 q.2 := by
  induction chunks with
  | nil => rfl
  | cons p chunks ih =>
    rw [List.forall_mem_cons] at h
    rw [ownedReports, transcriptWords, List.flatMap_cons, List.flatMap_append,
      words_eq_of_stageChunkResult h.1, List.flatMap_cons, List.map_append, List.map_map]
    congr 1
    exact ih h.2

/-- Of the reports of a word, at its own time, a window keeps all or none. -/
theorem countP_filter_ownsWord (t : String) (s e : ℚ) (w : ChunkWindow) (l : List Word) :
    (l.filter (ownsWord w)).countP (isReportOf t s e) =
      if w.ownsMidpoint (midpoint s e) then l.countP (isReportOf t s e) else 0 := by
  rw [List.countP_filter]
  have howns : ∀ x, isReportOf t s e x = true →
      ownsWord w x = w.ownsMidpoint (midpoint s e) := fun x hx => by
    obtain ⟨_, hs, he⟩ := of_decide_eq_true hx
    rw [ownsWord, hs, he]
  split_ifs with h
  · refine List.countP_congr fun x _ => ?_
    rw [Bool.and_eq_true, and_iff_left_iff_imp]
    exact fun hx => (howns x hx).trans h
  · refine List.countP_eq_zero.2 fun x _ hx => h ?_
    rw [Bool.and_eq_true] at hx
    exact (howns x hx.1).symm.trans hx.2

/-- A word that its owner reports once is kept as often as it has owners. -/
theorem countP_ownedReports {t : String} {s e : ℚ}
    {chunks : List (ChunkWindow × Value × StagedChunk)}
    (h : ∀ p ∈ chunks, p.1.ownsMidpoint (midpoint s e) = true →
      (reports p.1 p.2.1).countP (isReportOf t s e) = 1) :
    (ownedReports chunks).countP (fun q => isReportOf t s e q.2) =
      ((chunks.map Prod.fst).filter fun w => w.ownsMidpoint (midpoint s e)).length := by
  induction chunks with
  | nil => rfl
  | cons p chunks ih =>
    rw [List.forall_mem_cons] at h
    have hp : (((reports p.1 p.2.1).filter (ownsWord p.1)).map fun x => (p.1, x)).countP
        (fun q => isReportOf t s e q.2) = if p.1.ownsMidpoint (midpoint s e) then 1 else 0 := by
      rw [List.countP_map]
      refine (countP_filter_ownsWord t s e p.1 _).trans ?_
      split_ifs with howns
      · exact h.1 howns
      · rfl
    rw [ownedReports, List.flatMap_cons, List.countP_append, hp, List.map_cons, List.filter_cons]
    refine (congrArg _ (ih h.2)).trans ?_
    split_ifs <;> simp [add_comm]

end

/-! ## The arithmetic of the machine -/

section

-- From here on the times are those that the code computes.
attribute [local instance] Rounding.binary64

/-- The word from 9 to 10.5 seconds, reported by both windows around the seam at 10. -/
def reportedTwice : List (ChunkWindow × Value × StagedChunk) :=
  [(⟨0, 20, 0, 10, 0, 15, twenty_pos, first_intervals⟩, wordResult "a" 9 (21 / 2),
      ⟨some "en", [wordSegment "a" 9 10]⟩),
    (⟨1, 20, 10, 20, 5, 20, twenty_pos, second_intervals⟩, wordResult "a" 4 (11 / 2), ⟨none, []⟩)]

/-- The float after `7`, `7.000000000000001`. -/
def longOverlap : ℚ := 7 + 1 / 2 ^ 50

/-- The float `1.249999999999999`. -/
def longWordStart : ℚ := 5 / 4 - 5 / 2 ^ 52

/-- A seam at 8.25 seconds. -/
def longOverlapped : List ChunkWindow :=
  [⟨0, 30, 0, 33 / 4, 0, Binary64.nearest (33 / 4 + longOverlap), thirty_pos, by decide +kernel⟩,
    ⟨1, 30, 33 / 4, 30, Binary64.nearest (33 / 4 - longOverlap), 30, thirty_pos, by decide +kernel⟩]

end

end Subgen

import Subgen.Segmentation.Stage
import Mathlib.Tactic.NormNum

/-!
# Committing chunks

A staged chunk is committed when its window is the next one of the assembly: it
is validated once more, compared with what was committed before it, and handed to
the persistence callback together with the state that it leads to. Only the
callback has an effect; the state is advanced by the caller, if the callback
returned.

The windows of a file are planned one after another (`Planned`), each at the end
of the core before it. `seams_never_fail`: what is staged of such windows never
fails a check of the commit, at no seam, and the joined transcript goes forward.
-/

namespace Subgen

open Procedure

variable {W : Type}

/-- The persistence callback: it gets the window, its content and the state reached. -/
abbrev PersistChunk (W : Type) :=
  ChunkWindow → StagedChunk → AssemblyState → EStateM Exc W Unit

/-- `state.language or (staged.language if staged.segments else None)`. -/
def nextLanguage (state : AssemblyState) (staged : StagedChunk) : Option String :=
  match state.language with
  | some language => if language = "" then firstLanguage else some language
  | none => firstLanguage
where
  firstLanguage : Option String := if staged.segments = [] then none else staged.language

/-- The checks of `commit_chunk`, and the state that the chunk leads to. -/
def prepareCommit (state : AssemblyState) (window : ChunkWindow) (staged : StagedChunk) :
    Except Exc AssemblyState :=
  if window.mediaDuration ≠ state.mediaDuration then
    .error (.segmentationError "Chunk and assembly media durations differ")
  else if window.ordinal ≠ state.completedChunks then
    .error (.segmentationError "Chunk ordinal does not match committed progress")
  else if window.coreStart ≠ state.cursor then
    .error (.segmentationError "Chunk start does not match committed cursor")
  else do
    validateMonotonicSegments staged.segments state.mediaDuration
    if staged.segments.head?.any fun first => first.start < state.lastSegmentEnd then
      .error (.nonMonotonicResult "Segment timestamps overlap across chunks")
    else
      AssemblyState.new state.mediaDuration window.coreEnd (state.completedChunks + 1)
        (nextLanguage state staged) (state.segmentCount + staged.segments.length)
        (lastEnd state.lastSegmentEnd staged.segments)

/-- One validated chunk is persisted, and the progress advanced. -/
def commitChunk (state : AssemblyState) (window : ChunkWindow) (staged : StagedChunk)
    (persistChunk : PersistChunk W) : EStateM Exc W AssemblyState := do
  let nextState ← ofExcept (prepareCommit state window staged)
  persistChunk window staged nextState
  pure nextState

/-- Only the next window of an assembly passes the checks, and leads to its core end. -/
theorem eq_of_prepareCommit {s t : AssemblyState} {w : ChunkWindow} {c : StagedChunk}
    (h : prepareCommit s w c = .ok t) :
    w.mediaDuration = s.mediaDuration ∧ w.ordinal = s.completedChunks ∧
      w.coreStart = s.cursor ∧ t.mediaDuration = s.mediaDuration ∧ t.cursor = w.coreEnd ∧
        t.completedChunks = s.completedChunks + 1 := by
  rw [prepareCommit] at h
  split_ifs at h with h₁ h₂ h₃ hfirst
  · obtain ⟨⟨⟩, -, h⟩ := bind_eq_ok.1 h
    cases h
  · obtain ⟨⟨⟩, -, h⟩ := bind_eq_ok.1 h
    rw [AssemblyState.new] at h
    split_ifs at h
    cases h
    exact ⟨not_not.1 h₁, not_not.1 h₂, not_not.1 h₃, rfl, rfl, rfl⟩

/-- Staged content of the next window passes every check of its commit. -/
theorem prepareCommit_of_staged {s : AssemblyState} {w : ChunkWindow} {c : StagedChunk} {v : Value}
    (hm : w.mediaDuration = s.mediaDuration) (hn : w.ordinal = s.completedChunks)
    (hc : w.coreStart = s.cursor) (hv : stageChunkResult v w = .ok c) :
    ∃ t, prepareCommit s w c = .ok t := by
  obtain ⟨hmono, hin⟩ := inside_of_stageChunkResult hv
  have hvalid : validateMonotonicSegments c.segments s.mediaDuration = .ok () :=
    validateMonotonicSegments_eq_ok_iff.2
      ((hm ▸ hmono).from fun x hx => w.core_nonneg.trans (hin x (List.mem_of_mem_head? hx)).1.1)
  have hfirst : ¬ (c.segments.head?.any fun first => first.start < s.lastSegmentEnd) := by
    cases hl : c.segments.head? with
    | none => simp
    | some x =>
      have := (hin x (List.mem_of_mem_head? hl)).1.1
      simpa using s.last_le.trans (hc ▸ this)
  have hlast : 0 ≤ lastEnd s.lastSegmentEnd c.segments ∧
      lastEnd s.lastSegmentEnd c.segments ≤ w.coreEnd ∧
      (s.segmentCount + c.segments.length = 0 → lastEnd s.lastSegmentEnd c.segments = 0) := by
    rw [lastEnd]
    cases hl : c.segments.getLast? with
    | none =>
      refine ⟨s.last_nonneg, ?_, fun h => s.last_of_empty (by omega)⟩
      exact s.last_le.trans (hc ▸ w.core_lt.le)
    | some x =>
      have hx := List.mem_of_getLast? hl
      have hcx := (hin x hx).1
      refine ⟨(w.core_nonneg.trans hcx.1).trans hcx.2.1, hcx.2.2, fun h => ?_⟩
      have := List.length_pos_of_mem hx
      omega
  obtain ⟨t, ht⟩ := AssemblyState.exists_new (s.completedChunks + 1) (nextLanguage s c)
    s.duration_pos (w.core_nonneg.trans w.core_lt.le)
    (hm ▸ w.core_le_duration) hlast.1 hlast.2.1 hlast.2.2
  refine ⟨t, ?_⟩
  rw [prepareCommit, if_neg (not_not.2 hm), if_neg (not_not.2 hn), if_neg (not_not.2 hc)]
  exact bind_eq_ok.2 ⟨(), hvalid, by rw [if_neg hfirst, ht]⟩

/-- What a commit does, once its checks have passed: it calls the callback. -/
theorem commitChunk_eq {s t : AssemblyState} {w : ChunkWindow} {c : StagedChunk}
    (h : prepareCommit s w c = .ok t) (persistChunk : PersistChunk W) :
    commitChunk s w c persistChunk = (persistChunk w c t >>= fun _ => pure t) := by
  rw [commitChunk, h]
  rfl

/-! ## Windows planned one after another -/

/-- The windows planned from the cursor `c` to the end of the media, each with some
    positive working duration, and numbered from `n`. -/
def Planned [Rounding] (d v : ℚ) : ℚ → ℕ → List ChunkWindow → Prop
  | c, _, [] => c = d
  | c, n, w :: l => (∃ s, planNextWindow c d s n v = .ok (some w)) ∧ Planned d v w.coreEnd (n + 1) l

/-- The chunks committed in their order. -/
def commitAll (persistChunk : PersistChunk W) :
    AssemblyState → List (ChunkWindow × StagedChunk) → EStateM Exc W AssemblyState
  | state, [] => pure state
  | state, (window, staged) :: chunks => do
    let nextState ← commitChunk state window staged persistChunk
    commitAll persistChunk nextState chunks

/-- A planned window is the next one of an assembly that has reached its cursor. -/
theorem eq_of_planned [Rounding] {d v c s : ℚ} {n : ℕ} {w : ChunkWindow}
    (h : planNextWindow c d s n v = .ok (some w)) :
    w.mediaDuration = d ∧ w.ordinal = n ∧ w.coreStart = c := by
  obtain ⟨hextracts, hordinal, hstart, -⟩ := planNextWindow_spec h
  exact ⟨hextracts.duration_eq, hordinal, hstart⟩

/-- Planning gives no window only at the end of the media. -/
theorem eq_of_planNextWindow_none [Rounding] {c d s v : ℚ} {n : ℤ}
    (h : planNextWindow c d s n v = .ok none) : c = d := by
  obtain ⟨duration, hduration, h⟩ := bind_eq_ok.1 h
  obtain ⟨seconds, -, h⟩ := bind_eq_ok.1 h
  obtain rfl : d = duration := by
    rw [positiveNumber] at hduration
    split_ifs at hduration
    exact Except.ok.inj hduration
  by_contra hne
  rw [if_neg hne] at h
  dsimp only at h
  split_ifs at h
  obtain ⟨window, -, h⟩ := bind_eq_ok.1 h
  cases h

/-- The chunks staged of planned windows. -/
def StagedOf (d v c : ℚ) (n : ℕ) (chunks : List (ChunkWindow × StagedChunk)) : Prop :=
  Planned d v c n (chunks.map Prod.fst) ∧
    ∀ p ∈ chunks, ∃ result, stageChunkResult result p.1 = .ok p.2

/-- The next chunk passes the checks, and the rest are staged from where it leads to. -/
theorem StagedOf.step {d v c : ℚ} {n : ℕ} {p : ChunkWindow × StagedChunk}
    {chunks : List (ChunkWindow × StagedChunk)} (h : StagedOf d v c n (p :: chunks))
    {s : AssemblyState} (hd : s.mediaDuration = d) (hc : s.cursor = c)
    (hn : s.completedChunks = n) :
    ∃ t, prepareCommit s p.1 p.2 = .ok t ∧ t.mediaDuration = d ∧ t.cursor = p.1.coreEnd ∧
      t.completedChunks = n + 1 ∧ StagedOf d v p.1.coreEnd (n + 1) chunks := by
  obtain ⟨⟨⟨_, hplan⟩, hrest⟩, hstaged⟩ := h
  obtain ⟨result, hresult⟩ := hstaged p List.mem_cons_self
  obtain ⟨hwd, hwn, hwc⟩ := eq_of_planned hplan
  obtain ⟨t, ht⟩ := prepareCommit_of_staged (hwd.trans hd.symm) (hwn.trans hn.symm)
    (hwc.trans hc.symm) hresult
  obtain ⟨_, _, _, htd, htc, htn⟩ := eq_of_prepareCommit ht
  exact ⟨t, ht, htd.trans hd, htc, htn.trans (hn ▸ rfl), hrest,
    fun q hq => hstaged q (List.mem_cons_of_mem _ hq)⟩

/-- Wherever the commits in order have got to, the next one passes the checks. -/
theorem StagedOf.prepareCommit {d v c : ℚ} {n : ℕ} {before after : List (ChunkWindow × StagedChunk)}
    {p : ChunkWindow × StagedChunk} (h : StagedOf d v c n (before ++ p :: after))
    {s : AssemblyState} (hd : s.mediaDuration = d) (hc : s.cursor = c)
    (hn : s.completedChunks = n) {persistChunk : PersistChunk W} {world world' : W}
    {t : AssemblyState} (ht : commitAll persistChunk s before world = .ok t world') :
    ∃ u, Subgen.prepareCommit t p.1 p.2 = .ok u := by
  induction before generalizing s c n world with
  | nil =>
    cases ht
    obtain ⟨u, hu, -⟩ := h.step hd hc hn
    exact ⟨u, hu⟩
  | cons q before ih =>
    obtain ⟨s', hs', hd', hc', hn', hrest⟩ := h.step hd hc hn
    rw [commitAll, commitChunk_eq hs'] at ht
    cases hp : persistChunk q.1 q.2 s' world with
    | ok _ world'' =>
      have hrun : commitAll persistChunk s' before world'' = .ok t world' := by
        simpa only [bind, EStateM.bind, pure, EStateM.pure, hp] using ht
      exact ih hrest hd' hc' hn' hrun
    | error e world'' =>
      simp only [bind, EStateM.bind, hp] at ht
      cases ht

/-- The segments of the chunks, joined, go forward from the cursor. -/
theorem StagedOf.monotone {d v c : ℚ} {n : ℕ} {chunks : List (ChunkWindow × StagedChunk)}
    (h : StagedOf d v c n chunks) : MonotoneSegments d c (chunks.flatMap fun p => p.2.segments) := by
  induction chunks generalizing c n with
  | nil => trivial
  | cons p chunks ih =>
    obtain ⟨⟨⟨_, hplan⟩, hrest⟩, hstaged⟩ := h
    obtain ⟨result, hresult⟩ := hstaged p List.mem_cons_self
    obtain ⟨hwd, _, hwc⟩ := eq_of_planned hplan
    obtain ⟨hmono, hin⟩ := inside_of_stageChunkResult hresult
    have htail := ih ⟨hrest, fun q hq => hstaged q (List.mem_cons_of_mem _ hq)⟩
    rw [List.flatMap_cons, monotoneSegments_append]
    refine ⟨hwd ▸ hwc ▸ hmono, htail.of_le ?_⟩
    -- What follows starts after this core, and the segments before it end inside it.
    rw [lastEnd]
    cases hl : p.2.segments.getLast? with
    | none => exact hwc ▸ p.1.core_lt.le
    | some x => exact (hin x (List.mem_of_getLast? hl)).1.2.2

/-- Whatever the results of planned windows are, as long as they can be staged:
    everything staged lies inside the core of its window; in whatever state the commits
    in order have reached, the next one does nothing but call the persistence callback,
    so that only the callback can fail; and the segments of the whole file, joined, are
    accepted by the validator. -/
theorem seams_never_fail {d v : ℚ} (hd : 0 < d) {chunks : List (ChunkWindow × StagedChunk)}
    (hplan : Planned d v 0 0 (chunks.map Prod.fst))
    (hstaged : ∀ p ∈ chunks, ∃ result, stageChunkResult result p.1 = .ok p.2) :
    (∀ p ∈ chunks, ∀ s ∈ p.2.segments, p.1.Contains s.start s.stop ∧
      ∀ x ∈ s.wordList, p.1.Contains x.start x.stop) ∧
    (∀ before p after, chunks = before ++ p :: after →
      ∀ (W : Type) (persistChunk : PersistChunk W) (world world' : W) (state : AssemblyState),
        commitAll persistChunk (AssemblyState.start d hd) before world = .ok state world' →
        ∃ nextState, ∀ (V : Type) (persistChunk' : PersistChunk V),
          commitChunk state p.1 p.2 persistChunk' =
            (persistChunk' p.1 p.2 nextState >>= fun _ => pure nextState)) ∧
    validateMonotonicSegments (chunks.flatMap fun p => p.2.segments) d = .ok () := by
  have h : StagedOf d v 0 0 chunks := ⟨hplan, hstaged⟩
  refine ⟨fun p hp => ?_, ?_, validateMonotonicSegments_eq_ok_iff.2 h.monotone⟩
  · obtain ⟨result, hresult⟩ := hstaged p hp
    exact (inside_of_stageChunkResult hresult).2
  · -- The check of a commit depends on the state alone, which the commits before have left.
    rintro before p after rfl W persistChunk world world' state hstate
    obtain ⟨nextState, hnext⟩ := h.prepareCommit rfl rfl rfl hstate
    exact ⟨nextState, fun V persistChunk' => commitChunk_eq hnext persistChunk'⟩

/-- A result with one segment of one word, on the clock of its extraction. -/
def wordResult (text : String) (start stop : ℚ) : Value :=
  .dict [("language", .str " en "), ("segments", .list [.dict [("words", .list [.dict
    [("word", .str text), ("start", .float start), ("end", .float stop)]])]])]

/-- The segment staged of one word. -/
def wordSegment (text : String) (start stop : ℚ) : Segment :=
  ⟨⟨none, none, none, none⟩, start, stop, text, none, some [⟨text, start, stop, none, none⟩]⟩

theorem twenty_pos : (0 : ℚ) < 20 := by norm_num

theorem thirty_pos : (0 : ℚ) < 30 := by norm_num

theorem first_intervals : (0 : ℚ) ≤ 0 ∧ (0 : ℚ) ≤ 0 ∧ (0 : ℚ) < 10 ∧ (10 : ℚ) ≤ 15 ∧ (15 : ℚ) ≤ 20 := by
  norm_num

theorem second_intervals : (0 : ℚ) ≤ 5 ∧ (5 : ℚ) ≤ 10 ∧ (10 : ℚ) < 20 ∧ (20 : ℚ) ≤ 20 ∧ (20 : ℚ) ≤ 20 := by
  norm_num

/-- Two chunks of a media of 20 seconds, planned at 10 seconds with an overlap of 5. The
    word of the first straddles the seam, and is cut at it; the second starts there. -/
def straddling : List (ChunkWindow × StagedChunk) :=
  [(⟨0, 20, 0, 10, 0, 15, twenty_pos, first_intervals⟩, ⟨some "en", [wordSegment "a" 9 10]⟩),
    (⟨1, 20, 10, 20, 5, 20, twenty_pos, second_intervals⟩, ⟨some "en", [wordSegment "b" 10 12]⟩)]

theorem straddling_planned : Planned 20 5 0 0 (straddling.map Prod.fst) :=
  ⟨⟨10, by decide +kernel⟩, ⟨10, by decide +kernel⟩, rfl⟩

theorem straddling_staged : ∀ p ∈ straddling, ∃ result, stageChunkResult result p.1 = .ok p.2 := by
  simp only [straddling, List.forall_mem_cons, List.not_mem_nil, false_implies, implies_true,
    and_true]
  exact ⟨⟨wordResult "a" 9 (21 / 2), by decide +kernel⟩,
    ⟨wordResult "b" (9 / 2) 7, by decide +kernel⟩⟩

theorem seams_never_fail_straddling :
    straddling.length = 2 ∧
      validateMonotonicSegments (straddling.flatMap fun p => p.2.segments) 20 = .ok () :=
  ⟨rfl, (seams_never_fail (by norm_num) straddling_planned straddling_staged).2.2⟩

end Subgen

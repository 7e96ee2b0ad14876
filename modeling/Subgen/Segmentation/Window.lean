import Subgen.Lib.Procedure
import Subgen.Value
import Mathlib.Algebra.Order.Field.Rat
import Mathlib.Tactic.Linarith

/-!
# Chunk windows

A *window* is a piece of the source timeline that one chunk of the transcript
owns, its *core*, with the interval around it that is extracted as context for
the inference. The *assembly state* is the progress over the whole media: the
cursor up to which chunks are committed, and scalars about what was committed.

Both are validated when they are built, so that the intervals of a window are
always nested (`ChunkWindow.intervals`) and the last committed segment always
ends before the cursor (`AssemblyState.last_le`). `planNextWindow` plans the
window that starts at a cursor; `planNextWindow_spec` says which one however sums
are rounded, and `planNextWindow_eq_some_iff` when one is planned at exact times.
-/

namespace Subgen

open Procedure

/-- One owned source core, with the interval extracted around it. -/
@[ext] structure ChunkWindow where
  ordinal : ℕ
  mediaDuration : ℚ
  coreStart : ℚ
  coreEnd : ℚ
  extractStart : ℚ
  extractEnd : ℚ
  duration_pos : 0 < mediaDuration
  intervals : 0 ≤ extractStart ∧ extractStart ≤ coreStart ∧ coreStart < coreEnd ∧
    coreEnd ≤ extractEnd ∧ extractEnd ≤ mediaDuration
  deriving DecidableEq

namespace ChunkWindow

/-- The validation of a new window, `__post_init__`. -/
def new (ordinal : ℤ) (mediaDuration coreStart coreEnd extractStart extractEnd : ℚ) :
    Except Exc ChunkWindow :=
  if ordinal < 0 then
    .error (.segmentationError "Chunk ordinal must be a non-negative integer")
  else if hd : mediaDuration ≤ 0 then
    .error (.segmentationError "Media duration must be positive")
  else if hi : 0 ≤ extractStart ∧ extractStart ≤ coreStart ∧ coreStart < coreEnd ∧
      coreEnd ≤ extractEnd ∧ extractEnd ≤ mediaDuration then
    .ok ⟨ordinal.toNat, mediaDuration, coreStart, coreEnd, extractStart, extractEnd,
      not_le.1 hd, hi⟩
  else
    .error (.segmentationError "Chunk window intervals are inconsistent")

variable (w : ChunkWindow)

/-- The two ends of the core. -/
def core : ℚ × ℚ := (w.coreStart, w.coreEnd)

/-- `replace(window, ordinal=...)`. -/
def withOrdinal (n : ℕ) : ChunkWindow := { w with ordinal := n }

/-- `is_final`. -/
def isFinal : Bool := w.coreEnd = w.mediaDuration

/-- Half-open core ownership, with only the final endpoint included. -/
def ownsMidpoint (midpoint : ℚ) : Bool :=
  if w.isFinal then w.coreStart ≤ midpoint ∧ midpoint ≤ w.coreEnd
  else w.coreStart ≤ midpoint ∧ midpoint < w.coreEnd

theorem core_lt : w.coreStart < w.coreEnd := w.intervals.2.2.1

theorem core_nonneg : 0 ≤ w.coreStart := w.intervals.1.trans w.intervals.2.1

theorem core_le_duration : w.coreEnd ≤ w.mediaDuration :=
  w.intervals.2.2.2.1.trans w.intervals.2.2.2.2

/-- An owned midpoint is in the closed core. -/
theorem le_of_ownsMidpoint {w : ChunkWindow} {m : ℚ} (h : w.ownsMidpoint m = true) :
    w.coreStart ≤ m ∧ m ≤ w.coreEnd := by
  unfold ownsMidpoint at h
  split_ifs at h with hf
  · exact of_decide_eq_true h
  · exact ⟨(of_decide_eq_true h).1, (of_decide_eq_true h).2.le⟩

end ChunkWindow

/-- Scalar progress over a media whose transcript is persisted elsewhere. -/
@[ext] structure AssemblyState where
  mediaDuration : ℚ
  cursor : ℚ
  completedChunks : ℕ
  language : Option String
  segmentCount : ℕ
  lastSegmentEnd : ℚ
  duration_pos : 0 < mediaDuration
  cursor_nonneg : 0 ≤ cursor
  cursor_le : cursor ≤ mediaDuration
  last_nonneg : 0 ≤ lastSegmentEnd
  last_le : lastSegmentEnd ≤ cursor
  last_of_empty : segmentCount = 0 → lastSegmentEnd = 0
  deriving DecidableEq

namespace AssemblyState

/-- The validation of a new state, `__post_init__`; the counts are non-negative
    by their type. -/
def new (mediaDuration cursor : ℚ) (completedChunks : ℕ) (language : Option String)
    (segmentCount : ℕ) (lastSegmentEnd : ℚ) : Except Exc AssemblyState :=
  if hd : mediaDuration ≤ 0 then
    .error (.segmentationError "Media duration must be positive")
  else if hc : 0 ≤ cursor ∧ cursor ≤ mediaDuration then
    if hl : 0 ≤ lastSegmentEnd ∧ lastSegmentEnd ≤ cursor then
      if he : segmentCount = 0 ∧ lastSegmentEnd ≠ 0 then
        .error (.segmentationError "An empty assembly cannot have a committed segment end")
      else
        .ok ⟨mediaDuration, cursor, completedChunks, language, segmentCount, lastSegmentEnd,
          not_le.1 hd, hc.1, hc.2, hl.1, hl.2, fun h => not_not.1 fun h' => he ⟨h, h'⟩⟩
    else
      .error (.segmentationError "Last committed segment end is outside committed progress")
  else
    .error (.segmentationError "Assembly cursor is outside the media")

/-- `AssemblyState(media_duration=...)`: nothing committed yet. -/
def empty (mediaDuration : ℚ) : Except Exc AssemblyState := new mediaDuration 0 0 none 0 0

/-- `complete`. -/
def complete (s : AssemblyState) : Bool := s.cursor = s.mediaDuration

/-- The empty assembly of a media of positive duration. -/
def start (mediaDuration : ℚ) (h : 0 < mediaDuration) : AssemblyState :=
  ⟨mediaDuration, 0, 0, none, 0, 0, h, le_rfl, h.le, le_rfl, le_rfl, fun _ => rfl⟩

/-- The validation accepts what satisfies it. -/
theorem exists_new {d c e : ℚ} {k : ℕ} (n : ℕ) (language : Option String) (hd : 0 < d)
    (hc : 0 ≤ c) (hcd : c ≤ d) (he : 0 ≤ e) (hec : e ≤ c) (hk : k = 0 → e = 0) :
    ∃ s, new d c n language k e = .ok s := by
  refine ⟨⟨d, c, n, language, k, e, hd, hc, hcd, he, hec, hk⟩, ?_⟩
  rw [new, dif_neg (not_le.2 hd), dif_pos ⟨hc, hcd⟩, dif_pos ⟨he, hec⟩,
    dif_neg fun h => h.2 (hk h.1)]

theorem empty_eq {d : ℚ} (h : 0 < d) : empty d = .ok (start d h) := by
  simp [empty, new, start, h.le, not_le.2 h]

/-- An empty assembly is built only of a media of positive duration. -/
theorem eq_start_of_empty {d : ℚ} {s : AssemblyState} (h : empty d = .ok s) :
    ∃ hd : 0 < d, s = start d hd := by
  by_cases hd : 0 < d
  · exact ⟨hd, Except.ok.inj (h.symm.trans (empty_eq hd))⟩
  · simp [empty, new, not_lt.1 hd] at h

theorem cursor_lt {s : AssemblyState} (h : s.complete = false) : s.cursor < s.mediaDuration :=
  lt_of_le_of_ne s.cursor_le fun e => by simp [complete, e] at h

end AssemblyState

/-- `_positive_number`. -/
def positiveNumber (value : ℚ) (label : String) : Except Exc ℚ :=
  if value ≤ 0 then .error (.segmentationError s!"{label} must be positive") else .ok value

theorem eq_of_positiveNumber {q r : ℚ} {label : String} (h : positiveNumber q label = .ok r) :
    r = q := by
  rw [positiveNumber] at h
  split_ifs at h
  exact (Except.ok.inj h).symm

/-- `DEFAULT_OVERLAP_SECONDS`. -/
def defaultOverlapSeconds : ℚ := 5

/-- One window from the committed cursor and the working duration; none at the end. What
    it gets are floats already, and each of the three sums is rounded. -/
def planNextWindow [Rounding] (cursor mediaDuration coreSeconds : ℚ) (ordinal : ℤ) (overlapSeconds : ℚ) :
    Except Exc (Option ChunkWindow) := do
  let duration ← positiveNumber mediaDuration "media_duration"
  let workingSeconds ← positiveNumber coreSeconds "core_seconds"
  if overlapSeconds < 0 then
    .error (.segmentationError "overlap_seconds must not be negative")
  else if cursor < 0 ∨ cursor > duration then
    .error (.segmentationError "cursor is outside the media")
  else if cursor = duration then
    .ok none
  else
    let coreEnd := min duration (rounded (cursor + workingSeconds))
    if coreEnd ≤ cursor then
      .error (.segmentationError "Chunk planning could not advance the cursor")
    else do
      let window ← ChunkWindow.new ordinal duration cursor coreEnd
        (max 0 (rounded (cursor - overlapSeconds)))
        (min duration (rounded (coreEnd + overlapSeconds)))
      .ok (some window)

/-- The extraction of a window is as wide as the overlap says, and inside the media. -/
structure ChunkWindow.Extracts [Rounding] (w : ChunkWindow) (d v : ℚ) : Prop where
  duration_eq : w.mediaDuration = d
  extractStart_eq : w.extractStart = max 0 (rounded (w.coreStart - v))
  extractEnd_eq : w.extractEnd = min d (rounded (w.coreEnd + v))

/-- The validation of a new window keeps its fields. -/
theorem ChunkWindow.eq_of_new {n : ℤ} {d a b x y : ℚ} {w : ChunkWindow}
    (h : ChunkWindow.new n d a b x y = .ok w) :
    w.ordinal = n.toNat ∧ w.mediaDuration = d ∧ w.coreStart = a ∧ w.coreEnd = b ∧
      w.extractStart = x ∧ w.extractEnd = y := by
  rw [ChunkWindow.new] at h
  split_ifs at h
  cases h
  exact ⟨rfl, rfl, rfl, rfl, rfl, rfl⟩

/-- What a planned window is, however the sums are rounded: the code has checked the rest
    when it built the window. -/
theorem planNextWindow_spec [Rounding] {c d s v : ℚ} {n : ℤ} {w : ChunkWindow}
    (h : planNextWindow c d s n v = .ok (some w)) :
    w.Extracts d v ∧ w.ordinal = n.toNat ∧ w.coreStart = c ∧
      w.coreEnd = min d (rounded (c + s)) := by
  obtain ⟨duration, hduration, h⟩ := bind_eq_ok.1 h
  obtain ⟨seconds, hseconds, h⟩ := bind_eq_ok.1 h
  rw [eq_of_positiveNumber hduration, eq_of_positiveNumber hseconds] at h
  split_ifs at h
  · cases h
  · dsimp only at h
    split_ifs at h
    obtain ⟨window, hwindow, h⟩ := bind_eq_ok.1 h
    cases h
    obtain ⟨hn, hd, hstart, hend, hextract, hextract'⟩ := ChunkWindow.eq_of_new hwindow
    exact ⟨⟨hd, hstart ▸ hextract, hend ▸ hextract'⟩, hn, hstart, hend⟩

/-! ## Exact times -/

/-- The window planned from a cursor inside the media. -/
def plannedWindow (cursor mediaDuration coreSeconds : ℚ) (ordinal : ℕ) (overlapSeconds : ℚ)
    (hc : 0 ≤ cursor) (hd : cursor < mediaDuration) (hs : 0 < coreSeconds)
    (ho : 0 ≤ overlapSeconds) : ChunkWindow where
  ordinal := ordinal
  mediaDuration := mediaDuration
  coreStart := cursor
  coreEnd := min mediaDuration (cursor + coreSeconds)
  extractStart := max 0 (cursor - overlapSeconds)
  extractEnd := min mediaDuration (min mediaDuration (cursor + coreSeconds) + overlapSeconds)
  duration_pos := hc.trans_lt hd
  intervals := by
    refine ⟨le_max_left _ _, max_le hc (by linarith), lt_min hd (by linarith), ?_, min_le_left _ _⟩
    exact le_min (min_le_left _ _) (le_add_of_nonneg_right ho)

theorem planNextWindow_eq {c d s v : ℚ} (n : ℕ) (hc : 0 ≤ c) (hd : c < d) (hs : 0 < s)
    (hv : 0 ≤ v) : planNextWindow c d s n v = .ok (some (plannedWindow c d s n v hc hd hs hv)) := by
  have hpos : ¬ d ≤ 0 := not_le.2 (hc.trans_lt hd)
  have hend : ¬ min d (c + s) ≤ c := not_le.2 (lt_min hd (by linarith))
  have hn : ¬ (n : ℤ) < 0 := by omega
  have hi := (plannedWindow c d s n v hc hd hs hv).intervals
  simp only [plannedWindow] at hi
  simp only [planNextWindow, positiveNumber, hpos, not_le.2 hs, if_false, bind, Except.bind,
    not_lt.2 hv, not_lt.2 hc, not_lt.2 hd.le, or_self, hd.ne, hend, ChunkWindow.new,
    hn, dif_neg, not_false_eq_true, dif_pos hi, Int.toNat_natCast, plannedWindow,
    Rounding.rounded_exact]

/-- Planning gives a window exactly from a cursor inside the media, with a positive
    working duration and a non-negative overlap; and it gives `plannedWindow`. -/
theorem planNextWindow_eq_some_iff {c d s v : ℚ} {n : ℕ} {w : ChunkWindow} :
    planNextWindow c d s n v = .ok (some w) ↔
      ∃ (hc : 0 ≤ c) (hd : c < d) (hs : 0 < s) (hv : 0 ≤ v),
        w = plannedWindow c d s n v hc hd hs hv := by
  constructor
  · intro h
    have hd : 0 < d := by
      by_contra hd
      simp [planNextWindow, positiveNumber, not_lt.1 hd, bind, Except.bind] at h
    have hs : 0 < s := by
      by_contra hs
      simp [planNextWindow, positiveNumber, not_le.2 hd, not_lt.1 hs, bind, Except.bind] at h
    have hv : 0 ≤ v := by
      by_contra hv
      simp [planNextWindow, positiveNumber, not_le.2 hd, not_le.2 hs, not_le.1 hv, bind,
        Except.bind] at h
    have hc : ¬ (c < 0 ∨ c > d) := by
      intro hc
      simp [planNextWindow, positiveNumber, not_le.2 hd, not_le.2 hs, not_lt.2 hv, hc, bind,
        Except.bind] at h
    have hne : c ≠ d := by
      intro hne
      simp [planNextWindow, positiveNumber, not_le.2 hd, not_le.2 hs, not_lt.2 hv, hne, bind,
        Except.bind, not_lt.2 hd.le] at h
    push Not at hc
    refine ⟨hc.1, lt_of_le_of_ne hc.2 hne, hs, hv, ?_⟩
    rw [planNextWindow_eq n hc.1 (lt_of_le_of_ne hc.2 hne) hs hv] at h
    exact (Option.some.inj (Except.ok.inj h)).symm
  · rintro ⟨hc, hd, hs, hv, rfl⟩
    exact planNextWindow_eq n hc hd hs hv

end Subgen

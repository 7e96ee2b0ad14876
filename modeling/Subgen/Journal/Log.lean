import Subgen.Journal.MinDuration

/-!
# The journal as a log

What a journal is for is a log of records: a commit adds its record at the end, or the
log stays as it is. `Represents codec log j` says that the journal `j` holds `log`: its
committed bytes are those of the records, one line each, and its counters are what the
log says they are. Only in a poisoned journal there may be anything behind these bytes.

The operations of the file may fail, each at the point where the storage says so. A commit writes
the line in pieces and syncs it; if one of these fails it tries to cut the file back, and if that
fails too the journal is poisoned. Whichever it is, the bytes of the records before are there.

* `writeRecord_spec`, `rollback_spec`: what the file holds behind a write, and behind one that was
  taken back;
* `commitRecord_spec`: what a commit does to the file and to the counters, whichever
  operations of the file fail;
* `Reads`: the procedures that leave the content and the counters as they are, which the readers of
  the journal are (`reads_advanceForward`, `reads_advanceReverse`, `reads_iterMinDuration`).
-/

namespace Subgen

open Procedure Storage Lines

namespace Record

def ordinal? : Record → Option ℕ
  | chunk ordinal _ _ _ _ => some ordinal
  | append _ => none

/-- The record may be added to a log with `n` chunks. -/
def Follows (n : ℕ) (r : Record) : Prop := ∀ k ∈ r.ordinal?, k = n

end Record

namespace SegmentJournal

variable {codec : Codec} {log : List Record} {j j' : SegmentJournal}

/-- The journal holds the log. In a poisoned one there may be anything behind it. -/
structure Represents (codec : Codec) (log : List Record) (j : SegmentJournal) : Prop where
  bytes : codec.log log <+: j.file.content
  whole : j.poisoned = false → j.file.content = codec.log log
  offset : j.committedOffset = (codec.log log).length
  ordinals : log.filterMap Record.ordinal? = List.range j.chunkCount
  segmentCount : j.segmentCount = (log.flatMap Record.segments).length
  lastSegment : j.lastSegment = (log.flatMap Record.segments).getLast?
  lastSegmentEnd : j.lastSegmentEnd = (j.lastSegment.map (Dict.float · "end")).getD 0
  allSegmentsHaveWords :
    j.allSegmentsHaveWords = (log.flatMap Record.segments).all segmentHasWords

/-- A new journal represents the empty log. -/
theorem represents_new (codec : Codec) (faults : List (Option (Fault Exc))) (hasFactories : Bool) :
    Represents codec [] (new faults hasFactories) :=
  ⟨List.prefix_rfl, fun _ => rfl, rfl, rfl, rfl, rfl, rfl, rfl⟩

/-- The committed length counts the bytes of the log. -/
theorem Represents.committedBytes (h : Represents codec log j) :
    j.committedBytes = codec.log log := by
  rw [SegmentJournal.committedBytes, h.offset]
  exact (List.prefix_iff_eq_take.1 h.bytes).symm

/-- Closing the journal, and what happens to its file behind the log, changes nothing. -/
theorem Represents.congr (h : Represents codec log j) {file : Storage Exc} (closed : Bool)
    (hfile : file.content = j.file.content) :
    Represents codec log { j with file := file, closed := closed } where
  bytes := hfile ▸ h.bytes
  whole := hfile ▸ h.whole
  offset := h.offset
  ordinals := h.ordinals
  segmentCount := h.segmentCount
  lastSegment := h.lastSegment
  lastSegmentEnd := h.lastSegmentEnd
  allSegmentsHaveWords := h.allSegmentsHaveWords

/-- A journal poisoned over a file that still begins with the log represents it. -/
theorem Represents.poisoned (h : Represents codec log j) {file : Storage Exc}
    (hfile : codec.log log <+: file.content) :
    Represents codec log { j with file := file, poisoned := true } where
  bytes := hfile
  whole := nofun
  offset := h.offset
  ordinals := h.ordinals
  segmentCount := h.segmentCount
  lastSegment := h.lastSegment
  lastSegmentEnd := h.lastSegmentEnd
  allSegmentsHaveWords := h.allSegmentsHaveWords

/-- The counters move with the log. -/
theorem Represents.counted (h : Represents codec log j) {record : Record}
    (hrecord : record.Follows j.chunkCount) {file : Storage Exc}
    (hfile : file.content = codec.log (log ++ [record])) :
    Represents codec (log ++ [record])
      (counted (codec.log (log ++ [record])).length record { j with file := file }) where
  bytes := hfile ▸ List.prefix_rfl
  whole := fun _ => hfile
  offset := rfl
  ordinals := by
    rw [List.filterMap_append, h.ordinals]
    cases record with
    | chunk n a b language segments =>
      obtain rfl : n = j.chunkCount := hrecord n rfl
      exact List.range_succ.symm
    | append segments => exact List.append_nil _
  segmentCount := by
    rw [List.flatMap_append, List.length_append, List.flatMap_singleton, ← h.segmentCount]
    rfl
  lastSegment := by
    rw [List.flatMap_append, List.getLast?_append, List.flatMap_singleton, ← h.lastSegment]
    rfl
  lastSegmentEnd := by
    change (record.segments.getLast?.map (Dict.float · "end")).getD j.lastSegmentEnd =
      ((record.segments.getLast?.or j.lastSegment).map (Dict.float · "end")).getD 0
    cases record.segments.getLast? with
    | none => exact h.lastSegmentEnd
    | some segment => rfl
  allSegmentsHaveWords := by
    rw [List.flatMap_append, List.all_append, List.flatMap_singleton, ← h.allSegmentsHaveWords]
    rfl

/-! ## Commits -/

/-- A flush and an `fsync` leave the content alone, whether they succeed or not. -/
theorem sync_spec {s : Storage Exc} : Ensures sync s
    (fun _ s' => s'.content = s.content ∧ s'.position = s.position)
    (fun _ s' => s'.content = s.content) := by
  rw [sync, ensures_bind]
  refine settle_spec.mono ?_ fun _ _ h => h
  rintro _ s₁ ⟨hcontent, hposition⟩
  rw [← hcontent, ← hposition]
  exact settle_spec

/-- A rollback that succeeds cuts the file back to the base, and one that fails keeps the base in front. -/
theorem rollback_spec {s : Storage Exc} {base : List UInt8} (h : base <+: s.content) :
    Ensures (rollback base.length) s (fun _ s' => s'.content = base)
      (fun _ s' => base <+: s'.content) := by
  rw [rollback, ensures_bind]
  refine (seek_spec h).mono ?_ fun _ _ h => h
  rintro _ s₁ ⟨h₁, hp₁⟩
  rw [ensures_bind]
  refine (truncate_spec h₁ hp₁).mono ?_ fun _ _ h => h
  rintro _ s₂ ⟨h₂, _⟩
  exact sync_spec.mono (fun _ _ h => h.1.trans h₂) fun _ _ h => (h.trans h₂) ▸ List.prefix_rfl

/-- The pieces are appended to the file; whatever fails, nothing before them is touched. -/
theorem writePieces_spec {s : Storage Exc} {base : List UInt8} (h : base <+: s.content)
    (hp : s.position = s.content.length) (pieces : List (List UInt8)) (error : Option Exc) :
    Ensures (writePieces pieces error) s
      (fun _ s' => s'.content = s.content ++ pieces.flatten ∧ s'.position = s'.content.length)
      (fun _ s' => base <+: s'.content) := by
  have hforM : Ensures (forM pieces write) s
      (fun _ s' => s'.content = s.content ++ pieces.flatten ∧ s'.position = s'.content.length)
      (fun _ s' => base <+: s'.content) := by
    induction pieces generalizing s with
    | nil => exact ⟨(List.append_nil _).symm, hp⟩
    | cons piece pieces ih =>
      rw [List.forM_cons, ensures_bind]
      refine (write_spec h hp).mono ?_ fun _ _ h => h
      rintro _ s₁ ⟨h₁, hp₁⟩
      have hbase : base <+: s₁.content := h.trans ⟨_, h₁.symm⟩
      refine (ih hbase hp₁).mono (fun _ _ h => ?_) fun _ _ h => h
      rw [h₁, List.append_assoc] at h
      exact h
  refine ensures_bind.2 (hforM.mono (fun _ s₁ h₁ => ?_) fun _ _ h => h)
  cases error with
  | none => exact h₁
  | some e => exact h.trans ⟨_, h₁.1.symm⟩

/-- A write that succeeds appends the record's line, and one that fails leaves the log in front. -/
theorem writeRecord_spec {s : Storage Exc} (h : codec.log log <+: s.content) (record : Record) :
    Ensures (writeRecord codec (codec.log log).length record) s
      (fun n s' => s'.content = codec.log (log ++ [record]) ∧ n = s'.content.length)
      (fun _ s' => codec.log log <+: s'.content) := by
  rw [writeRecord, ensures_bind]
  refine (seek_spec h).mono ?_ fun _ _ h => h
  rintro _ s₁ ⟨h₁, hp₁⟩
  rw [ensures_bind]
  refine (truncate_spec h₁ hp₁).mono ?_ fun _ _ h => h
  rintro _ s₂ ⟨h₂, hp₂⟩
  rw [ensures_bind]
  refine (writePieces_spec (h₂ ▸ List.prefix_rfl) (hp₂.trans (by rw [h₂])) _ _).mono ?_
    fun _ _ h => h
  rintro _ s₃ ⟨h₃, hp₃⟩
  rw [h₂] at h₃
  have hbase : codec.log log <+: s₃.content := h₃ ▸ List.prefix_append _ _
  rw [ensures_bind]
  refine (write_spec hbase hp₃).mono ?_ fun _ _ h => h
  rintro _ s₄ ⟨h₄, hp₄⟩
  -- From here on the record is in the file; only its length is still to be told.
  have hfull : s₄.content = codec.log (log ++ [record]) := by
    rw [h₄, h₃, codec.log_append, List.append_assoc, codec.log_cons, codec.log_nil,
      List.append_nil]
    rfl
  have hrecord : codec.log log <+: s₄.content :=
    h₄ ▸ hbase.trans (List.prefix_append _ _)
  rw [ensures_bind]
  refine sync_spec.mono ?_ fun _ _ h => h ▸ hrecord
  rintro _ s₅ ⟨h₅, hp₅⟩
  refine tell_spec.mono ?_ fun _ _ h => (h.trans h₅) ▸ hrecord
  rintro n s₆ ⟨h₆, hn⟩
  refine ⟨(h₆.trans h₅).trans hfull, ?_⟩
  rw [hn, hp₅, hp₄, h₆, h₅]

/-- An open and unpoisoned journal passes its own check. -/
theorem requireUsable_eq (hclosed : j.closed = false) (hpoisoned : j.poisoned = false) :
    requireUsable j = .ok () j := by
  change (if j.closed then _ else _ : EStateM Exc SegmentJournal Unit) j = _
  rw [hclosed, hpoisoned]
  rfl

/-- A journal that is closed or poisoned refuses. -/
theorem exists_requireUsable_eq (h : ¬ (j.closed = false ∧ j.poisoned = false)) :
    ∃ e, requireUsable j = .error e j := by
  change ∃ e, (if j.closed then _ else _ : EStateM Exc SegmentJournal Unit) j = _
  rcases hclosed : j.closed with _ | _
  · have hpoisoned : j.poisoned = true := by simpa [hclosed] using h
    rw [hpoisoned]
    exact ⟨_, rfl⟩
  · exact ⟨_, rfl⟩

/-- A commit: the record is written and counted, or the file is cut back, or the journal is
    poisoned. -/
theorem commitRecord_spec (h : Represents codec log j) (hclosed : j.closed = false)
    (hpoisoned : j.poisoned = false) (record : Record) :
    Ensures (commitRecord codec record) j
      (fun _ j' => ∃ file : Storage Exc, file.content = codec.log (log ++ [record]) ∧
        j' = counted (codec.log (log ++ [record])).length record { j with file := file })
      (fun e j' =>
        (e = .segmentJournalCommitError "Segment journal commit failed and was rolled back" ∧
          ∃ file : Storage Exc, file.content = j.file.content ∧ j' = { j with file := file }) ∨
        ∃ file : Storage Exc, codec.log log <+: file.content ∧
          j' = { j with file := file, poisoned := true }) := by
  rw [commitRecord, ensures_bind, ensures_of_ok (requireUsable_eq hclosed hpoisoned), ensures_bind, ensures_get, ensures_bind,
    ensures_tryCatch, onFile, ensures_zoom, h.offset]
  refine (writeRecord_spec h.bytes record).mono ?_ ?_
  · rintro n file ⟨hfile, hn⟩
    exact ⟨file, hfile, by rw [hn, hfile]⟩
  · intro _ file hfile
    rw [undo, ensures_bind, ensures_tryCatch, onFile, ensures_zoom]
    refine (rollback_spec hfile).mono ?_ ?_
    · intro _ file' hfile'
      exact .inl ⟨rfl, file', hfile'.trans (h.whole hpoisoned).symm, rfl⟩
    · intro _ file' hfile'
      exact .inr ⟨file', hfile', rfl⟩

/-! ## Reading -/

/-- The journal is `j₀`, but for the handle of its file. -/
def SameLog (j₀ j : SegmentJournal) : Prop :=
  ∃ file : Storage Exc, file.content = j₀.file.content ∧ j = { j₀ with file := file }

/-- A journal keeps its own log. -/
theorem SameLog.refl (j : SegmentJournal) : SameLog j j := ⟨j.file, rfl, rfl⟩

/-- A procedure that leaves the content and the counters as they are. -/
def Reads {α : Type} (m : EStateM Exc SegmentJournal α) : Prop :=
  ∀ j₀, Preserves (SameLog j₀) m

section Reads

variable {α β : Type}

/-- Returning a value reads. -/
theorem reads_pure (a : α) : Reads (pure a) := fun _ => preserves_pure a

/-- Raising reads. -/
theorem reads_throw (e : Exc) : Reads (throw e : EStateM Exc SegmentJournal α) :=
  fun _ => preserves_throw e

/-- A pure computation that may fail reads. -/
theorem reads_ofExcept (x : Except Exc α) : Reads (ofExcept x) :=
  fun _ _ hj => ensures_ofExcept.2 ⟨fun _ _ => hj, fun _ _ => hj⟩

/-- Reads follow one another. -/
theorem reads_bind {m : EStateM Exc SegmentJournal α} {f : α → EStateM Exc SegmentJournal β}
    (hm : Reads m) (hf : ∀ a, Reads (f a)) : Reads (m >>= f) :=
  fun j₀ => preserves_bind (hm j₀) fun a => hf a j₀

/-- Looking at the journal first is no write. -/
theorem reads_get_bind {f : SegmentJournal → EStateM Exc SegmentJournal β} (hf : ∀ j, Reads (f j)) :
    Reads (get >>= f) := fun j₀ => preserves_get_bind fun j => hf j j₀

/-- Either branch of a test may be taken. -/
theorem reads_ite {p : Prop} [Decidable p] {m n : EStateM Exc SegmentJournal α} (hm : Reads m)
    (hn : Reads n) : Reads (if p then m else n) :=
  fun j₀ => preserves_ite (fun _ => hm j₀) fun _ => hn j₀

/-- A read of the backing file is a read of the journal. -/
theorem reads_onFile {m : EStateM Exc (Storage Exc) α} (hm : ReadOnly m) : Reads (onFile m) := by
  rintro j₀ j ⟨file, hfile, rfl⟩
  rw [onFile, ensures_zoom]
  exact (hm _ file hfile).mono (fun _ file' h => ⟨file', h, rfl⟩) fun _ file' h => ⟨file', h, rfl⟩

/-- The check for a usable journal reads. -/
theorem reads_requireUsable : Reads requireUsable :=
  reads_get_bind fun _ => reads_ite (reads_throw _) (reads_ite (reads_throw _) (reads_pure _))

/-- Seeking to the committed end reads. -/
theorem reads_seekCommitted : Reads seekCommitted :=
  reads_get_bind fun _ => reads_onFile (readOnly_seek _)

/-- A read that seeks back to the committed end reads. -/
theorem reads_restoring {m : EStateM Exc (Storage Exc) α} (hm : ReadOnly m) :
    Reads (restoring m) := by
  refine reads_bind (fun j₀ => preserves_tryCatch (reads_onFile hm j₀) fun e => ?_) fun a =>
    reads_bind reads_seekCommitted fun _ => reads_pure a
  exact reads_bind reads_seekCommitted (fun _ => reads_throw e) j₀

/-- The forward reader leaves the content of the file alone. -/
theorem readOnly_readForward (codec : Codec) (it : ForwardIterator) :
    ReadOnly (readForward codec it) := by
  refine readOnly_bind (readOnly_seek _) fun _ => readOnly_bind (readOnly_readUpTo _ _) fun _ =>
    readOnly_bind readOnly_tell fun _ content => preserves_ite (fun _ => ?_) fun _ =>
      preserves_throw _
  exact readOnly_bind (readOnly_ofExcept _) (fun _ => readOnly_ofExcept _) content

/-- One step of the forward generator reads. -/
theorem reads_advanceForward (codec : Codec) (it : ForwardIterator) :
    Reads (advanceForward codec it) := by
  rw [advanceForward]
  split
  · exact reads_pure _
  · refine reads_ite ?_ (reads_ite (reads_throw _) (reads_pure _))
    exact reads_bind reads_requireUsable fun _ =>
      reads_bind (reads_restoring (readOnly_readForward codec it)) fun _ => reads_pure _

/-- The backwards scan for a line break leaves the content alone. -/
theorem readOnly_scanBlocks (size fuel scanPosition : ℕ) :
    ReadOnly (scanBlocks size fuel scanPosition) := by
  induction fuel generalizing scanPosition with
  | zero => exact fun _ => preserves_pure _
  | succ fuel ih =>
    intro content
    refine preserves_ite (fun _ => preserves_pure _) fun _ => ?_
    refine readOnly_bind (readOnly_seek _) (fun _ => readOnly_bind (readOnly_read _) fun block => ?_)
      content
    cases rfind Codec.newline block with
    | none => exact ih _
    | some separator => exact fun _ => preserves_pure _

/-- The reverse reader leaves the content alone. -/
theorem readOnly_readReverse (codec : Codec) (it : ReverseIterator) :
    ReadOnly (readReverse codec it) := by
  refine readOnly_bind (readOnly_seek _) fun _ => readOnly_bind (readOnly_read _) fun _ content =>
    preserves_ite (fun _ => ?_) fun _ => preserves_throw _
  exact readOnly_bind (readOnly_scanBlocks _ _ _) (fun _ => readOnly_bind (readOnly_seek _) fun _ =>
    readOnly_bind (readOnly_read _) fun _ => readOnly_bind (readOnly_ofExcept _) fun _ =>
      readOnly_ofExcept _) content

/-- One step of the reverse generator reads. -/
theorem reads_advanceReverse (codec : Codec) (it : ReverseIterator) :
    Reads (advanceReverse codec it) := by
  rw [advanceReverse]
  split
  · exact reads_pure _
  · refine reads_ite ?_ (reads_ite (reads_throw _) (reads_pure _))
    exact reads_bind reads_requireUsable fun _ =>
      reads_bind (reads_restoring (readOnly_readReverse codec it)) fun _ => reads_pure _

/-- Fetching the next payload of the merging pass reads. -/
theorem reads_nextSource (codec : Codec) (it : ReverseIterator) : Reads (nextSource codec it) := by
  have hnext : ∀ fuel it, Reads (nextReverse codec fuel it) := by
    intro fuel
    induction fuel with
    | zero => exact fun _ => reads_pure _
    | succ fuel ih =>
      intro it
      refine reads_bind (reads_advanceReverse codec it) fun step => ?_
      cases step with
      | yielded payload it => exact reads_pure _
      | advanced it => exact ih it
      | finished => exact reads_pure _
  refine reads_bind (hnext _ _) fun next => ?_
  cases next with
  | none => exact reads_throw _
  | some next => exact reads_pure _

/-- The merging pass reads, by induction on the payloads that are left. -/
theorem reads_mergeLoop (codec : Codec) (threshold : ℚ) (remaining : ℕ) (current : Dict)
    (it : ReverseIterator) (pass : MergePass) :
    Reads (mergeLoop codec threshold remaining current it pass) := by
  induction remaining generalizing current it pass with
  | zero => exact reads_ofExcept _
  | succ remaining ih =>
    exact reads_bind (reads_nextSource codec it) fun _ => reads_bind (reads_ofExcept _) fun _ =>
      ih _ _ _

/-- The generator of merged payloads reads. -/
theorem reads_iterMinDuration (codec : Codec) (minDuration : Value) :
    Reads (iterMinDurationSegmentPayloads codec minDuration) := by
  refine reads_bind (reads_ofExcept _) fun threshold => reads_ite (reads_throw _) ?_
  refine reads_get_bind fun _ => reads_ite (reads_pure _) ?_
  refine reads_bind (reads_bind reads_requireUsable fun _ => reads_get_bind fun _ => reads_pure _)
    fun source => reads_bind (reads_nextSource codec source) fun _ => reads_get_bind fun _ => ?_
  exact reads_bind (reads_mergeLoop codec threshold _ _ _ _) fun _ =>
    reads_bind (reads_ofExcept _) fun _ => reads_ofExcept _

end Reads

end SegmentJournal

end Subgen

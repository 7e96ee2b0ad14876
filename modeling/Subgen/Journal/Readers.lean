import Subgen.Journal.Atomicity

/-!
# The readers agree with the log

On a file that works, both readers yield the payloads of the log, one in the order of
the commits and one in the reverse of it, and neither raises. What is committed while
they are under way changes nothing: the log they started with is still at the front of
the file (`Live`).

* `readForward_spec`, `readReverse_spec`: a reader at the end of one record reads the
  next one, however long it is;
* `collect`: a generator run to its end, with other calls between its steps.
-/

namespace Subgen

open Procedure Storage Lines

namespace SegmentJournal

variable {codec : Codec} {log : List Record} {j j' : SegmentJournal}

/-! ## A file that works -/

/-- The journal is usable, its file has no faults left, and it holds `log` and maybe more. -/
structure Live (codec : Codec) (log : List Record) (j : SegmentJournal) : Prop where
  represents : ∃ more, Represents codec (log ++ more) j
  closed : j.closed = false
  poisoned : j.poisoned = false
  calm : j.file.faults = []

theorem live_new (codec : Codec) (hasFactories : Bool) : Live codec [] (new [] hasFactories) :=
  ⟨⟨[], represents_new codec [] hasFactories⟩, rfl, rfl, rfl⟩

theorem Live.sameLog (h : Live codec log j) (hj : SameLog j j') (hcalm : j'.file.faults = []) :
    Live codec log j' := by
  obtain ⟨file, hfile, rfl⟩ := hj
  obtain ⟨more, hmore⟩ := h.represents
  exact ⟨⟨more, hmore.congr j.closed hfile⟩, h.closed, h.poisoned, hcalm⟩

theorem Live.requireUsable_eq (h : Live codec log j) : requireUsable j = .ok () j :=
  SegmentJournal.requireUsable_eq h.closed h.poisoned

theorem Live.bytes (h : Live codec log j) : codec.log log <+: j.file.content := by
  obtain ⟨more, hmore⟩ := h.represents
  exact (codec.log_append log more ▸ List.prefix_append _ _ :
    codec.log log <+: codec.log (log ++ more)).trans hmore.bytes

/-- A rollback on a working file returns. -/
theorem rollback_calm {s : Storage Exc} (h : s.faults = []) (n : ℕ) :
    Ensures (rollback n) s (fun _ s' => s'.faults = []) (fun _ _ => False) := by
  rw [rollback, ensures_bind]
  refine (ensures_of_calm h).2 ?_
  rw [ensures_bind]
  refine (ensures_of_calm (s := s.moved n) h).2 ?_
  rw [sync, ensures_bind]
  refine (ensures_of_calm (s := (s.moved n).cut n) h).2 ?_
  exact (ensures_of_calm (s := (s.moved n).cut n) h).2 h

theorem writeRecord_calm (n : ℕ) (record : Record) :
    Preserves (fun s : Storage Exc => s.faults = []) (writeRecord codec n record) := by
  have hpieces : ∀ pieces error,
      Preserves (fun s : Storage Exc => s.faults = []) (writePieces pieces error) := by
    intro pieces error
    refine preserves_bind (preserves_forM fun piece _ => calm_write piece) fun _ => ?_
    cases error with
    | none => exact preserves_pure _
    | some e => exact preserves_throw e
  exact preserves_bind (calm_seek n) fun _ => preserves_bind (calm_truncate n) fun _ =>
    preserves_bind (hpieces _ _) fun _ => preserves_bind (calm_write _) fun _ =>
      preserves_bind (preserves_bind calm_settle fun _ => calm_settle) fun _ => calm_tell

variable (codec) in
/-- On a working file a commit never poisons the journal. -/
theorem commitRecord_calm (hclosed : j.closed = false) (hpoisoned : j.poisoned = false)
    (hcalm : j.file.faults = []) (record : Record) :
    Ensures (commitRecord codec record) j
      (fun _ j' => j'.closed = false ∧ j'.poisoned = false ∧ j'.file.faults = [])
      (fun _ j' => j'.closed = false ∧ j'.poisoned = false ∧ j'.file.faults = []) := by
  rw [commitRecord, ensures_bind,
    ensures_of_ok (SegmentJournal.requireUsable_eq hclosed hpoisoned), ensures_bind, ensures_get,
    ensures_bind, ensures_tryCatch, onFile, ensures_zoom]
  refine (writeRecord_calm _ record _ hcalm).mono (fun _ file hfile => ⟨hclosed, hpoisoned, hfile⟩) ?_
  intro _ file hfile
  rw [undo, ensures_bind, ensures_tryCatch, onFile, ensures_zoom]
  exact (rollback_calm hfile _).mono (fun _ file' hfile' => ⟨hclosed, hpoisoned, hfile'⟩)
    fun _ _ h => h.elim

/-- Commits leave a live journal live. -/
theorem Live.run (h : Live codec log j) {calls : List Call}
    (hcalls : ∀ call ∈ calls, call.isCommit = true) : Live codec log (run codec calls j) := by
  induction calls generalizing j with
  | nil => exact h
  | cons call calls ih =>
    refine ih ?_ fun call' hcall' => hcalls call' (List.mem_cons_of_mem _ hcall')
    have hcommit := hcalls call List.mem_cons_self
    obtain ⟨more, hmore⟩ := h.represents
    refine ensures_iff_after.1 ?_
    rcases hsubmits : call.submits j with _ | record
    · obtain ⟨e, he⟩ := perform_of_refused codec hcommit hsubmits
      rw [ensures_of_error he]
      exact h
    · have hstep := perform_represents hmore call
      have hcalm := commitRecord_calm codec h.closed h.poisoned h.calm record
      rw [Ensures, ← (perform_of_submits codec hsubmits).1] at hcalm
      refine (hstep.and (hcalm : Ensures (perform codec call) j _ _)).mono ?_ ?_
      · rintro _ j' ⟨hj', hflags⟩
        rw [List.append_assoc] at hj'
        exact ⟨⟨_, hj'⟩, hflags.1, hflags.2.1, hflags.2.2⟩
      · rintro _ j' ⟨hj', hflags⟩
        exact ⟨⟨more, hj'⟩, hflags.1, hflags.2.1, hflags.2.2⟩

/-- What a reader finds in the file, it returns; the handle goes back to the end of the log. -/
theorem Live.restoring {α : Type} {m : EStateM Exc (Storage Exc) α} {P : α → Prop}
    (h : Live codec log j) (hreads : ReadOnly m)
    (hm : Ensures m j.file (fun a s' => P a ∧ s'.faults = []) (fun _ _ => False)) :
    Ensures (restoring m) j (fun a j' => P a ∧ Live codec log j') (fun _ _ => False) := by
  have hreturns : Ensures (SegmentJournal.restoring m) j
      (fun a j' => P a ∧ j'.file.faults = []) (fun _ _ => False) := by
    rw [SegmentJournal.restoring, ensures_bind, ensures_tryCatch, onFile, ensures_zoom]
    refine hm.mono ?_ fun _ _ h => h.elim
    rintro a file ⟨ha, hcalm⟩
    rw [ensures_bind, seekCommitted, ensures_bind, ensures_get, onFile, ensures_zoom]
    exact (ensures_of_calm hcalm).2 ⟨ha, hcalm⟩
  refine (hreturns.and (reads_restoring hreads j j (.refl j))).mono ?_ fun _ _ h => h.1.elim
  rintro a j' ⟨⟨ha, hcalm⟩, hsame⟩
  exact ⟨ha, h.sameLog hsame hcalm⟩

/-! ## Generators -/

/-- A generator run to its end, for at most so many steps; `others` says which calls come before
    each of them. -/
def collect {ι : Type} (codec : Codec) (advance : ι → EStateM Exc SegmentJournal (Advance ι))
    (others : ℕ → List Call) : ℕ → ι → EStateM Exc SegmentJournal (Option (List Dict))
  | 0, _ => pure none
  | fuel + 1, it => do
    modify (run codec (others fuel))
    let step ← advance it
    match step with
    | .yielded payload it => Option.map (payload :: ·) <$> collect codec advance others fuel it
    | .advanced it => collect codec advance others fuel it
    | .finished => pure (some [])

/-- What a step of a generator may do that is `n` steps from its end, with `payloads` to come. -/
def Proceeds {ι : Type} (At : List Dict → ℕ → ι → Prop) (payloads : List Dict) (n : ℕ) :
    Advance ι → Prop
  | .yielded payload it => ∃ rest m, payloads = payload :: rest ∧ n = m + 1 ∧ At rest m it
  | .advanced it => ∃ m, n = m + 1 ∧ At payloads m it
  | .finished => payloads = []

/-- A generator that proceeds in every live journal yields what is to come, whatever is
    committed between its steps. -/
theorem collect_spec {ι : Type} {advance : ι → EStateM Exc SegmentJournal (Advance ι)}
    {At : List Dict → ℕ → ι → Prop}
    (hadvance : ∀ {payloads n it j}, At payloads n it → Live codec log j →
      Ensures (advance it) j (fun step j' => Proceeds At payloads n step ∧ Live codec log j')
        (fun _ _ => False))
    {others : ℕ → List Call} (hothers : ∀ n, ∀ call ∈ others n, call.isCommit = true)
    {payloads : List Dict} {n : ℕ} {it : ι} (hit : At payloads n it) (h : Live codec log j)
    {fuel : ℕ} (hfuel : n < fuel) :
    Ensures (collect codec advance others fuel it) j (fun result _ => result = some payloads)
      (fun _ _ => False) := by
  induction fuel generalizing payloads n it j with
  | zero => exact absurd hfuel (Nat.not_lt_zero n)
  | succ fuel ih =>
    rw [collect, ensures_bind, ensures_modify, ensures_bind]
    refine (hadvance hit (h.run (hothers fuel))).mono ?_ fun _ _ h => h
    rintro (⟨payload, it'⟩ | it' | _) j' ⟨hstep, h'⟩
    · obtain ⟨rest, m, rfl, rfl, hit'⟩ := hstep
      rw [ensures_map]
      refine (ih hit' h' (Nat.lt_of_succ_lt_succ hfuel)).mono (fun result _ hresult => ?_)
        fun _ _ h => h
      rw [hresult]
      rfl
    · obtain ⟨m, rfl, hit'⟩ := hstep
      exact ih hit' h' (Nat.lt_of_succ_lt_succ hfuel)
    · obtain rfl : payloads = [] := hstep
      rfl

/-- The chunks of a log. -/
def chunks (log : List Record) : ℕ := (log.filterMap Record.ordinal?).length

theorem chunks_concat (done : List Record) (r : Record) :
    chunks (done ++ [r]) = chunks done + r.chunkDelta := by
  rw [chunks, List.filterMap_append, List.length_append]
  cases r <;> rfl

/-- The ordinals of a log count its chunks. -/
theorem follows_of_range {done rest : List Record} {r : Record} {m : ℕ}
    (h : (done ++ r :: rest).filterMap Record.ordinal? = List.range m) :
    r.Follows (chunks done) := by
  intro k hk
  rw [List.filterMap_append, List.filterMap_cons_some hk] at h
  have hlength := congrArg List.length h
  rw [List.length_append, List.length_cons, List.length_range] at hlength
  have hget := congrArg (fun l => l[chunks done]?) h
  simp only [chunks] at hget
  rw [List.getElem?_append_right le_rfl, Nat.sub_self, List.getElem?_cons_zero,
    List.getElem?_range (by omega)] at hget
  exact Option.some.inj hget

/-! ## Forward -/

theorem isChunk_toDict (r : Record) : isChunk r.toDict = r.ordinal?.isSome := by
  cases r <;> rfl

/-- The iterator behind a record. -/
def ForwardIterator.past (it : ForwardIterator) (r : Record) (position : ℕ) : ForwardIterator :=
  { it with
    expectedOrdinal := it.expectedOrdinal + r.chunkDelta
    position := position
    pending := r.segments }

theorem ForwardIterator.accept_toDict (it : ForwardIterator) {r : Record}
    (h : r.Follows it.expectedOrdinal) (position : ℕ) :
    it.accept r.toDict position = .ok (it.past r position) := by
  rw [accept, isChunk_toDict, decodedSegments_toDict, past]
  rcases r with ⟨n, a, b, language, segments⟩ | segments
  · obtain rfl : n = it.expectedOrdinal := h n rfl
    exact if_pos (decide_eq_true rfl)
  · rfl

/-- A reader at the end of `done` reads the record behind it. -/
theorem readForward_spec {s : Storage Exc} {done : List Record} {r : Record} {it : ForwardIterator}
    (hcontent : codec.log (done ++ [r]) <+: s.content) (hcalm : s.faults = [])
    (hlossless : codec.Lossless r) (hposition : it.position = (codec.log done).length)
    (hlimit : (codec.log (done ++ [r])).length ≤ it.limit) (hr : r.Follows it.expectedOrdinal) :
    Ensures (readForward codec it) s
      (fun it' s' => it' = it.past r (codec.log (done ++ [r])).length ∧ s'.faults = [])
      (fun _ _ => False) := by
  obtain ⟨tail, hcontent⟩ := hcontent
  rw [codec.log_append, codec.log_cons, codec.log_nil, List.append_nil] at hcontent hlimit ⊢
  have hlength := codec.length_line r
  rw [List.length_append] at hlimit ⊢
  -- What is ahead of the handle starts with the text of the record and its newline.
  have hahead : upTo Codec.newline ((s.moved it.position).ahead (it.limit - it.position)) =
      codec.line r := by
    rw [ahead, moved, ← hcontent, hposition, List.append_assoc, List.drop_left, List.take_append,
      List.take_of_length_le (by omega), Codec.line, List.append_assoc, List.singleton_append]
    exact upTo_append hlossless.newline_notMem _
  rw [readForward, ensures_bind]
  refine (ensures_of_calm hcalm).2 ?_
  rw [ensures_bind]
  refine (ensures_of_calm (s := s.moved it.position) hcalm).2 ?_
  rw [hahead, ensures_bind]
  refine (ensures_of_calm (by exact hcalm)).2 ?_
  rw [if_pos (by rw [Codec.line, List.getLast?_append]; rfl), Codec.line, List.dropLast_concat,
    ensures_bind, decodeRecord_toDict hlossless, ensures_ofExcept]
  refine ⟨fun record hrecord => ?_, by simp⟩
  obtain rfl := Except.ok.inj hrecord
  rw [it.accept_toDict hr, ensures_ofExcept]
  refine ⟨fun it' hit' => ?_, by simp⟩
  obtain rfl := Except.ok.inj hit'
  refine ⟨?_, hcalm⟩
  rw [← hposition]
  rfl

/-- An iterator over `log` with `payloads` to come, in `n` steps and the last one. -/
def ForwardAt (codec : Codec) (log : List Record) (payloads : List Dict) (n : ℕ)
    (it : ForwardIterator) : Prop :=
  ∃ done rest, log = done ++ rest ∧ it.limit = (codec.log log).length ∧
    it.chunkCount = chunks log ∧ it.position = (codec.log done).length ∧
    it.expectedOrdinal = chunks done ∧ payloads = it.pending ++ rest.flatMap Record.segments ∧
    n = payloads.length + rest.length

theorem advanceForward_proceeds (hlossless : ∀ r ∈ log, codec.Lossless r) {m : ℕ}
    (hordinals : log.filterMap Record.ordinal? = List.range m) {payloads : List Dict} {n : ℕ}
    {it : ForwardIterator} (hit : ForwardAt codec log payloads n it) (h : Live codec log j) :
    Ensures (advanceForward codec it) j
      (fun step j' => Proceeds (ForwardAt codec log) payloads n step ∧ Live codec log j')
      (fun _ _ => False) := by
  obtain ⟨done, rest, hlog, hlimit, hcount, hposition, hexpected, hpayloads, hn⟩ := hit
  rw [advanceForward]
  rcases hpending : it.pending with _ | ⟨payload, pending⟩
  · rw [hpending, List.nil_append] at hpayloads
    rcases rest with _ | ⟨r, rest⟩
    · -- Behind the last record: the position is the limit, and every chunk was counted.
      rw [List.append_nil] at hlog
      subst hlog
      dsimp only
      rw [if_neg (by rw [hposition, hlimit]; exact lt_irrefl _),
        if_neg (by rw [hexpected, hcount]; exact not_not.2 rfl)]
      exact ⟨hpayloads, h⟩
    · -- The next record is in the log as it was committed, and fits to the count.
      have hlogr : codec.log (done ++ [r]) <+: codec.log log := by
        refine ⟨codec.log rest, ?_⟩
        rw [← codec.log_append, hlog, List.append_assoc, List.singleton_append]
      have hless : it.position < it.limit := by
        have hle := hlogr.length_le
        rw [codec.log_append, codec.log_cons, List.length_append, List.length_append,
          codec.length_line] at hle
        omega
      dsimp only
      rw [if_pos hless, ensures_bind, ensures_of_ok h.requireUsable_eq, ensures_bind]
      refine (h.restoring (readOnly_readForward codec it) (readForward_spec
        (hlogr.trans h.bytes) h.calm (hlossless r (hlog ▸ List.mem_append_cons_self))
        hposition (hlimit ▸ hlogr.length_le)
        (hexpected ▸ follows_of_range (hlog ▸ hordinals)))).mono ?_ fun _ _ h => h
      rintro it' j' ⟨rfl, h'⟩
      rw [List.flatMap_cons] at hpayloads
      refine ⟨⟨payloads.length + rest.length, ?_, done ++ [r], rest, ?_, hlimit, hcount, rfl, ?_,
        hpayloads, rfl⟩, h'⟩
      · rw [hn, List.length_cons, Nat.add_assoc]
      · rw [hlog, List.append_assoc, List.singleton_append]
      · rw [chunks_concat, ← hexpected]
        rfl
  · -- A record that was read before still has payloads to give.
    rw [hpending, List.cons_append] at hpayloads
    refine ⟨⟨pending ++ rest.flatMap Record.segments, _, hpayloads, ?_, done, rest, hlog, hlimit,
      hcount, hposition, hexpected, rfl, rfl⟩, h⟩
    rw [hn, hpayloads, List.length_cons]
    omega

/-! ## Backwards -/

theorem ended_log (codec : Codec) (log : List Record) : Ended Codec.newline (codec.log log) := by
  rcases List.eq_nil_or_concat log with rfl | ⟨log, r, rfl⟩
  · exact .inl rfl
  · refine .inr ⟨codec.log log ++ codec.bytes (.dict r.toDict), ?_⟩
    rw [List.concat_eq_append, codec.log_append, codec.log_cons, codec.log_nil, List.append_nil,
      List.append_assoc]
    rfl

/-- The blocks before a line are read until the separator before it is found, or the file
    starts: the line starts behind that. -/
theorem scanBlocks_spec {s : Storage Exc} {text line tail : List UInt8}
    (hcontent : text ++ line ++ tail = s.content) (htext : Ended Codec.newline text)
    (hline : Codec.newline ∉ line) (hcalm : s.faults = []) {size fuel scanPosition : ℕ}
    (hsize : 0 < size) (hstart : text.length ≤ scanPosition)
    (hend : scanPosition ≤ text.length + line.length) (hfuel : scanPosition ≤ fuel) :
    Ensures (scanBlocks size fuel scanPosition) s
      (fun n s' => n = text.length ∧ s'.content = s.content ∧ s'.faults = []) (fun _ _ => False) := by
  induction fuel generalizing s scanPosition with
  | zero => exact ⟨by omega, rfl, hcalm⟩
  | succ fuel ih =>
    rw [scanBlocks, ensures_ite]
    refine ⟨fun hzero => ⟨by omega, rfl, hcalm⟩, fun hne => ?_⟩
    -- The part of the line before `scanPosition` has no separator either.
    have hpart : Codec.newline ∉ line.take (scanPosition - text.length) :=
      fun hmem => hline (List.mem_of_mem_take hmem)
    have hblock : (s.moved (scanPosition - size)).ahead
        (scanPosition - (scanPosition - size)) =
        (text ++ line.take (scanPosition - text.length)).drop (scanPosition - size) := by
      rw [ahead, moved, ← List.drop_take, ← hcontent, List.append_assoc, List.take_append,
        List.take_of_length_le hstart, List.take_append_of_le_length (by omega)]
    rw [ensures_bind]
    refine (ensures_of_calm hcalm).2 ?_
    rw [ensures_bind]
    refine (ensures_of_calm (by exact hcalm)).2 ?_
    rw [hblock]
    by_cases hinside : text.length ≤ scanPosition - size
    · rw [rfind_drop_of_le hpart hinside]
      exact ih (by exact hcontent) (by exact hcalm) hinside (by omega) (by omega)
    · rw [rfind_drop_of_lt htext hpart (not_le.1 hinside)]
      exact ⟨by omega, rfl, hcalm⟩

/-- The iterator before a record. -/
def ReverseIterator.past (it : ReverseIterator) (r : Record) (position : ℕ) : ReverseIterator :=
  ⟨position, it.expectedOrdinal - r.chunkDelta, r.segments.reverse⟩

theorem ReverseIterator.accept_toDict (it : ReverseIterator) {r : Record}
    (h : ∀ k ∈ r.ordinal?, (k : ℤ) = it.expectedOrdinal) (position : ℕ) :
    it.accept r.toDict position = .ok (it.past r position) := by
  rw [accept, isChunk_toDict, decodedSegments_toDict, past]
  rcases r with ⟨n, a, b, language, segments⟩ | segments
  · have hn : (n : ℤ) = it.expectedOrdinal := h n rfl
    rw [← hn]
    exact if_pos (decide_eq_true rfl)
  · change Except.ok _ = Except.ok _
    rw [Record.chunkDelta, Nat.cast_zero, sub_zero]

/-- A reader at the end of `r` reads it, however many blocks it takes. -/
theorem readReverse_spec {s : Storage Exc} {before : List Record} {r : Record}
    {it : ReverseIterator} (hcontent : codec.log (before ++ [r]) <+: s.content)
    (hcalm : s.faults = []) (hlossless : codec.Lossless r)
    (hposition : it.position = (codec.log (before ++ [r])).length)
    (hr : ∀ k ∈ r.ordinal?, (k : ℤ) = it.expectedOrdinal) :
    Ensures (readReverse codec it) s
      (fun it' s' => it' = it.past r (codec.log before).length ∧ s'.faults = [])
      (fun _ _ => False) := by
  obtain ⟨tail, hcontent⟩ := hcontent
  have hlength := codec.length_line r
  rw [codec.log_append, codec.log_cons, codec.log_nil, List.append_nil] at hcontent hposition
  rw [List.length_append] at hposition
  -- The text of the record lies between the records before it and its newline.
  have htext : codec.log before ++ codec.bytes (.dict r.toDict) ++ (Codec.newline :: tail) =
      s.content := by
    rw [← hcontent, Codec.line, List.append_assoc, List.append_assoc, List.append_assoc,
      List.singleton_append]
  have hend : it.position - 1 = (codec.log before ++ codec.bytes (.dict r.toDict)).length := by
    rw [List.length_append]
    omega
  have hlast : (s.moved (it.position - 1)).ahead 1 = [Codec.newline] := by
    rw [ahead, moved, ← htext, hend, List.drop_left]
    rfl
  rw [readReverse, ensures_bind]
  refine (ensures_of_calm hcalm).2 ?_
  rw [ensures_bind]
  refine (ensures_of_calm (by exact hcalm)).2 ?_
  rw [hlast, if_pos rfl, readBackwards, ensures_bind]
  rw [List.length_append] at hend
  have hsize : 0 < blockSize := by norm_num [blockSize]
  refine Ensures.mono (scanBlocks_spec (by exact htext) (ended_log codec before)
    hlossless.newline_notMem (by exact hcalm) hsize ?_ hend.le le_rfl) ?_ fun _ _ h => h
  · exact hend ▸ Nat.le_add_right _ _
  rintro _ s' ⟨rfl, hsame, hcalm'⟩
  replace hsame : s'.content = s.content := hsame
  have hahead : (s'.moved (codec.log before).length).ahead
      (it.position - 1 - (codec.log before).length) = codec.bytes (.dict r.toDict) := by
    rw [ahead, moved, hsame, ← htext, List.append_assoc, List.drop_left, hend,
      Nat.add_sub_cancel_left, List.take_left]
  rw [ensures_bind]
  refine (ensures_of_calm hcalm').2 ?_
  rw [ensures_bind]
  refine (ensures_of_calm (by exact hcalm')).2 ?_
  rw [hahead, ensures_bind, decodeRecord_toDict hlossless, ensures_ofExcept]
  refine ⟨fun record hrecord => ?_, by simp⟩
  obtain rfl := Except.ok.inj hrecord
  rw [it.accept_toDict hr, ensures_ofExcept]
  refine ⟨fun it' hit' => ?_, by simp⟩
  obtain rfl := Except.ok.inj hit'
  exact ⟨rfl, hcalm'⟩

/-- An iterator back through `log`, with `payloads` to come. -/
def ReverseAt (codec : Codec) (log : List Record) (payloads : List Dict) (n : ℕ)
    (it : ReverseIterator) : Prop :=
  ∃ before after, log = before ++ after ∧ it.position = (codec.log before).length ∧
    it.expectedOrdinal = chunks before - 1 ∧
    payloads = it.pending ++ (before.flatMap Record.segments).reverse ∧
    n = payloads.length + before.length

theorem advanceReverse_proceeds (hlossless : ∀ r ∈ log, codec.Lossless r) {m : ℕ}
    (hordinals : log.filterMap Record.ordinal? = List.range m) {payloads : List Dict} {n : ℕ}
    {it : ReverseIterator} (hit : ReverseAt codec log payloads n it) (h : Live codec log j) :
    Ensures (advanceReverse codec it) j
      (fun step j' => Proceeds (ReverseAt codec log) payloads n step ∧ Live codec log j')
      (fun _ _ => False) := by
  obtain ⟨before, after, hlog, hposition, hexpected, hpayloads, hn⟩ := hit
  rw [advanceReverse]
  rcases hpending : it.pending with _ | ⟨payload, pending⟩
  · rw [hpending, List.nil_append] at hpayloads
    rcases List.eq_nil_or_concat before with rfl | ⟨before, r, rfl⟩
    · have hzero : ¬ it.position ≠ 0 := not_not.2 hposition
      have hnone : ¬ it.expectedOrdinal ≠ -1 := not_not.2 hexpected
      dsimp only
      rw [if_neg hzero, if_neg hnone]
      exact ⟨hpayloads, h⟩
    · rw [List.concat_eq_append] at hlog hposition hexpected hpayloads hn
      have hlogr : codec.log (before ++ [r]) <+: codec.log log :=
        ⟨codec.log after, by rw [hlog, codec.log_append (before ++ [r])]⟩
      have hne : it.position ≠ 0 := by
        rw [hposition, codec.log_append, codec.log_cons, List.length_append, List.length_append,
          codec.length_line]
        omega
      rw [List.append_assoc, List.singleton_append] at hlog
      rw [chunks_concat] at hexpected
      -- The ordinal of a chunk is the number of chunks before it.
      have hr : ∀ k ∈ r.ordinal?, (k : ℤ) = it.expectedOrdinal := by
        intro k hk
        have hfollows := follows_of_range (hlog ▸ hordinals) k hk
        rcases r with ⟨_, _, _, _, _⟩ | _
        · rw [hexpected, hfollows, Record.chunkDelta, Nat.cast_add, Nat.cast_one,
            add_sub_cancel_right]
        · cases hk
      dsimp only
      rw [if_pos hne, ensures_bind, ensures_of_ok h.requireUsable_eq, ensures_bind]
      refine (h.restoring (readOnly_readReverse codec it) (readReverse_spec
        (hlogr.trans h.bytes) h.calm (hlossless r (hlog ▸ List.mem_append_cons_self))
        hposition hr)).mono ?_ fun _ _ h => h
      rintro it' j' ⟨rfl, h'⟩
      refine ⟨⟨payloads.length + before.length, ?_, before, r :: after, hlog, rfl, ?_, ?_, rfl⟩, h'⟩
      · rw [hn, List.length_append, List.length_singleton, Nat.add_assoc]
      · change it.expectedOrdinal - r.chunkDelta = _
        rw [hexpected, Nat.cast_add]
        ring
      · rw [hpayloads, List.flatMap_append, List.reverse_append, List.flatMap_singleton]
        rfl
  · rw [hpending, List.cons_append] at hpayloads
    refine ⟨⟨pending ++ (before.flatMap Record.segments).reverse, _, hpayloads, ?_, before, after,
      hlog, hposition, hexpected, rfl, rfl⟩, h⟩
    rw [hn, hpayloads, List.length_cons]
    omega

/-! ## Both readers -/

/-- After any commits, on a working file, both readers run to their end without an error: one
    yields the committed payloads in their order, and the other in the reverse of it. Commits
    that come between their steps change nothing. -/
theorem readers_agree_with_log (codec : Codec) (hasFactories : Bool) (calls : List Call)
    (hcalls : ∀ call ∈ calls, call.isCommit = true)
    (hlossless : ∀ r ∈ committed codec calls (new [] hasFactories), codec.Lossless r)
    (others : ℕ → List Call) (hothers : ∀ n, ∀ call ∈ others n, call.isCommit = true) (fuel : ℕ) :
    let j := run codec calls (new [] hasFactories)
    let log := committed codec calls (new [] hasFactories)
    (log.flatMap Record.segments).length + log.length < fuel →
    (∃ j', (iterSegmentPayloads >>= collect codec (advanceForward codec) others fuel) j =
      .ok (some (log.flatMap Record.segments)) j') ∧
    (∃ j', (iterSegmentPayloadsReverse >>= collect codec (advanceReverse codec) others fuel) j =
      .ok (some (log.flatMap Record.segments).reverse) j') := by
  intro j log hfuel
  have hj : Represents codec log j := run_represents (represents_new codec [] hasFactories) calls
  have hrun := (live_new codec hasFactories).run hcalls
  have hlive : Live codec log j :=
    ⟨⟨[], (List.append_nil log).symm ▸ hj⟩, hrun.closed, hrun.poisoned, hrun.calm⟩
  -- The limit and the count that a reader starts with are those of the log.
  have hcount : j.chunkCount = chunks log := by
    rw [chunks, hj.ordinals, List.length_range]
  refine ⟨Ensures.returns ?_, Ensures.returns ?_⟩
  · rw [iterSegmentPayloads, bind_assoc, ensures_bind, ensures_of_ok hlive.requireUsable_eq]
    refine collect_spec (advanceForward_proceeds hlossless hj.ordinals) hothers
      ⟨[], log, rfl, hj.offset, hcount, rfl, rfl, rfl, rfl⟩ hlive hfuel
  · rw [iterSegmentPayloadsReverse, bind_assoc, ensures_bind, ensures_of_ok hlive.requireUsable_eq]
    refine collect_spec (advanceReverse_proceeds hlossless hj.ordinals) hothers
      ⟨log, [], (List.append_nil log).symm, hj.offset, ?_, rfl, ?_⟩ hlive hfuel
    · rw [← hcount]
    · rw [List.length_reverse]

/-! ## An output of two records -/

/-- A chunk, the only one of its file. -/
def greeting : StagedChunk :=
  ⟨some "en", [⟨⟨none, none, none, none⟩, 0, 1, "Hello", none, none⟩]⟩

/-- The first ten seconds. -/
def greetingWindow : ChunkWindow :=
  ⟨0, 10, 0, 10, 0, 10, by norm_num, by norm_num⟩

/-- The state after the first ten seconds, which are all. -/
def greetingState : AssemblyState :=
  ⟨10, 10, 1, some "en", 1, 1, by norm_num, by norm_num, by norm_num, by norm_num, by norm_num,
    by norm_num⟩

/-- The texts of the record of the chunk, and of two appended segments. -/
def greetingText : List UInt8 :=
  ("\x7b\"version\":1,\"kind\":\"chunk\",\"ordinal\":0,\"core_start\":0.0,\"core_end\":10.0," ++
    "\"language\":\"en\",\"segments\":[\x7b\"seek\":null,\"temperature\":null," ++
    "\"avg_logprob\":null,\"compression_ratio\":null,\"no_speech_prob\":null," ++
    "\"start\":0.0,\"end\":1.0,\"text\":\"Hello\",\"tokens\":null\x7d]\x7d").toUTF8.toList

/-- The record of an appended credit line. -/
def creditText (start stop : String) : List UInt8 :=
  ("\x7b\"version\":1,\"kind\":\"append\",\"segments\":[\x7b\"start\":" ++ start ++ ",\"end\":" ++
    stop ++ ",\"text\":\"Thanks for watching\"\x7d]\x7d").toUTF8.toList

/-- The credit, from one second to another. -/
def creditAt (start stop : ℚ) : Dict :=
  [("start", .float start), ("end", .float stop), ("text", .str "Thanks for watching")]

/-- JSON, of nothing but these three records. -/
def outputCodec : Codec where
  iterencode value :=
    match value with
    | .dict record =>
      if isChunk record then
        ([greetingText], none)
      else if (decodedSegments record).map (Dict.float · "start") = [2] then
        ([creditText "2.0" "3.0"], none)
      else
        ([creditText "4.0" "5.0"], none)
    | _ => ([], some (.typeError "Object is not JSON serializable"))
  loads text :=
    if text = greetingText then
      some (.dict (chunkRecord greetingWindow greeting greetingState).toDict)
    else if text = creditText "2.0" "3.0" then
      some (.dict (Record.append [creditAt 2 3]).toDict)
    else if text = creditText "4.0" "5.0" then
      some (.dict (Record.append [creditAt 4 5]).toDict)
    else
      none

/-- The chunk and the credit are read both ways, while a second credit is appended. -/
theorem readers_agree_with_log_credited :
    let calls : List Call :=
      [.commitChunk greetingWindow greeting greetingState, .appendSegment (.dict (creditAt 2 3))]
    let others (n : ℕ) : List Call := if n = 3 then [.appendSegment (.dict (creditAt 4 5))] else []
    let j := run outputCodec calls (new [] true)
    (∃ j', (iterSegmentPayloads >>= collect outputCodec (advanceForward outputCodec) others 5) j =
      .ok (some (greeting.segments.map Segment.payload ++ [creditAt 2 3])) j') ∧
    (∃ j', (iterSegmentPayloadsReverse >>=
        collect outputCodec (advanceReverse outputCodec) others 5) j =
      .ok (some (creditAt 2 3 :: greeting.segments.map Segment.payload)) j') := by
  intro calls others j
  have hlog : committed outputCodec calls (new [] true) =
      [chunkRecord greetingWindow greeting greetingState, .append [creditAt 2 3]] := by rfl
  -- Two records are committed, and each is read back as it was written.
  have hlossless : ∀ r ∈ committed outputCodec calls (new [] true), outputCodec.Lossless r := by
    rw [hlog]
    intro r hr
    rcases List.mem_cons.1 hr with rfl | hr
    · have hbytes : outputCodec.bytes
          (.dict (chunkRecord greetingWindow greeting greetingState).toDict) = greetingText :=
        List.append_nil _
      refine ⟨by decide +kernel, ?_⟩
      rw [hbytes]
      exact if_pos rfl
    · obtain rfl := List.mem_singleton.1 hr
      have hbytes : outputCodec.bytes (.dict (Record.append [creditAt 2 3]).toDict) =
          creditText "2.0" "3.0" := List.append_nil _
      refine ⟨by decide +kernel, ?_⟩
      rw [hbytes]
      exact (if_neg (by decide +kernel)).trans (if_pos rfl)
  have hothers : ∀ n, ∀ call ∈ others n, call.isCommit = true := by
    intro n call hcall
    dsimp only [others] at hcall
    split_ifs at hcall
    · obtain rfl := List.mem_singleton.1 hcall
      rfl
    · cases hcall
  have hreaders := readers_agree_with_log outputCodec true calls (by decide) hlossless others
    hothers 5
  rw [hlog] at hreaders
  exact hreaders (by decide)

end SegmentJournal

end Subgen

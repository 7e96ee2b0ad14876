import Subgen.Journal.Log

/-!
# Commits are all or nothing

The calls a journal can receive, in any order, on a file that may fail at any operation.
A commit that reaches the file returns with its record behind the others, or raises with
nothing changed, or poisons the journal; a poisoned journal refuses what it is asked for,
but for one case: the pass over short cues does not ask whether the journal is usable when
there is nothing to read (`skipsCheck`).

* `run_represents`: the journal holds the records whose commit returned, in their order;
* `perform_of_submits`, `perform_of_refused`: a commit reaches the file or changes nothing;
* `raises_iff_of_poisoned`: which calls a poisoned journal refuses.
-/

namespace Subgen

open Procedure Storage

namespace SegmentJournal

/-- A call of the journal, or a step of a generator that is under way. -/
inductive Call
  | commitChunk (window : ChunkWindow) (staged : StagedChunk) (state : AssemblyState)
  | appendSegment (segment : Value)
  | lastSegmentPayload
  | iterSegmentPayloads
  | iterSegmentPayloadsReverse
  | iterMinDurationSegmentPayloads (minDuration : Value)
  | advanceForward (it : ForwardIterator)
  | advanceReverse (it : ReverseIterator)
  | finalize (state : AssemblyState)
  | close

variable (codec : Codec)

/-- What a call does. -/
def perform : Call → EStateM Exc SegmentJournal Unit
  | .commitChunk window staged state => commitChunk codec window staged state
  | .appendSegment segment => appendSegment codec segment
  | .lastSegmentPayload => (fun _ => ()) <$> lastSegmentPayload
  | .iterSegmentPayloads => (fun _ => ()) <$> iterSegmentPayloads
  | .iterSegmentPayloadsReverse => (fun _ => ()) <$> iterSegmentPayloadsReverse
  | .iterMinDurationSegmentPayloads minDuration =>
    (fun _ => ()) <$> iterMinDurationSegmentPayloads codec minDuration
  | .advanceForward it => (fun _ => ()) <$> advanceForward codec it
  | .advanceReverse it => (fun _ => ()) <$> advanceReverse codec it
  | .finalize state => (fun _ => ()) <$> finalize state
  | .close => close

/-- The journal after some calls, whether they returned or raised. -/
def run : List Call → SegmentJournal → SegmentJournal
  | [], j => j
  | call :: calls, j => run calls (after (perform codec call) j)

namespace Call

/-- The call commits a record. -/
def isCommit : Call → Bool
  | commitChunk .. | appendSegment _ => true
  | _ => false

/-- The record a commit is about to write, if its checks let it through. -/
def submits (j : SegmentJournal) : Call → Option Record
  | commitChunk window staged state =>
    if j.closed = false ∧ j.poisoned = false ∧ (checkCommit j window staged state).isOk then
      some (chunkRecord window staged state)
    else
      none
  | appendSegment segment =>
    match segmentPayload segment with
    | .ok payload =>
      if j.closed = false ∧ j.poisoned = false ∧ (checkAppend j payload).isOk then
        some (.append [payload])
      else
        none
    | .error _ => none
  | _ => none

/-- A call that needs the log: everything but closing the journal, and a step of a generator
    that reads nothing. -/
def needsLog : Call → Bool
  | advanceForward it => it.pending.isEmpty && it.position < it.limit
  | advanceReverse it => it.pending.isEmpty && it.position ≠ 0
  | close => false
  | _ => true

/-- The pass over short cues, with a threshold it accepts, in a journal without segments. -/
def skipsCheck (j : SegmentJournal) : Call → Prop
  | iterMinDurationSegmentPayloads minDuration =>
    (∃ threshold, finiteNumber minDuration "minimum subtitle duration" = .ok threshold ∧
      0 ≤ threshold) ∧ j.segmentCount = 0
  | _ => False

end Call

/-- The records of the commits that returned. -/
def committed : List Call → SegmentJournal → List Record
  | [], _ => []
  | call :: calls, j =>
    match perform codec call j with
    | .ok _ j' => (call.submits j).toList ++ committed calls j'
    | .error _ j' => committed calls j'

/-- The call raises. -/
def Raises (call : Call) (j : SegmentJournal) : Prop := ∃ e j', perform codec call j = .error e j'

/-- How the commit of a record into a journal that holds `log` may end. -/
def AllOrNothing (log : List Record) (record : Record) (j : SegmentJournal) :
    EStateM.Result Exc SegmentJournal Unit → Prop
  | .ok _ j' => j'.committedBytes = j.committedBytes ++ codec.line record ∧
      Represents codec (log ++ [record]) j'
  | .error e j' =>
    (e = .segmentJournalCommitError "Segment journal commit failed and was rolled back" ∧
      SameLog j j') ∨ j'.poisoned = true

variable {codec} {log : List Record} {j j' : SegmentJournal}

/-! ## Which commits reach the file -/

/-- Behind `requireUsable` and the checks, a usable journal goes on with the commit. -/
theorem checked_eq {m : EStateM Exc SegmentJournal Unit} (check : SegmentJournal → Except Exc Unit)
    (hclosed : j.closed = false) (hpoisoned : j.poisoned = false) (hcheck : (check j).isOk) :
    (do requireUsable; let j ← get; ofExcept (check j); m) j = m j := by
  rw [run_bind_of_ok (requireUsable_eq hclosed hpoisoned)]
  change (ofExcept (check j) >>= fun _ => m) j = m j
  cases hx : check j with
  | ok _ => rfl
  | error e => rw [hx] at hcheck; cases hcheck

theorem checked_eq_error {m : EStateM Exc SegmentJournal Unit}
    (check : SegmentJournal → Except Exc Unit)
    (h : ¬ (j.closed = false ∧ j.poisoned = false ∧ (check j).isOk)) :
    ∃ e, (do requireUsable; let j ← get; ofExcept (check j); m) j = .error e j := by
  by_cases husable : j.closed = false ∧ j.poisoned = false
  · rw [run_bind_of_ok (requireUsable_eq husable.1 husable.2)]
    cases hx : check j with
    | ok _ => exact absurd ⟨husable.1, husable.2, by rw [hx]; rfl⟩ h
    | error e =>
      refine ⟨e, ?_⟩
      change (ofExcept (check j) >>= fun _ => m) j = _
      rw [hx]
      rfl
  · obtain ⟨e, he⟩ := exists_requireUsable_eq husable
    exact ⟨e, run_bind_of_error he⟩

variable (codec) in
/-- A commit whose checks let it through. -/
theorem perform_of_submits {call : Call} {record : Record} (h : call.submits j = some record) :
    perform codec call j = commitRecord codec record j ∧ j.closed = false ∧ j.poisoned = false ∧
      record.Follows j.chunkCount := by
  cases call with
  | commitChunk window staged state =>
    rw [Call.submits] at h
    split_ifs at h with hcheck
    obtain rfl := Option.some.inj h
    refine ⟨checked_eq (fun j => checkCommit j window staged state) hcheck.1 hcheck.2.1 hcheck.2.2, hcheck.1, hcheck.2.1, ?_⟩
    intro k hk
    obtain rfl : window.ordinal = k := Option.some.inj hk
    by_contra hne
    have hbad : (checkCommit j window staged state).isOk = false := by
      rw [checkCommit, if_pos hne]
      rfl
    rw [hbad] at hcheck
    cases hcheck.2.2
  | appendSegment segment =>
    rw [Call.submits] at h
    rcases hpayload : segmentPayload segment with e | payload
    · rw [hpayload] at h
      cases h
    · rw [hpayload] at h
      dsimp only at h
      split_ifs at h with hcheck
      obtain rfl := Option.some.inj h
      refine ⟨?_, hcheck.1, hcheck.2.1, nofun⟩
      rw [perform, appendSegment, hpayload]
      exact checked_eq (fun j => checkAppend j payload) hcheck.1 hcheck.2.1 hcheck.2.2
  | _ => cases h

variable (codec) in
/-- A commit that its checks refuse changes nothing. -/
theorem perform_of_refused {call : Call} (hcommit : call.isCommit = true)
    (h : call.submits j = none) : ∃ e, perform codec call j = .error e j := by
  cases call with
  | commitChunk window staged state =>
    rw [Call.submits] at h
    split_ifs at h with hcheck
    exact checked_eq_error (fun j => checkCommit j window staged state) hcheck
  | appendSegment segment =>
    rw [Call.submits] at h
    rw [perform, appendSegment]
    rcases hpayload : segmentPayload segment with e | payload
    · exact ⟨e, rfl⟩
    · rw [hpayload] at h
      dsimp only at h
      split_ifs at h with hcheck
      exact checked_eq_error (fun j => checkAppend j payload) hcheck
  | _ => cases hcommit

/-! ## Runs -/

/-- Every other call but closing the journal only reads. -/
theorem reads_perform {call : Call} (hcommit : call.isCommit = false) (hclose : call ≠ .close) :
    Reads (perform codec call) := by
  have hmap : ∀ {α : Type} {m : EStateM Exc SegmentJournal α}, Reads m →
      Reads ((fun _ => ()) <$> m) :=
    fun hm j₀ j hj => ensures_map.2 (hm j₀ j hj)
  cases call with
  | commitChunk | appendSegment => cases hcommit
  | lastSegmentPayload =>
    refine hmap (reads_bind reads_requireUsable fun _ => reads_get_bind fun j => ?_)
    split
    · exact reads_throw _
    · exact reads_pure _
  | iterSegmentPayloads | iterSegmentPayloadsReverse =>
    exact hmap (reads_bind reads_requireUsable fun _ => reads_get_bind fun _ => reads_pure _)
  | iterMinDurationSegmentPayloads minDuration => exact hmap (reads_iterMinDuration codec _)
  | advanceForward it => exact hmap (reads_advanceForward codec it)
  | advanceReverse it => exact hmap (reads_advanceReverse codec it)
  | finalize state =>
    exact hmap (reads_bind reads_requireUsable fun _ => reads_get_bind fun _ =>
      reads_bind (reads_ofExcept _) fun _ => reads_pure _)
  | close => exact absurd rfl hclose

theorem close_spec (j : SegmentJournal) :
    Ensures close j
      (fun _ j' => ∃ file : Storage Exc, ∃ closed, file.content = j.file.content ∧
        j' = { j with file := file, closed := closed })
      (fun _ j' => ∃ file : Storage Exc, ∃ closed, file.content = j.file.content ∧
        j' = { j with file := file, closed := closed }) := by
  rw [close, ensures_bind, ensures_get, ensures_ite]
  refine ⟨fun _ => ⟨j.file, j.closed, rfl, rfl⟩, fun _ => ?_⟩
  rw [ensures_bind, ensures_modify, onFile, ensures_zoom]
  exact settle_spec.mono (fun _ file h => ⟨file, true, h.1, rfl⟩) fun _ file h =>
    ⟨file, true, h, rfl⟩

/-- One call: the record it submits is in the log if it returns, and the log stays as it is
    if it raises. -/
theorem perform_represents (h : Represents codec log j) (call : Call) :
    Ensures (perform codec call) j
      (fun _ j' => Represents codec (log ++ (call.submits j).toList) j')
      (fun _ j' => Represents codec log j') := by
  rcases hsubmits : call.submits j with _ | record
  · simp only [Option.toList_none, List.append_nil]
    by_cases hcommit : call.isCommit = true
    · obtain ⟨e, he⟩ := perform_of_refused codec hcommit hsubmits
      rw [ensures_of_error he]
      exact h
    · by_cases hclose : call = .close
      · rw [hclose]
        refine (close_spec j).mono ?_ ?_
        · rintro _ j' ⟨file, closed, hfile, rfl⟩
          exact h.congr closed hfile
        · rintro _ j' ⟨file, closed, hfile, rfl⟩
          exact h.congr closed hfile
      · refine (reads_perform (Bool.eq_false_iff.2 hcommit) hclose j j (.refl j)).mono ?_ ?_
        · rintro _ j' ⟨file, hfile, rfl⟩
          exact h.congr j.closed hfile
        · rintro _ j' ⟨file, hfile, rfl⟩
          exact h.congr j.closed hfile
  · obtain ⟨heq, hclosed, hpoisoned, hfollows⟩ := perform_of_submits codec hsubmits
    rw [Ensures, heq]
    refine (commitRecord_spec h hclosed hpoisoned record).mono ?_ ?_
    · rintro _ j' ⟨file, hfile, rfl⟩
      exact h.counted hfollows hfile
    · rintro e j' (⟨-, file, hfile, rfl⟩ | ⟨file, hfile, rfl⟩)
      · exact h.congr j.closed hfile
      · exact h.poisoned hfile

/-- A run: the journal holds the records that were committed in it. -/
theorem run_represents (h : Represents codec log j) (calls : List Call) :
    Represents codec (log ++ committed codec calls j) (run codec calls j) := by
  induction calls generalizing log j with
  | nil => rw [committed, List.append_nil]; exact h
  | cons call calls ih =>
    have hcall := perform_represents h call
    rw [run, committed, after]
    rw [Ensures] at hcall
    rcases hperform : perform codec call j with ⟨_, j'⟩ | ⟨e, j'⟩
    · rw [hperform] at hcall
      have hrest := ih hcall
      rw [List.append_assoc] at hrest
      exact hrest
    · rw [hperform] at hcall
      exact ih hcall

/-! ## Poisoned journals -/

theorem submits_of_poisoned (h : j.poisoned = true) (call : Call) : call.submits j = none := by
  have hrefused : ∀ b : Bool, ¬ (j.closed = false ∧ j.poisoned = false ∧ b = true) := by simp [h]
  cases call with
  | commitChunk => exact if_neg (hrefused _)
  | appendSegment segment =>
    rw [Call.submits]
    split
    · exact if_neg (hrefused _)
    · rfl
  | _ => rfl

/-- A poisoned journal stays poisoned. -/
theorem perform_poisoned (h : j.poisoned = true) (call : Call) :
    (after (perform codec call) j).poisoned = true := by
  refine (ensures_iff_after (P := fun j : SegmentJournal => j.poisoned = true)).1 ?_
  by_cases hcommit : call.isCommit = true
  · obtain ⟨e, he⟩ := perform_of_refused codec hcommit (submits_of_poisoned h call)
    rw [ensures_of_error he]
    exact h
  · by_cases hclose : call = .close
    · rw [hclose]
      refine (close_spec j).mono ?_ ?_
      · rintro _ j' ⟨file, closed, -, rfl⟩
        exact h
      · rintro _ j' ⟨file, closed, -, rfl⟩
        exact h
    · refine (reads_perform (Bool.eq_false_iff.2 hcommit) hclose j j (.refl j)).mono ?_ ?_
      · rintro _ j' ⟨file, -, rfl⟩
        exact h
      · rintro _ j' ⟨file, -, rfl⟩
        exact h

theorem run_poisoned (h : j.poisoned = true) (calls : List Call) :
    (run codec calls j).poisoned = true := by
  induction calls generalizing j with
  | nil => exact h
  | cons call calls ih => exact ih (perform_poisoned h call)

/-- What asks for a usable journal first raises in a poisoned one. -/
theorem usable_raises {α β : Type} (h : j.poisoned = true)
    {f : Unit → EStateM Exc SegmentJournal α} {g : α → β} :
    ∃ e j', (g <$> (requireUsable >>= f)) j = .error e j' := by
  obtain ⟨e, he⟩ := exists_requireUsable_eq (j := j) fun husable => by
    rw [h] at husable
    cases husable.2
  refine ⟨e, j, ?_⟩
  change EStateM.map g _ j = _
  rw [EStateM.map, run_bind_of_error he]

/-- The pass over short cues raises unless its threshold is accepted and there is nothing
    to read. -/
theorem iterMinDuration_raises_iff (h : j.poisoned = true) (minDuration : Value) :
    Raises codec (.iterMinDurationSegmentPayloads minDuration) j ↔
      ¬ (Call.iterMinDurationSegmentPayloads minDuration).skipsCheck j := by
  rw [Raises, perform, iterMinDurationSegmentPayloads, Call.skipsCheck]
  rcases hfinite : finiteNumber minDuration "minimum subtitle duration" with e | threshold
  · refine ⟨fun _ ⟨⟨_, he, _⟩, _⟩ => ?_, fun _ => ⟨e, j, rfl⟩⟩
    cases he
  by_cases hneg : threshold < 0
  · refine ⟨fun _ ⟨⟨_, he, hle⟩, _⟩ => ?_, fun _ =>
      ⟨.segmentationError "Minimum subtitle duration must not be negative", j, ?_⟩⟩
    · obtain rfl := Except.ok.inj he
      exact absurd hneg (not_lt.2 hle)
    · change ((fun _ => ()) <$> (if threshold < 0 then _ else _ :
        EStateM Exc SegmentJournal (List Dict))) j = _
      rw [if_pos hneg]
      rfl
  change (∃ e j', ((fun _ => ()) <$> (if threshold < 0 then _ else _ :
    EStateM Exc SegmentJournal (List Dict))) j = EStateM.Result.error e j') ↔ _
  rw [if_neg hneg]
  change (∃ e j', ((fun _ => ()) <$> (if j.segmentCount = 0 then _ else _ :
    EStateM Exc SegmentJournal (List Dict))) j = EStateM.Result.error e j') ↔ _
  by_cases hcount : j.segmentCount = 0
  · rw [if_pos hcount]
    refine ⟨fun ⟨e, j', he⟩ => ?_, fun hskip => absurd ⟨?_, hcount⟩ hskip⟩
    · cases he
    · exact ⟨threshold, rfl, not_lt.1 hneg⟩
  · rw [if_neg hcount]
    refine ⟨fun _ hskip => hcount hskip.2, fun _ => ?_⟩
    rw [mergeCommitted, iterSegmentPayloadsReverse, bind_assoc]
    exact usable_raises h

/-- A poisoned journal refuses every call that needs the log, but the one that does not ask. -/
theorem raises_iff_of_poisoned (h : j.poisoned = true) {call : Call} (hneeds : call.needsLog = true) :
    Raises codec call j ↔ ¬ call.skipsCheck j := by
  rcases call with _ | _ | _ | _ | _ | minDuration | it | it | _ | _
  case iterMinDurationSegmentPayloads => exact iterMinDuration_raises_iff h minDuration
  case close => cases hneeds
  case commitChunk window staged state =>
    refine ⟨fun _ => not_false, fun _ => ?_⟩
    obtain ⟨e, he⟩ := perform_of_refused codec
      (rfl : (Call.commitChunk window staged state).isCommit = true) (submits_of_poisoned h _)
    exact ⟨e, j, he⟩
  case appendSegment segment =>
    refine ⟨fun _ => not_false, fun _ => ?_⟩
    obtain ⟨e, he⟩ := perform_of_refused codec
      (rfl : (Call.appendSegment segment).isCommit = true) (submits_of_poisoned h _)
    exact ⟨e, j, he⟩
  case advanceForward =>
    refine ⟨fun _ => not_false, fun _ => ?_⟩
    rw [Call.needsLog, Bool.and_eq_true, List.isEmpty_iff, decide_eq_true_iff] at hneeds
    rw [Raises, perform, advanceForward, hneeds.1]
    dsimp only
    rw [if_pos hneeds.2]
    exact usable_raises h
  case advanceReverse =>
    refine ⟨fun _ => not_false, fun _ => ?_⟩
    rw [Call.needsLog, Bool.and_eq_true, List.isEmpty_iff, decide_eq_true_iff] at hneeds
    rw [Raises, perform, advanceReverse, hneeds.1]
    dsimp only
    rw [if_pos hneeds.2]
    exact usable_raises h
  all_goals exact ⟨fun _ => not_false, fun _ => usable_raises h⟩

/-- Every run of a journal, on any file: it holds the records whose commits returned; one more
    commit adds its record, or changes nothing, or poisons the journal, and one that its checks
    refuse changes nothing; and once poisoned, the journal stays so, and refuses every call
    that needs the log, unless it is the pass over short cues in a journal without segments.

    Closing a journal needs no log, and neither does a further step of a generator that was begun before
    and reads nothing, as it still holds records of the last read or is at its end (`Call.needsLog`):
    nothing is said of these. -/
theorem commit_all_or_nothing (codec : Codec) (faults : List (Option (Fault Exc)))
    (hasFactories : Bool) (calls : List Call) (call : Call) :
    let j := run codec calls (new faults hasFactories)
    let log := committed codec calls (new faults hasFactories)
    Represents codec log j ∧
    (∀ record, call.submits j = some record →
      AllOrNothing codec log record j (perform codec call j)) ∧
    (call.isCommit = true → call.submits j = none → ∃ e, perform codec call j = .error e j) ∧
    (j.poisoned = true → ∀ later, (run codec later j).poisoned = true ∧
      (call.needsLog = true →
        (Raises codec call (run codec later j) ↔ ¬ call.skipsCheck (run codec later j)))) := by
  intro j log
  have hj : Represents codec log j := run_represents (represents_new codec faults hasFactories) calls
  refine ⟨hj, fun record hsubmits => ?_, perform_of_refused codec, fun hpoisoned later => ?_⟩
  · obtain ⟨heq, hclosed, hpoisoned, hfollows⟩ := perform_of_submits codec hsubmits
    -- A commit is the write of one record, which succeeds, fails with the old file or poisons it.
    have hcommit := commitRecord_spec hj hclosed hpoisoned record
    rw [Ensures] at hcommit
    rw [heq]
    rcases hresult : commitRecord codec record j with ⟨_, j'⟩ | ⟨e, j'⟩
    · rw [hresult] at hcommit
      obtain ⟨file, hfile, rfl⟩ := hcommit
      have hj' := hj.counted hfollows hfile
      refine ⟨?_, hj'⟩
      rw [hj'.committedBytes, hj.committedBytes, codec.log_append, codec.log_cons, codec.log_nil,
        List.append_nil]
    · rw [hresult] at hcommit
      rcases hcommit with ⟨he, hsame⟩ | ⟨file, -, rfl⟩
      · exact .inl ⟨he, hsame⟩
      · exact .inr rfl
  · exact ⟨run_poisoned hpoisoned later, raises_iff_of_poisoned (run_poisoned hpoisoned later)⟩

/-- A segment as it is appended to the output. -/
def credit : Value :=
  .dict [("start", .float 2), ("end", .float 3), ("text", .str "Thanks for watching")]

/-- JSON, of nothing but the record of `credit`. -/
def creditCodec : Codec where
  iterencode _ :=
    (["\x7b\"version\":1,\"kind\":\"append\",\"segments\":[\x7b\"start\":2.0,\"end\":3.0,".toUTF8.toList,
      "\"text\":\"Thanks for watching\"\x7d]\x7d".toUTF8.toList], none)
  loads _ := some (.dict (Record.append
    [[("start", .float 2), ("end", .float 3), ("text", .str "Thanks for watching")]]).toDict)

/-- A full disk: the seek of the first commit fails, and that of its rollback. -/
def fullDisk : List (Option (Fault Exc)) :=
  [some ⟨.foreign "OSError" true, 0⟩, some ⟨.foreign "OSError" true, 0⟩]

/-- The journal is poisoned, and the pass over short cues ends as if the output were empty. -/
theorem poisoned_not_refused :
    let j := run creditCodec [.appendSegment credit] (new fullDisk true)
    j.poisoned = true ∧
      ¬ Raises creditCodec (.iterMinDurationSegmentPayloads (.float (1 / 50))) j := by
  intro j
  have hpoisoned : j.poisoned = true := by rfl
  refine ⟨hpoisoned, fun hraises => ?_⟩
  refine (iterMinDuration_raises_iff hpoisoned _).1 hraises ⟨⟨1 / 50, rfl, by norm_num⟩, ?_⟩
  rfl

end SegmentJournal

end Subgen

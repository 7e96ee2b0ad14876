import Subgen.Publication.Appends

/-!
# Journals that were interrupted

The directory of a journal after any number of appends and loads. Each call of an append or a load may
fail, and the process may be stopped before each, with what it has done so far left behind (`Journaled`).

* `journal_survives`: a load that is not interrupted returns what was appended, in order: every append
  that returned, and of the others whole ones or nothing;
* `journal_goes_on`: an append that is not interrupted returns, too, and adds its record.
-/

namespace Subgen

open FileReceiptJournal

/-- A checkpoint that was to be appended, and whether the append returned. -/
abbrev JournalAttempt := PublicationCheckpoint × Bool

section History

variable (I : Interpreter) (digest : List ℕ → Text)

/-- The directory when these appends were made or attempted, among any loads. -/
inductive Journaled : List JournalAttempt → JournalFiles → Prop
  | empty : Journaled [] JournalFiles.empty
  | loaded {attempts : List JournalAttempt} {w w' : JournalFiles} {rest : Option (JournalScript (List Receipt))}
      (h : Journaled attempts w)
      (hload : Script.Reached (crashing True) (fun _ _ => False) (w, some (loadAll I digest)) (w', rest)) :
      Journaled attempts w'
  | interrupted {attempts : List JournalAttempt} {w w' : JournalFiles} {rest : Option (JournalScript Unit)}
      (c : PublicationCheckpoint) (h : Journaled attempts w)
      (happend : Script.Reached (crashing True) (fun _ _ => False) (w, some (append I digest c)) (w', rest)) :
      Journaled (attempts ++ [(c, false)]) w'
  | returned {attempts : List JournalAttempt} {w w' : JournalFiles} (c : PublicationCheckpoint)
      (h : Journaled attempts w)
      (happend : Script.Reached (crashing True) (fun _ _ => False) (w, some (append I digest c))
        (w', some (.done ()))) : Journaled (attempts ++ [(c, true)]) w'

/-- Of the attempts, the ones that returned are kept, and any of the others. -/
inductive Survives : List JournalAttempt → List PublicationCheckpoint → Prop
  | nil : Survives [] []
  | keeps {attempts : List JournalAttempt} {kept : List PublicationCheckpoint} (c : PublicationCheckpoint)
      (returned : Bool) (h : Survives attempts kept) : Survives (attempts ++ [(c, returned)]) (kept ++ [c])
  | drops {attempts : List JournalAttempt} {kept : List PublicationCheckpoint} (c : PublicationCheckpoint)
      (h : Survives attempts kept) : Survives (attempts ++ [(c, false)]) kept

/-- The records that the appends of these checkpoints add. -/
def recordsOf (kept : List PublicationCheckpoint) : List Receipt :=
  kept.foldl (fun records c => records ++ [recordOf digest records c]) []

/-- A checkpoint whose snapshot can be written and decoded, and none of whose documents `json.loads` refuses
    when it is appended to fewer than so many receipts. An append checks none of this itself: what is
    appended without it, such as a first checkpoint whose baseline has another digest, may be refused by
    every later load. -/
structure Documented (n : ℕ) (c : PublicationCheckpoint) : Prop where
  recordable : c.Recordable digest
  reads : ∀ records, records.length < n → ReadsDocuments I digest records c

/-- The directory stands for these checkpoints. -/
structure Standing (kept : List PublicationCheckpoint) (w : JournalFiles) : Prop where
  sound : Sound I digest (recordsOf digest kept)
  stands : Within (Stands I digest (recordsOf digest kept)) w

variable {I digest} {attempts : List JournalAttempt} {kept : List PublicationCheckpoint}
  {c : PublicationCheckpoint} {w w' : JournalFiles}

theorem recordsOf_append (kept : List PublicationCheckpoint) (c : PublicationCheckpoint) :
    recordsOf digest (kept ++ [c]) =
      recordsOf digest kept ++ [recordOf digest (recordsOf digest kept) c] := by
  rw [recordsOf, List.foldl_append]
  rfl

theorem length_recordsOf (kept : List PublicationCheckpoint) : (recordsOf digest kept).length = kept.length := by
  induction kept using List.reverseRecOn with
  | nil => rfl
  | append_singleton kept c ih => rw [recordsOf_append, List.length_append, ih, List.length_append]; rfl

theorem Survives.length_le (h : Survives attempts kept) : kept.length ≤ attempts.length := by
  induction h with
  | nil => exact le_rfl
  | keeps c returned _ ih => simpa using ih
  | drops c _ ih =>
    rw [List.length_append]
    omega

/-! ## Runs -/

/-- What a process leaves behind, wherever it is stopped, and when it returns. -/
theorem FileReceiptJournal.RunsFrom.reached {α : Type} {T : Shape → Prop} {p : JournalScript α}
    {rest : Option (JournalScript α)} {Q : α → JournalFiles → Prop} (h : RunsFrom True T p w Q)
    (hQ : ∀ a w, Q a w → Within T w) (hw : Within T w)
    (hreached : Script.Reached (crashing True) (fun _ _ => False) (w, some p) (w', rest)) :
    Within T w' ∧ ∀ a, rest = some (.done a) → Q a w' := by
  have hkeeps : Script.Keeps (crashing True) (fun _ (_ : JournalScript α) => False) (Within T) (Within T)
      (fun _ w' => Within T w') Q (fun _ w' => True ∧ Within T w') := by
    refine ⟨fun _ h => h, fun _ _ _ h => h.elim, fun _ _ h => h.elim, fun _ _ _ h => h, ?_, fun a s _ h => hQ a s h,
      fun _ _ _ h => h.2⟩
    rintro s s' hs ⟨_, rfl⟩
    exact hs
  have hholds := hreached.keeps hkeeps ⟨hw, w, hw, .refl, h⟩
  cases rest with
  | none => exact ⟨hholds, by simp⟩
  | some q =>
    obtain ⟨hw', s, _, hothers, hmeets⟩ := hholds
    refine ⟨hw', ?_⟩
    rintro a ⟨⟩
    rcases hothers.cases_tail with rfl | ⟨_, _, hother⟩
    · exact hmeets
    · exact hother.elim

/-- What runs without an interruption returns. -/
theorem FileReceiptJournal.RunsFrom.evaluates {α : Type} {T : Shape → Prop} {p : JournalScript α}
    {Q : α → JournalFiles → Prop} (h : RunsFrom False T p w Q) :
    ∃ a w', p.evaluate JournalFiles.run w = (.ok a, w') ∧ Q a w' :=
  Script.Meets.evaluate (S := crashing False) (fun _ _ => Or.inl rfl) (Script.Meets.mono h (fun _ _ h => h) fun _ _ h => h.1)

/-- A checkpoint that does not follow the records is refused before anything is written. -/
theorem FileReceiptJournal.runs_append_refused {faulty : Prop} {records : List Receipt} {d : Shape} {e : LoadError}
    (hdigest : ∀ payload, isSha256 (digest payload) = true) (hsound : Sound I digest records)
    (hrefuses : I.validateNextCheckpoint records c = .error e) (hw : LooksLike w d) (hd : Stands I digest records d)
    (hfaulty : faulty) :
    RunsFrom faulty (Stands I digest records) (append I digest c) w fun _ _ => False := by
  refine (runs_loadAll hdigest hsound hw hd fun _ h => h).bind ?_
  rintro records w' ⟨rfl, hw'⟩
  have hwithin : Within (Stands I digest records) w' := ⟨_, .settled, hw'⟩
  refine runs_receiptPaths hw' ⟨hsound.short, fun n => settledFiles_receipt, fun n => LooksLike.links_none _⟩ hwithin ?_
  rw [hrefuses]
  exact runs_throw hfaulty hwithin

/-! ## Histories -/

theorem standing_empty : Standing I digest [] JournalFiles.empty := by
  have hlooks : LooksLike JournalFiles.empty ⟨settledFiles digest [], none⟩ := by
    refine ⟨fun name => ?_, fun a b i h => (by cases h), fun a b h => (by cases h)⟩
    cases name with
    | receipt n => cases n <;> rfl
    | _ => rfl
  refine ⟨⟨rfl, show 0 < 10 ^ 8 by decide, fun head hhead => (by cases hhead)⟩, ⟨_, .settled, hlooks⟩⟩

theorem Documented.appendable {n : ℕ} (h : Documented I digest n c) {records : List Receipt}
    (hlength : records.length < n) (hn : n < 10 ^ 8) (haccepts : I.validateNextCheckpoint records c = .ok ()) :
    Appendable I digest records c :=
  ⟨h.recordable, h.reads records hlength, by omega, haccepts⟩

/-- An append that is interrupted is whole, or is nothing. -/
theorem Standing.attempt {n : ℕ} (hdigest : ∀ payload, isSha256 (digest payload) = true)
    (h : Standing I digest kept w) (hc : Documented I digest n c) (hlength : kept.length < n) (hn : n < 10 ^ 8)
    {rest : Option (JournalScript Unit)}
    (hreached : Script.Reached (crashing True) (fun _ _ => False) (w, some (append I digest c)) (w', rest)) :
    Standing I digest (kept ++ [c]) w' ∨ Standing I digest kept w' ∧ rest ≠ some (.done ()) := by
  obtain ⟨hsound, d, hd, hw⟩ := h
  have hrecords : (recordsOf digest kept).length = kept.length := length_recordsOf kept
  rw [← hrecords] at hlength
  rcases haccepts : I.validateNextCheckpoint (recordsOf digest kept) c with e | ⟨⟩
  · have hruns := runs_append_refused hdigest hsound haccepts hw hd trivial
    obtain ⟨hwithin, hreturns⟩ := hruns.reached (fun _ _ h => h.elim) ⟨d, hd, hw⟩ hreached
    exact .inr ⟨⟨hsound, hwithin⟩, hreturns ()⟩
  · have hc := hc.appendable hlength hn haccepts
    have hsound' := hsound.append hc hdigest
    have hruns : RunsFrom True (fun d => Stands I digest (recordsOf digest kept) d ∨
        Stands I digest (recordsOf digest kept ++ [recordOf digest (recordsOf digest kept) c]) d)
        (append I digest c) w fun _ w' => LooksLike w'
          ⟨settledFiles digest (recordsOf digest kept ++ [recordOf digest (recordsOf digest kept) c]), none⟩ :=
      runs_append hdigest hsound hc hw hd (fun _ => .inl) (fun _ => .inr)
    obtain ⟨⟨d', hd', hw'⟩, hreturns⟩ := hruns.reached (fun _ _ hw => ⟨_, .inr .settled, hw⟩) ⟨d, .inl hd, hw⟩ hreached
    rw [← recordsOf_append] at hsound' hd' hreturns
    by_cases hrest : rest = some (.done ())
    · exact .inl ⟨hsound', _, .settled, hreturns () hrest⟩
    · rcases hd' with hd' | hd'
      · exact .inr ⟨⟨hsound, d', hd', hw'⟩, hrest⟩
      · exact .inl ⟨hsound', d', hd', hw'⟩

/-- By the history: the directory stands for what survived. -/
theorem Journaled.standing {n : ℕ} (hdigest : ∀ payload, isSha256 (digest payload) = true) (hn : n < 10 ^ 8)
    (h : Journaled I digest attempts w) (hlength : attempts.length ≤ n)
    (hdocs : ∀ attempt ∈ attempts, Documented I digest n attempt.1) :
    ∃ kept, Survives attempts kept ∧ Standing I digest kept w := by
  induction h with
  | empty => exact ⟨[], .nil, standing_empty⟩
  | loaded _ hload ih =>
    obtain ⟨kept, hsurvives, hsound, d, hd, hw⟩ := ih hlength hdocs
    have hruns : RunsFrom True (Stands I digest (recordsOf digest kept)) (loadAll I digest) _ fun loaded w' =>
        loaded = recordsOf digest kept ∧ LooksLike w' ⟨settledFiles digest (recordsOf digest kept), none⟩ :=
      runs_loadAll hdigest hsound hw hd fun _ h => h
    have hreached := hruns.reached (fun _ _ h => ⟨_, .settled, h.2⟩) ⟨d, hd, hw⟩ hload
    exact ⟨kept, hsurvives, hsound, hreached.1⟩
  | @interrupted attempts _ _ _ c _ happend ih =>
    rw [List.length_append, List.length_singleton] at hlength
    obtain ⟨kept, hsurvives, hstanding⟩ := ih (by omega) fun a ha => hdocs a (List.mem_append_left _ ha)
    have hc := hdocs (c, false) (List.mem_append_right _ (List.mem_singleton_self _))
    have hkept := hsurvives.length_le
    rcases hstanding.attempt hdigest hc (by omega) hn happend with hstanding | ⟨hstanding, _⟩
    · exact ⟨_, .keeps c false hsurvives, hstanding⟩
    · exact ⟨_, .drops c hsurvives, hstanding⟩
  | @returned attempts _ _ c _ happend ih =>
    rw [List.length_append, List.length_singleton] at hlength
    obtain ⟨kept, hsurvives, hstanding⟩ := ih (by omega) fun a ha => hdocs a (List.mem_append_left _ ha)
    have hc := hdocs (c, true) (List.mem_append_right _ (List.mem_singleton_self _))
    have hkept := hsurvives.length_le
    rcases hstanding.attempt hdigest hc (by omega) hn happend with hstanding | ⟨_, hrest⟩
    · exact ⟨_, .keeps c true hsurvives, hstanding⟩
    · exact absurd rfl hrest

/-- Whatever was interrupted, a load returns every append that returned, and of the others whole ones or
    nothing. It leaves only receipts and the head. -/
theorem journal_survives (hdigest : ∀ payload, isSha256 (digest payload) = true)
    (h : Journaled I digest attempts w) (hcount : attempts.length < 10 ^ 8)
    (hdocs : ∀ attempt ∈ attempts, Documented I digest attempts.length attempt.1) :
    ∃ kept w', Survives attempts kept ∧
      (loadAll I digest).evaluate JournalFiles.run w = (.ok (recordsOf digest kept), w') ∧
        ∀ name, w'.entries name ≠ none → name = .head ∨ ∃ n, name = .receipt n := by
  obtain ⟨kept, hsurvives, hsound, d, hd, hw⟩ := h.standing hdigest hcount le_rfl hdocs
  obtain ⟨_, w', hevaluate, rfl, hw'⟩ := (runs_loadAll hdigest hsound hw hd fun _ h => h).evaluates
  refine ⟨kept, w', hsurvives, hevaluate, fun name hname => ?_⟩
  cases name with
  | head => exact .inl rfl
  | receipt n => exact .inr ⟨n, rfl⟩
  | headNext | headNextStaged | transaction | transactionStaged | receiptStaged n =>
    exact absurd (hw'.entry_none rfl) hname

/-- The directory when an append of the first checkpoint was stopped after so many calls. After 20 of them
    the transaction is linked, and its staged file is not removed yet. -/
def stoppedAppend (calls : ℕ) : JournalFiles :=
  (Script.advance (fun w (_ : Unit) => w.run) (List.replicate calls ()) JournalFiles.empty
    (append StageList.interpreter StageList.digest firstCheckpoint)).1

theorem documented_firstCheckpoint (n : ℕ) : Documented StageList.interpreter StageList.digest n firstCheckpoint :=
  ⟨recordable_firstCheckpoint, fun _ _ => ⟨rfl, rfl, rfl⟩⟩

theorem journaled_stoppedAppend (calls : ℕ) :
    Journaled StageList.interpreter StageList.digest [(firstCheckpoint, false)] (stoppedAppend calls) :=
  .interrupted firstCheckpoint .empty (Script.reached_advance _ (fun _ _ _ => Or.inl rfl) _ _ _)

theorem journal_survives_stoppedAppend : ∃ kept w', Survives [(firstCheckpoint, false)] kept ∧
    (loadAll StageList.interpreter StageList.digest).evaluate JournalFiles.run (stoppedAppend 20) =
      (.ok (recordsOf StageList.digest kept), w') ∧
        ∀ name, w'.entries name ≠ none → name = .head ∨ ∃ n, name = .receipt n :=
  journal_survives isSha256_stageListDigest (journaled_stoppedAppend 20) (show 1 < 10 ^ 8 by decide)
    (by simpa using documented_firstCheckpoint 1)

/-- What may survive of one append that was interrupted. -/
theorem Survives.of_interrupted (h : Survives [(c, false)] kept) : kept = [] ∨ kept = [c] := by
  change Survives ([] ++ [(c, false)]) kept at h
  generalize hattempts : [] ++ [(c, false)] = attempts at h
  cases h with
  | nil => exact .inl rfl
  | keeps c' returned h =>
    obtain ⟨rfl, hlast⟩ := List.append_inj' hattempts rfl
    obtain ⟨rfl, -⟩ := Prod.mk.inj (List.singleton_inj.1 hlast)
    exact .inr (by rw [List.length_eq_zero_iff.1 (Nat.le_zero.1 h.length_le), List.nil_append])
  | drops c' h =>
    obtain ⟨rfl, -⟩ := List.append_inj' hattempts rfl
    exact .inl (List.length_eq_zero_iff.1 (Nat.le_zero.1 h.length_le))

end History

end Subgen

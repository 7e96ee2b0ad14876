import Subgen.Subtitles.AtomicPublish

/-!
# A subtitle is published as a whole or not at all

Up to `os.replace` nothing but the staging file changes, whatever is raised (`Before`), and what comes behind
it raises nothing (`Published`).

The writer of the text is a list of writes, any of which may raise, and so may every system call. The states of
a publication are four: nothing of it is there, it is staged, the staging file is removed again, or it is
published. Each call has a rule for the states it may be made in; a call that is recorded adds itself to the
history, and a property of the files that does not look at the history is kept by it (`Recorded`). `finally`
runs in any of the four states, and its own errors do not hide those of the body.

* `publish_ensures`: the body of the `try`, call by call;
* `publish_all_or_nothing`: what is at the path of the subtitle at every moment, and in the end.
-/

namespace Subgen

open Procedure

namespace Publishing

variable (P : Publishing)

/-- What the writer leaves in the staging file. -/
def complete : Option (List ℕ) := P.contents.getLast?.getD (some [])

/-- A file with all that was written, by a writer that returned. -/
def IsComplete (file : Option StagedFile) : Prop :=
  P.outcome = .ok () ∧ ∃ content mode, P.complete = some content ∧ file = some ⟨content, mode⟩

theorem temporary_ne : P.temporary ≠ P.baseName := by
  intro h
  have hlength := congrArg List.length h
  simp [temporary, text] at hlength
  omega

/-- Nothing but the staging file has changed, and nothing else was ever at the path of the subtitle. -/
structure Before (files : Files) (s : Staging) : Prop where
  history : ∀ m ∈ s.history, m.published = files P.baseName
  others : ∀ name ≠ P.temporary, s.files name = files name

/-- The staging file holds all that is to be published. -/
structure Staged (files : Files) (s : Staging) : Prop extends P.Before files s where
  content : (s.files P.temporary).map StagedFile.content = P.complete
  outcome : P.outcome = .ok ()
  descriptor : s.descriptor = false

/-- The staging file is gone, unless it could not be removed. -/
structure Removed (files : Files) (s : Staging) : Prop extends P.Before files s where
  removed : s.files P.temporary = none ∨ ∃ m ∈ s.history, m.call = .unlink ∧ m.error ≠ none

/-- The subtitle is in place, and nothing else has changed. -/
structure Published (files : Files) (s : Staging) : Prop where
  history : ∀ m ∈ s.history, m.published = files P.baseName ∨ P.IsComplete m.published
  published : P.IsComplete (s.files P.baseName)
  temporary : s.files P.temporary = none
  others : ∀ name ≠ P.baseName, name ≠ P.temporary → s.files name = files name
  descriptor : s.descriptor = false

/-- What holds on behind a call that leaves the files as they are. -/
def Recorded (I : Staging → Prop) : Prop :=
  ∀ s call error, I s → I { s with history := ⟨call, error, s.files P.baseName⟩ :: s.history }

variable {P} {files : Files} {s : Staging} {I : Staging → Prop} {α : Type}

theorem Before.file (h : P.Before files s) : s.files P.baseName = files P.baseName :=
  h.others P.baseName P.temporary_ne.symm

theorem recorded_before : P.Recorded (P.Before files) := by
  intro s call error h
  refine ⟨fun m hm => ?_, h.others⟩
  rcases List.mem_cons.1 hm with rfl | hm
  · exact h.file
  · exact h.history m hm

theorem recorded_staged : P.Recorded (P.Staged files) := fun s call error h =>
  ⟨recorded_before s call error h.toBefore, h.content, h.outcome, h.descriptor⟩

theorem recorded_removed : P.Recorded (P.Removed files) := fun s call error h =>
  ⟨recorded_before s call error h.toBefore,
    h.removed.imp_right fun ⟨m, hm, hunlink⟩ => ⟨m, List.mem_cons_of_mem _ hm, hunlink⟩⟩

theorem recorded_published : P.Recorded (P.Published files) := by
  intro s call error h
  refine ⟨fun m hm => ?_, h.published, h.temporary, h.others, h.descriptor⟩
  rcases List.mem_cons.1 hm with rfl | hm
  · exact .inr h.published
  · exact h.history m hm

/-! ## The calls -/

theorem ensures_fsCall {call : FsCall} {act : Files → Except OsError (α × Files)} {Q : α → Staging → Prop}
    {E : PublishError → Staging → Prop}
    (herror : ∀ e, E (.os e) { s with history := ⟨call, some e, s.files P.baseName⟩ :: s.history })
    (hok : ∀ a files, act s.files = .ok (a, files) →
      Q a { s with files, history := ⟨call, none, files P.baseName⟩ :: s.history }) :
    Ensures (P.fsCall call act) s Q E := by
  rw [Ensures, fsCall]
  rcases P.fails s.history call with _ | e
  · rcases hact : act s.files with e | ⟨a, files⟩
    · exact herror e
    · exact hok a files hact
  · exact herror e

theorem preserves_check (hI : P.Recorded I) (call : FsCall) : Preserves I (P.check call) := by
  intro s hs
  refine ensures_fsCall (fun e => hI s call (some e) hs) fun a files hact => ?_
  obtain ⟨-, rfl⟩ := Prod.mk.inj (Except.ok.inj hact)
  exact hI s call none hs

theorem ensures_onStaged {call : FsCall} {act : StagedFile → Files → α × Files} {Q : α → Staging → Prop}
    {E : PublishError → Staging → Prop}
    (herror : ∀ e, E (.os e) { s with history := ⟨call, some e, s.files P.baseName⟩ :: s.history })
    (hok : ∀ file, s.files P.temporary = some file → Q (act file s.files).1 { s with
      files := (act file s.files).2
      history := ⟨call, none, (act file s.files).2 P.baseName⟩ :: s.history }) :
    Ensures (P.onStaged call act) s Q E := by
  refine ensures_fsCall herror fun a files hact => ?_
  split at hact
  · cases hact
  · next file hfile =>
    have heq := Except.ok.inj hact
    have h := hok file hfile
    rw [heq] at h
    exact h

/-- A call that only looks at the staging file. -/
theorem ensures_look (hI : P.Recorded I) (call : FsCall) (look : StagedFile → α) (hs : I s) :
    Ensures (P.onStaged call fun file files => (look file, files)) s
      (fun a s' => I s' ∧ ∃ file, s'.files P.temporary = some file ∧ a = look file) (fun _ => I) :=
  ensures_onStaged (fun e => hI s call (some e) hs) fun file hfile => ⟨hI s call none hs, file, hfile, rfl⟩

theorem ensures_withFinally {body : SubtitlePublish α} {final : SubtitlePublish Unit} {Q : α → Staging → Prop}
    {E : PublishError → Staging → Prop} : Ensures (withFinally body final) s Q E ↔
      Ensures body s (fun a s' => Ensures final s' (fun _ => Q a) E)
        (fun e s' => Ensures final s' (fun _ => E e) E) := by
  simp only [withFinally, ensures_bind, ensures_attempt]
  constructor
  · exact fun h => h.mono (fun a s' ha => ha.mono (fun _ _ h => (ensures_ofExcept.1 h).1 a rfl) fun _ _ h => h)
      fun e s' he => he.mono (fun _ _ h => (ensures_ofExcept.1 h).2 e rfl) fun _ _ h => h
  · exact fun h => h.mono (fun a s' ha => ha.mono (fun _ _ h => h) fun _ _ h => h)
      fun e s' he => he.mono (fun _ _ h => h) fun _ _ h => h

theorem Before.set (h : P.Before files s) (file : Option StagedFile) (call : FsCall) (error : Option OsError) :
    P.Before files { s with
      files := Publishing.set s.files P.temporary file
      history := ⟨call, error, Publishing.set s.files P.temporary file P.baseName⟩ :: s.history } := by
  have hset : Publishing.set s.files P.temporary file P.baseName = s.files P.baseName :=
    Function.update_of_ne P.temporary_ne.symm _ _
  refine ⟨fun m hm => ?_, fun name hname => ?_⟩
  · rcases List.mem_cons.1 hm with rfl | hm
    · exact hset.trans h.file
    · exact h.history m hm
  · exact (Function.update_of_ne hname _ _).trans (h.others name hname)

theorem ensures_mkstemp (s : Staging) (hhistory : s.history = []) :
    Ensures P.mkstemp s (fun _ s' => P.Before s.files s' ∧ s'.descriptor = s.descriptor ∧
        s.files P.temporary = none ∧ (s'.files P.temporary).map StagedFile.content = some [])
      (fun _ s' => s'.files = s.files ∧ ∀ m ∈ s'.history, m.published = s.files P.baseName) := by
  have hbefore : P.Before s.files s := ⟨by simp [hhistory], fun _ _ => rfl⟩
  refine ensures_fsCall (fun e => ⟨rfl, (recorded_before s .mkstemp (some e) hbefore).history⟩) fun a files hact => ?_
  · split at hact
    · cases hact
    · next hfree =>
      obtain ⟨-, rfl⟩ := Prod.mk.inj (Except.ok.inj hact)
      refine ⟨hbefore.set _ _ _, rfl, by simpa using hfree, ?_⟩
      change ((Publishing.set s.files P.temporary _) P.temporary).map _ = _
      rw [Publishing.set, Function.update_self]
      rfl

/-- The writes, and what they leave in the staging file. -/
theorem ensures_writes (contents : List (Option (List ℕ))) (hs : P.Before files s) :
    Ensures (contents.forM P.write) s
      (fun _ s' => P.Before files s' ∧ s'.descriptor = s.descriptor ∧ (s'.files P.temporary).map StagedFile.content =
        contents.getLast?.getD ((s.files P.temporary).map StagedFile.content)) (fun _ _ => False) := by
  induction contents generalizing s with
  | nil => exact ⟨hs, rfl, rfl⟩
  | cons content contents ih =>
    refine ensures_bind.2 ((ih (hs.set _ .write none)).mono ?_ fun _ _ => id)
    rintro _ s' ⟨hbefore, hdescriptor, hcontent⟩
    refine ⟨hbefore, hdescriptor, hcontent.trans ?_⟩
    rcases contents with _ | ⟨next, contents⟩
    · simp only [List.getLast?_nil, List.getLast?_singleton, Option.getD_none, Option.getD_some,
        Publishing.set, Function.update_self]
      rcases content with _ | content <;> rfl
    · rw [List.getLast?_cons_cons, List.getLast?_eq_some_getLast (List.cons_ne_nil _ _)]
      rfl

theorem ensures_writeTemporary (hs : P.Before files s) (hdescriptor : s.descriptor = false)
    (hempty : (s.files P.temporary).map StagedFile.content = some []) :
    Ensures P.writeTemporary s (fun _ => P.Staged files) (fun _ => P.Before files) := by
  rw [writeTemporary, ensures_bind]
  refine (ensures_writes P.contents hs).mono ?_ fun _ _ => False.elim
  rintro _ s' ⟨hbefore, hsame, hcontent⟩
  refine ensures_ofExcept.2 ⟨fun _ houtcome => ⟨hbefore, ?_, houtcome, hsame.trans hdescriptor⟩, fun _ _ => hbefore⟩
  rw [hcontent, hempty, complete]

theorem ensures_publishedMode (hs : P.Staged files s) :
    Ensures P.publishedMode s (fun _ => P.Staged files) (fun _ => P.Before files) := by
  refine ensures_tryCatch.2 (ensures_fsCall (fun e => recorded_staged s .stat (some e) hs) fun a files' hact => ?_)
  split at hact
  · cases hact
  · obtain ⟨-, rfl⟩ := Prod.mk.inj (Except.ok.inj hact)
    exact recorded_staged s .stat none hs

theorem ensures_chmod (mode : ℕ) (hs : P.Staged files s) :
    Ensures (P.chmod mode) s (fun _ => P.Staged files) (fun _ => P.Before files) := by
  refine ensures_onStaged (fun e => (recorded_staged s .chmod (some e) hs).toBefore) fun file hfile => ?_
  refine ⟨hs.toBefore.set _ _ _, ?_, hs.outcome, hs.descriptor⟩
  have hcontent := hs.content
  rw [hfile] at hcontent
  rw [← hcontent]
  change ((Publishing.set s.files P.temporary _) P.temporary).map _ = _
  rw [Publishing.set, Function.update_self]
  rfl

/-- What is read is what was written. -/
theorem ensures_stagedPayload (hs : P.Staged files s) : Ensures P.stagedPayload s
    (fun payload s' => P.Staged files s' ∧ ∃ content, P.complete = some content ∧ decodeUtf8 content = some payload)
    (fun _ => P.Before files) := by
  rw [stagedPayload, ensures_bind]
  refine (ensures_look recorded_staged .openText (fun _ => ()) hs).mono ?_ fun _ _ h => h.toBefore
  rintro _ s₁ ⟨hs₁, -⟩
  rw [ensures_withFinally, ensures_bind]
  have hclose : ∀ s', P.Staged files s' → Ensures (P.check .closeText) s' (fun _ => P.Staged files)
      (fun _ => P.Staged files) := preserves_check recorded_staged .closeText
  refine (ensures_look recorded_staged .read StagedFile.content hs₁).mono ?_ fun _ s₂ hs₂ =>
    (hclose s₂ hs₂).mono (fun _ _ h => h.toBefore) fun _ _ h => h.toBefore
  rintro content s₂ ⟨hs₂, file, hfile, rfl⟩
  have hcontent : P.complete = some file.content := by rw [← hs₂.content, hfile]; rfl
  rcases hdecoded : decodeUtf8 file.content with _ | payload
  · exact (hclose s₂ hs₂).mono (fun _ _ h => h.toBefore) fun _ _ h => h.toBefore
  · exact (hclose s₂ hs₂).mono (fun _ _ h => ⟨h, file.content, hcontent, hdecoded⟩) fun _ _ h => h.toBefore

theorem ensures_replace (hs : P.Staged files s) :
    Ensures P.replace s (fun _ => P.Published files) (fun _ => P.Before files) := by
  refine ensures_onStaged (fun e => (recorded_staged s .replace (some e) hs).toBefore) fun file hfile => ?_
  have hcontent := hs.content
  rw [hfile] at hcontent
  have hplaced : P.IsComplete
      (Publishing.set (Publishing.set s.files P.temporary none) P.baseName (some file) P.baseName) :=
    ⟨hs.outcome, file.content, file.mode, hcontent.symm, Function.update_self _ _ _⟩
  refine ⟨fun m hm => ?_, ?_, ?_, fun name hbase htemporary => ?_, hs.descriptor⟩
  · rcases List.mem_cons.1 hm with rfl | hm
    · exact .inr hplaced
    · exact .inl (hs.history m hm)
  · exact hplaced
  · exact (Function.update_of_ne P.temporary_ne _ _).trans (Function.update_self _ _ _)
  · exact (Function.update_of_ne hbase _ _).trans
      ((Function.update_of_ne htemporary _ _).trans (hs.others name htemporary))

/-- A call that leaves the files as they are raises an `OSError`, if anything. -/
theorem ensures_check_os (hI : P.Recorded I) (call : FsCall) (hs : I s) :
    Ensures (P.check call) s (fun _ => I) (fun e s' => I s' ∧ ∃ e', e = .os e') := by
  refine ensures_fsCall (fun e => ⟨hI s call (some e) hs, e, rfl⟩) fun a files hact => ?_
  obtain ⟨-, rfl⟩ := Prod.mk.inj (Except.ok.inj hact)
  exact hI s call none hs

theorem ensures_fsyncParentDirectory (hs : P.Published files s) :
    Ensures P.fsyncParentDirectory s (fun _ => P.Published files) (fun _ _ => False) := by
  have hcheck := fun (call : FsCall) s (hs : P.Published files s) => ensures_check_os recorded_published call hs
  rw [fsyncParentDirectory, ensures_ite]
  refine ⟨fun _ => ensures_tryCatch.2 (Ensures.mono (Q := fun _ => P.Published files)
    (E := fun e s' => P.Published files s' ∧ ∃ e', e = .os e') ?_ (fun _ _ h => h) ?_), fun _ => hs⟩
  · rw [ensures_bind]
    refine (hcheck .openDirectory s hs).mono (fun _ s' hs' => ensures_withFinally.2 ?_) fun _ _ h => h
    refine (hcheck .fsyncDirectory s' hs').mono (fun _ s'' => hcheck .closeDirectory s'') ?_
    rintro e s'' ⟨hs'', he⟩
    exact (hcheck .closeDirectory s'' hs'').mono (fun _ _ h => ⟨h, he⟩) fun _ _ h => h
  · rintro _ s' ⟨hs', e, rfl⟩
    exact hs'

theorem publish_ensures (capturePayload : Bool) (hs : P.Before files s)
    (hempty : (s.files P.temporary).map StagedFile.content = some []) :
    Ensures (P.publish capturePayload) s
      (fun payload s' => P.Published files s' ∧ payload.isSome = capturePayload ∧
        ∀ t ∈ payload, ∃ content, P.complete = some content ∧ decodeUtf8 content = some t)
      (fun _ => P.Before files) := by
  have hcheck := fun (call : FsCall) s (hs : P.Staged files s) => preserves_check recorded_staged call s hs
  have hbefore : ∀ (_ : PublishError) s', P.Staged files s' → P.Before files s' := fun _ _ h => h.toBefore
  rw [publish, ensures_bind]
  refine Ensures.mono (Q := fun _ s' => P.Before files s' ∧
    (s'.files P.temporary).map StagedFile.content = some []) (E := fun _ => P.Before files) ?_ ?_ fun _ _ h => h
  · refine ensures_fsCall (fun e => recorded_before s .close (some e) hs) fun a files' hact => ?_
    obtain ⟨-, rfl⟩ := Prod.mk.inj (Except.ok.inj hact)
    exact ⟨recorded_before s .close none hs, hempty⟩
  rintro _ s₁ ⟨hs₁, hempty₁⟩
  -- Up to the replacement, whatever fails, the target is as it was before.
  rw [ensures_bind, ensures_modify, ensures_bind]
  have hclosed : P.Before files { s₁ with descriptor := false } := ⟨hs₁.history, hs₁.others⟩
  refine (ensures_writeTemporary hclosed rfl hempty₁).mono (fun _ s₂ hs₂ => ?_) fun _ _ h => h
  rw [ensures_bind]
  refine (ensures_publishedMode hs₂).mono (fun mode s₃ hs₃ => ?_) fun _ _ h => h
  rw [ensures_bind]
  refine (ensures_chmod mode hs₃).mono (fun _ s₄ hs₄ => ?_) fun _ _ h => h
  rw [ensures_bind]
  refine (ensures_look recorded_staged .openStaged (fun _ => ()) hs₄).mono (fun _ s₅ hs₅ => ?_) hbefore
  rw [ensures_bind]
  refine (hcheck .fdopen s₅ hs₅.1).mono (fun _ s₆ hs₆ => ?_) hbefore
  rw [ensures_bind, ensures_withFinally]
  refine (hcheck .fsync s₆ hs₆).mono (fun _ s₇ hs₇ => ?_) fun e s₇ hs₇ =>
    (hcheck .closeStaged s₇ hs₇).mono (fun _ => hbefore e) hbefore
  refine (hcheck .closeStaged s₇ hs₇).mono (fun _ s₈ hs₈ => ?_) hbefore
  rw [ensures_bind]
  refine Ensures.mono (Q := fun payload s' => P.Staged files s' ∧ payload.isSome = capturePayload ∧
    ∀ t ∈ payload, ∃ content, P.complete = some content ∧ decodeUtf8 content = some t)
    (E := fun _ => P.Before files) ?_ ?_ fun _ _ h => h
  · rcases capturePayload with _ | _
    · exact ⟨hs₈, rfl, by simp⟩
    · exact ensures_map.2 ((ensures_stagedPayload hs₈).mono (fun t s' ⟨hs', hpayload⟩ =>
        ⟨hs', rfl, fun t' ht' => Option.some.inj ht' ▸ hpayload⟩) fun _ _ h => h)
  · -- Behind the replacement nothing is raised any more.
    rintro payload s₉ ⟨hs₉, hpayload⟩
    rw [ensures_bind]
    refine (ensures_replace hs₉).mono (fun _ s₁₀ hs₁₀ => ?_) fun _ _ h => h
    rw [ensures_bind]
    exact (ensures_fsyncParentDirectory hs₁₀).mono (fun _ _ hs₁₁ => ⟨hs₁₁, hpayload⟩) fun _ _ => False.elim

/-- The cleanup removes the staging file or leaves a failed `unlink` behind, and it raises nothing. -/
theorem ensures_cleanup (hs : P.Before files s) :
    Ensures P.cleanup s (fun _ => P.Removed files) (fun _ _ => False) := by
  refine ensures_tryCatch.2 (ensures_onStaged (fun e => ?_) fun file hfile => ?_)
  · have hremoved : P.Removed files { s with history := ⟨.unlink, some e, s.files P.baseName⟩ :: s.history } :=
      ⟨recorded_before s .unlink (some e) hs, .inr ⟨_, List.mem_cons_self, rfl, nofun⟩⟩
    rcases e with _ | _ <;> exact hremoved
  · exact ⟨hs.set none .unlink none, .inl (Function.update_self _ _ _)⟩

/-- The subtitle is not there before it is complete, a call that returns has put it there, and one that
    raises has left everything as it was, but for a staging file that it could not remove. -/
theorem publish_all_or_nothing (P : Publishing) (capturePayload : Bool) (files : Files) :
    Ensures (P.atomicPublish capturePayload) ⟨files, false, []⟩
      (fun payload s' => (∀ m ∈ s'.history, m.published = files P.baseName ∨ P.IsComplete m.published) ∧
        P.IsComplete (s'.files P.baseName) ∧ payload.isSome = capturePayload ∧
        (∀ t ∈ payload, P.complete = some (t.flatMap utf8Char)) ∧
        ∀ name ≠ P.baseName, s'.files name = files name)
      (fun _ s' => (∀ m ∈ s'.history, m.published = files P.baseName) ∧
        (s'.files = files ∨ (∀ name ≠ P.temporary, s'.files name = files name) ∧
          ∃ m ∈ s'.history, m.call = .unlink ∧ m.error ≠ none)) := by
  rw [atomicPublish, ensures_bind]
  refine (ensures_mkstemp ⟨files, false, []⟩ rfl).mono ?_ fun _ _ h => ⟨h.2, .inl h.1⟩
  rintro _ s₁ ⟨hs₁, -, hfree, hempty⟩
  rw [ensures_bind, ensures_modify, ensures_withFinally, ensures_tryCatch]
  have hbefore : P.Before files { s₁ with descriptor := true } := ⟨hs₁.history, hs₁.others⟩
  refine (publish_ensures capturePayload hbefore hempty).mono ?_ fun e s₂ hs₂ => ?_
  · rintro payload s₂ ⟨hs₂, hcapture, hpayload⟩
    rw [ensures_bind, ensures_get, if_neg (by simp [hs₂.descriptor])]
    refine ⟨hs₂.history, hs₂.published, hcapture, fun t ht => ?_, fun name hname => ?_⟩
    · obtain ⟨content, hcomplete, hdecoded⟩ := hpayload t ht
      rw [hcomplete, encode_decodeUtf8 hdecoded]
    · -- The name of the staging file was free, and is free again.
      by_cases htemporary : name = P.temporary
      · rw [htemporary]
        exact hs₂.temporary.trans hfree.symm
      · exact hs₂.others name hname htemporary
  · -- The body raised: then the cleanup removes the staging file, or fails to.
    have hend : ∀ s', P.Removed files s' → (∀ m ∈ s'.history, m.published = files P.baseName) ∧
        (s'.files = files ∨ (∀ name ≠ P.temporary, s'.files name = files name) ∧
          ∃ m ∈ s'.history, m.call = .unlink ∧ m.error ≠ none) := by
      intro s' hs'
      refine ⟨hs'.history, hs'.removed.imp (fun hnone => funext fun name => ?_) fun h => ⟨hs'.others, h⟩⟩
      by_cases htemporary : name = P.temporary
      · rw [htemporary]
        exact hnone.trans hfree.symm
      · exact hs'.others name htemporary
    rw [ensures_bind]
    refine (ensures_cleanup hs₂).mono (fun _ s₃ hs₃ => ?_) fun _ _ => False.elim
    rw [ensures_throw, ensures_bind, ensures_get, ensures_ite]
    exact ⟨fun _ => (preserves_check recorded_removed .close s₃ hs₃).mono (fun _ => hend) fun _ => hend,
      fun _ => hend s₃ hs₃⟩

end Publishing

end Subgen

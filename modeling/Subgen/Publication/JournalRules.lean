import Subgen.Publication.Transactions

/-!
# What the calls of an append do

Rules for the scripts of the journal in a directory that looks like a `Shape`. The shapes that a script
may go through are a predicate `T`; a script that raises without a call that failed is ruled out
(`RunsFrom`).

A shape is what the calls of the journal can see: the contents of the files by their names, and whether two
names are links to one file. A process may be stopped in any shape it goes through, so `T` has to hold of all of
them, also of one in which a write was cut off in the middle (`Within`). The rules are those of a program
logic, one for each call and one for each small procedure of the source, and the scripts are executed
symbolically with them.

* `runs_writeStagedFile`, `runs_publishStagedNoReplace`: a file is written, and gets its name;
* `runs_ensureTransactionBoundFile`: wherever the publication of a file was interrupted (`BoundStage`),
  it is completed.
-/

namespace Subgen

open Function

namespace FileReceiptJournal

/-- The directory looks like one of these. -/
def Within (T : Shape → Prop) (w : JournalFiles) : Prop := ∃ d, T d ∧ LooksLike w d

/-- The script goes through directories of `T`, and returns with `Q`, or raises where a call failed. -/
def RunsFrom (faulty : Prop) (T : Shape → Prop) {α : Type} (p : JournalScript α) (w : JournalFiles)
    (Q : α → JournalFiles → Prop) : Prop :=
  Script.Meets (crashing faulty) (fun _ w' => Within T w') Q (fun _ w' => faulty ∧ Within T w') p w

section Rules

variable {faulty : Prop} {T : Shape → Prop} {α β : Type} {w w' : JournalFiles}

theorem runs_pure {Q : α → JournalFiles → Prop} {a : α} (h : Q a w) : RunsFrom faulty T (pure a) w Q := h

theorem runs_throw {Q : α → JournalFiles → Prop} {e : JournalError} (hfaulty : faulty) (h : Within T w) :
    RunsFrom faulty T (throw e : JournalScript α) w Q := ⟨hfaulty, h⟩

theorem RunsFrom.bind {p : JournalScript α} {f : α → JournalScript β} {Q : α → JournalFiles → Prop}
    {Q' : β → JournalFiles → Prop} (h : RunsFrom faulty T p w Q)
    (hf : ∀ a w', Q a w' → RunsFrom faulty T (f a) w' Q') : RunsFrom faulty T (p >>= f) w Q' :=
  Script.meets_bind.2 (h.mono hf fun _ _ h => h)

theorem RunsFrom.mono {p : JournalScript α} {Q Q' : α → JournalFiles → Prop} (h : RunsFrom faulty T p w Q)
    (hQ : ∀ a w', Q a w' → Q' a w') : RunsFrom faulty T p w Q' := Script.Meets.mono h hQ fun _ _ h => h

theorem runs_lift {Q : α → JournalFiles → Prop} {x : Except LoadError α} {a : α} (hx : x = .ok a) (h : Q a w) :
    RunsFrom faulty T (lift x) w Q := by
  rw [hx]
  exact h

/-- A call with what it does, and what it leaves when it fails. -/
theorem runs_ask {o : JournalCall} {Q : o.Answer → JournalFiles → Prop}
    (hrun : Within T (w.run o).2 ∧ Q (w.run o).1 (w.run o).2)
    (hfails : faulty → ∀ w', Interrupted w o w' → Within T w' ∧ Q (.error .other) w') :
    RunsFrom faulty T (Script.ask o) w Q := by
  intro w₁ r w₂ hothers hanswers
  obtain rfl : w₁ = w := by
    rcases hothers.cases_tail with heq | ⟨_, _, hother⟩
    · exact heq
    · exact hother.elim
  rcases hanswers with heq | ⟨hfaulty, rfl, hinterrupted⟩
  · rw [heq] at hrun
    exact hrun
  · exact hfails hfaulty _ hinterrupted

/-- A call that answers as it should does so, unless it fails. -/
theorem runs_ask_run {o : JournalCall} {a : o.Reply} (ho : ∀ name payload, o ≠ .write name payload)
    (hrun : w.run o = (.ok a, w')) (hT : Within T w) (hT' : Within T w') : RunsFrom faulty T (Script.ask o) w
      fun r w'' => r = .ok a ∧ w'' = w' ∨ faulty ∧ r = .error .other ∧ Within T w'' := by
  refine runs_ask ?_ fun hfaulty w'' hinterrupted => ?_
  · rw [hrun]
    exact ⟨hT', .inl ⟨rfl, rfl⟩⟩
  · rw [hinterrupted.eq ho]
    exact ⟨hT, .inr ⟨hfaulty, rfl, hT⟩⟩

theorem runs_guarded {code : String} {o : JournalCall} {Q : o.Reply → JournalFiles → Prop} {a : o.Reply}
    (ho : ∀ name payload, o ≠ .write name payload) (hrun : w.run o = (.ok a, w')) (hT : Within T w)
    (hT' : Within T w') (h : Q a w') : RunsFrom faulty T (guarded code o) w Q := by
  refine (runs_ask_run ho hrun hT hT').bind ?_
  rintro _ _ (⟨rfl, rfl⟩ | ⟨hfaulty, rfl, hT⟩)
  · exact runs_pure h
  · exact runs_throw hfaulty hT

theorem runs_guardedExists {existsCode code : String} {o : JournalCall} {Q : o.Reply → JournalFiles → Prop}
    {a : o.Reply} (ho : ∀ name payload, o ≠ .write name payload) (hrun : w.run o = (.ok a, w'))
    (hT : Within T w) (hT' : Within T w') (h : Q a w') : RunsFrom faulty T (guardedExists existsCode code o) w Q := by
  refine (runs_ask_run ho hrun hT hT').bind ?_
  rintro _ _ (⟨rfl, rfl⟩ | ⟨hfaulty, rfl, hT⟩)
  · exact runs_pure h
  · exact runs_throw hfaulty hT

theorem runs_attempt {o : JournalCall} {Q : o.Reply → JournalFiles → Prop} {a : o.Reply}
    (ho : ∀ name payload, o ≠ .write name payload) (hrun : w.run o = (.ok a, w')) (hT : Within T w)
    (hT' : Within T w') (h : Q a w') : RunsFrom faulty T (attempt o) w Q := by
  refine (runs_ask_run ho hrun hT hT').bind ?_
  rintro _ _ (⟨rfl, rfl⟩ | ⟨hfaulty, rfl, hT⟩)
  · exact runs_pure h
  · exact runs_throw hfaulty hT

/-- A call that changes nothing. -/
theorem runs_guarded_same {code : String} {o : JournalCall} {f : o.Reply → JournalScript β}
    {Q : β → JournalFiles → Prop} {a : o.Reply} (ho : ∀ name payload, o ≠ .write name payload)
    (hrun : w.run o = (.ok a, w)) (hT : Within T w) (h : RunsFrom faulty T (f a) w Q) :
    RunsFrom faulty T (guarded code o >>= f) w Q := by
  refine (runs_guarded (Q := fun b w' => b = a ∧ w' = w) ho hrun hT hT ⟨rfl, rfl⟩).bind ?_
  rintro _ _ ⟨rfl, rfl⟩
  exact h

/-! ## Files that are looked at -/

variable {files : JournalName → Option (List ℕ)} {pair : Option (JournalName × JournalName)}
  {a b : JournalName} {x : List ℕ}

theorem runs_look {code : String} {f : Option (ℕ × Inode) → JournalScript β} {Q : β → JournalFiles → Prop}
    (found : Option (ℕ × Inode))
    (hrun : w.run (.lstat a) = (found.elim (.error .notFound) .ok, w)) (hT : Within T w)
    (h : RunsFrom faulty T (f found) w Q) : RunsFrom faulty T (look code a >>= f) w Q := by
  have hlook : RunsFrom faulty T (look code a) w fun r w' => r = found ∧ w' = w := by
    refine RunsFrom.bind (Q := fun r w' => r = found.elim (.error .notFound) .ok ∧ w' = w ∨
      faulty ∧ r = .error .other ∧ w' = w) ?_ ?_
    · refine runs_ask ?_ fun hfaulty w'' hinterrupted => ?_
      · rw [hrun]
        exact ⟨hT, .inl ⟨rfl, rfl⟩⟩
      · rw [hinterrupted.eq (by rintro _ _ ⟨⟩)]
        exact ⟨hT, .inr ⟨hfaulty, rfl, rfl⟩⟩
    · rintro _ _ (⟨rfl, rfl⟩ | ⟨hfaulty, rfl, rfl⟩)
      · cases found with
        | none => exact runs_pure ⟨rfl, rfl⟩
        | some found => exact runs_pure ⟨rfl, rfl⟩
      · exact runs_throw hfaulty hT
  refine hlook.bind ?_
  rintro _ _ ⟨rfl, rfl⟩
  exact h

theorem runs_readOwner {invalidCode aliasCode : String} {f : List ℕ → JournalScript β} {Q : β → JournalFiles → Prop}
    (hw : LooksLike w ⟨files, pair⟩) (hlinks : (⟨files, pair⟩ : Shape).links a = 1) (ha : files a = some x)
    (hT : Within T w) (h : RunsFrom faulty T (f x) w Q) :
    RunsFrom faulty T (readOwner invalidCode aliasCode a >>= f) w Q := by
  have hread := hw.read ha
  rw [hlinks] at hread
  rw [readOwner, Script.bind_bind]
  refine runs_guarded_same (by rintro _ _ ⟨⟩) hread hT ?_
  refine (runs_lift (Q := fun y w' => y = x ∧ w' = w) (a := x) ?_ ⟨rfl, rfl⟩).bind ?_
  · simp [readOwnerFile, JournalFiles.ownFile, blockIf]
    rfl
  · rintro _ _ ⟨rfl, rfl⟩
    exact h

/-- A file that may be missing, of one name. -/
theorem runs_readOptional {invalidCode aliasCode : String} {f : Option (List ℕ) → JournalScript β}
    {Q : β → JournalFiles → Prop} (hw : LooksLike w ⟨files, pair⟩) (hlinks : (⟨files, pair⟩ : Shape).links a = 1)
    (hT : Within T w) (h : RunsFrom faulty T (f (files a)) w Q) :
    RunsFrom faulty T (readOptional invalidCode aliasCode a >>= f) w Q := by
  rw [readOptional, Script.bind_bind]
  cases ha : files a with
  | none =>
    rw [ha] at h
    exact runs_look none (hw.lstat_none ha) hT h
  | some x =>
    rw [ha] at h
    obtain ⟨i, _, hlstat⟩ := hw.lstat_some ha
    refine runs_look (some _) hlstat hT ?_
    dsimp only
    rw [Script.bind_bind]
    exact runs_readOwner hw hlinks ha hT h

theorem runs_readControl {f : Option (List ℕ) → JournalScript β} {Q : β → JournalFiles → Prop}
    (hw : LooksLike w ⟨files, pair⟩) (hlinks : (⟨files, pair⟩ : Shape).links a = 1) (hT : Within T w)
    (h : RunsFrom faulty T (f (files a)) w Q) : RunsFrom faulty T (readControl a >>= f) w Q :=
  runs_readOptional hw hlinks hT h

theorem runs_blockIf {p : Prop} [Decidable p] {code : String} {f : Unit → JournalScript β}
    {Q : β → JournalFiles → Prop} (hp : ¬ p) (h : RunsFrom faulty T (f ()) w Q) :
    RunsFrom faulty T (lift (blockIf p code) >>= f) w Q := by
  rw [blockIf, if_neg hp]
  exact h

theorem runs_if_pos {p : Prop} [Decidable p] {x y : JournalScript β} {Q : β → JournalFiles → Prop} (hp : p)
    (h : RunsFrom faulty T x w Q) : RunsFrom faulty T (if p then x else y) w Q := by
  rwa [if_pos hp]

theorem runs_if_neg {p : Prop} [Decidable p] {x y : JournalScript β} {Q : β → JournalFiles → Prop} (hp : ¬ p)
    (h : RunsFrom faulty T y w Q) : RunsFrom faulty T (if p then x else y) w Q := by
  rwa [if_neg hp]

/-! ## Files that are written and published -/

theorem runs_unlinkFile {code : String} (hw : LooksLike w ⟨files, none⟩) (ha : files a = some x)
    (hT : T ⟨files, none⟩) (hT' : T ⟨update files a none, none⟩) :
    RunsFrom faulty T (unlinkFile a code) w fun _ w' => LooksLike w' ⟨update files a none, none⟩ := by
  obtain ⟨w', hrun, hw'⟩ := hw.unlink ha
  refine (runs_guarded (Q := fun _ w'' => w'' = w') (by rintro _ _ ⟨⟩) hrun ⟨_, hT, hw⟩ ⟨_, hT', hw'⟩ rfl).bind ?_
  rintro _ _ rfl
  exact runs_guarded (by rintro _ _ ⟨⟩) rfl ⟨_, hT', hw'⟩ ⟨_, hT', hw'⟩ hw'

/-- Any beginning of the payload may be left behind. -/
theorem runs_write {code : String} (hw : LooksLike w ⟨files, none⟩) (ha : files a = some [])
    (hT : ∀ y, y <+: x → T ⟨update files a (some y), none⟩) :
    RunsFrom faulty T (guarded code (.write a x)) w fun _ w' => LooksLike w' ⟨update files a (some x), none⟩ := by
  have hwritten : ∀ y, y <+: x → ∃ w', w.run (.write a y) = (.ok (), w') ∧
      LooksLike w' ⟨update files a (some y), none⟩ := fun y _ => hw.write ha y
  obtain ⟨w', hrun, hw'⟩ := hwritten x List.prefix_rfl
  have hbefore : Within T w := ⟨_, hT [] List.nil_prefix, by rwa [← ha, update_eq_self]⟩
  refine RunsFrom.bind (Q := fun r w'' => r = .ok () ∧ w'' = w' ∨ faulty ∧ r = .error .other ∧ Within T w'') ?_ ?_
  · refine runs_ask ?_ fun hfaulty w'' hinterrupted => ?_
    · rw [hrun]
      exact ⟨⟨_, hT x List.prefix_rfl, hw'⟩, .inl ⟨rfl, rfl⟩⟩
    · have hwithin : Within T w'' := by
        cases hinterrupted with
        | before => exact hbefore
        | within _ hbegins =>
          obtain ⟨w'', hrun, hw''⟩ := hwritten _ hbegins
          rw [hrun]
          exact ⟨_, hT _ hbegins, hw''⟩
      exact ⟨hwithin, .inr ⟨hfaulty, rfl, hwithin⟩⟩
  · rintro _ _ (⟨rfl, rfl⟩ | ⟨hfaulty, rfl, hwithin⟩)
    · exact runs_pure hw'
    · exact runs_throw hfaulty hwithin

theorem runs_writeStagedFile {collisionCode writeCode changedCode : String} (hw : LooksLike w ⟨files, none⟩)
    (ha : files a = none) (hT₀ : T ⟨files, none⟩) (hT : ∀ y, y <+: x → T ⟨update files a (some y), none⟩) :
    RunsFrom faulty T (writeStagedFile a x collisionCode writeCode changedCode) w
      fun _ w' => LooksLike w' ⟨update files a (some x), none⟩ := by
  obtain ⟨w₁, hcreate, hw₁⟩ := hw.create ha
  have hT₁ : Within T w₁ := ⟨_, hT [] List.nil_prefix, hw₁⟩
  refine (runs_guardedExists (Q := fun _ w' => w' = w₁) (by rintro _ _ ⟨⟩) hcreate ⟨_, hT₀, hw⟩ hT₁ rfl).bind ?_
  rintro _ w₁ rfl
  refine runs_guarded_same (by rintro _ _ ⟨⟩) rfl hT₁ ?_
  have hwrite : RunsFrom faulty T (guarded writeCode (.write a x)) w₁
      fun _ w' => LooksLike w' ⟨update (update files a (some [])) a (some x), none⟩ :=
    runs_write hw₁ (update_self ..) fun y hy => by rw [update_idem]; exact hT y hy
  refine hwrite.bind fun _ w₂ hw₂ => ?_
  rw [update_idem] at hw₂
  have hT₂ : Within T w₂ := ⟨_, hT x List.prefix_rfl, hw₂⟩
  obtain ⟨i, _, hlstat⟩ := hw₂.lstat_some (update_self ..)
  rw [LooksLike.links_none] at hlstat
  refine runs_guarded_same (by rintro _ _ ⟨⟩) rfl hT₂ ?_
  refine runs_guarded_same (by rintro _ _ ⟨⟩) hlstat hT₂ ?_
  refine runs_guarded_same (by rintro _ _ ⟨⟩) hlstat hT₂ ?_
  refine runs_blockIf (by simp [JournalFiles.ownFile]) ?_
  exact runs_guarded (by rintro _ _ ⟨⟩) rfl hT₂ hT₂ hw₂

/-- How far the publication of a file may be. -/
inductive BoundStage (files : JournalName → Option (List ℕ)) (a b : JournalName) (x : List ℕ) : Shape → Prop
  | absent : BoundStage files a b x ⟨files, none⟩
  | staged (y : List ℕ) (h : y <+: x) : BoundStage files a b x ⟨update files a (some y), none⟩
  | linked : BoundStage files a b x ⟨update (update files a (some x)) b (some x), some (a, b)⟩
  | published : BoundStage files a b x ⟨update files b (some x), none⟩

theorem update_published (ha : files a = none) (hab : a ≠ b) (x : List ℕ) :
    update (update (update files a (some x)) b (some x)) a none = update files b (some x) := by
  rw [update_comm hab, update_idem, update_comm hab.symm, ← ha, update_eq_self]

theorem update_unstaged (ha : files a = none) (y : List ℕ) : update (update files a (some y)) a none = files := by
  rw [update_idem, ← ha, update_eq_self]

theorem runs_publishStagedNoReplace {collisionCode writeCode : String}
    (hw : LooksLike w ⟨update files a (some x), none⟩) (ha : files a = none) (hb : files b = none) (hab : a ≠ b)
    (hT : ∀ d, BoundStage files a b x d → T d) :
    RunsFrom faulty T (publishStagedNoReplace a b collisionCode writeCode) w
      fun _ w' => LooksLike w' ⟨update files b (some x), none⟩ := by
  obtain ⟨w₁, hlink, hw₁⟩ := hw.link (update_self ..) (by rwa [update_of_ne hab.symm])
  obtain ⟨w₂, hunlink, hw₂⟩ := hw₁.unlink_twins
  rw [update_published ha hab] at hw₂
  have hT₀ : Within T w := ⟨_, hT _ (.staged x List.prefix_rfl), hw⟩
  have hT₁ : Within T w₁ := ⟨_, hT _ .linked, hw₁⟩
  have hT₂ : Within T w₂ := ⟨_, hT _ .published, hw₂⟩
  refine (runs_guardedExists (Q := fun _ w' => w' = w₁) (by rintro _ _ ⟨⟩) hlink hT₀ hT₁ rfl).bind ?_
  rintro _ _ rfl
  refine runs_guarded_same (by rintro _ _ ⟨⟩) rfl hT₁ ?_
  refine (runs_guarded (Q := fun _ w' => w' = w₂) (by rintro _ _ ⟨⟩) hunlink hT₁ hT₂ rfl).bind ?_
  rintro _ _ rfl
  exact runs_guarded (by rintro _ _ ⟨⟩) rfl hT₂ hT₂ hw₂

/-- Nothing is done where one of the names is missing. -/
theorem runs_completeLinkPublication_same {mismatchCode writeCode : String} {f : Unit → JournalScript β}
    {Q : β → JournalFiles → Prop} (hw : LooksLike w ⟨files, pair⟩) (hmissing : files a = none ∨ files b = none)
    (hT : Within T w) (h : RunsFrom faulty T (f ()) w Q) :
    RunsFrom faulty T (completeLinkPublication a b mismatchCode writeCode >>= f) w Q := by
  rw [completeLinkPublication, Script.bind_bind]
  cases ha : files a with
  | none => exact runs_look none (hw.lstat_none ha) hT h
  | some x =>
    have hb := hmissing.resolve_left (by rw [ha]; exact Option.some_ne_none x)
    obtain ⟨i, _, hlstat⟩ := hw.lstat_some ha
    refine runs_look (some _) hlstat hT ?_
    dsimp only
    rw [Script.bind_bind]
    exact runs_look none (hw.lstat_none hb) hT h

theorem runs_completeLinkPublication_linked {mismatchCode writeCode : String}
    (hw : LooksLike w ⟨update (update files a (some x)) b (some x), some (a, b)⟩) (ha : files a = none) (hab : a ≠ b)
    (hlinked : T ⟨update (update files a (some x)) b (some x), some (a, b)⟩)
    (hpublished : T ⟨update files b (some x), none⟩) :
    RunsFrom faulty T (completeLinkPublication a b mismatchCode writeCode) w
      fun _ w' => LooksLike w' ⟨update files b (some x), none⟩ := by
  have hwithin : Within T w := ⟨_, hlinked, hw⟩
  obtain ⟨i, hentry, hlstat⟩ := hw.lstat_some (a := a) (x := x) (by rw [update_of_ne hab, update_self])
  obtain ⟨j, hentry', hlstat'⟩ := hw.lstat_some (a := b) (x := x) (update_self ..)
  obtain ⟨w', hunlink, hw'⟩ := hw.unlink_twins
  rw [update_published ha hab] at hw'
  have hwithin' : Within T w' := ⟨_, hpublished, hw'⟩
  rw [LooksLike.links_some, if_pos (.inl rfl)] at hlstat
  rw [LooksLike.links_some, if_pos (.inr rfl)] at hlstat'
  refine runs_look (some _) hlstat hwithin (runs_look (some _) hlstat' hwithin (runs_blockIf ?_ ?_))
  · obtain ⟨_, k, hk, hk'⟩ := hw.twins a b rfl
    obtain rfl := Option.some.inj (hentry.symm.trans hk)
    obtain rfl := Option.some.inj (hentry'.symm.trans hk')
    simp [JournalFiles.ownFile]
  · refine (runs_guarded (Q := fun _ w'' => w'' = w') (by rintro _ _ ⟨⟩) hunlink hwithin hwithin' rfl).bind ?_
    rintro _ _ rfl
    exact runs_guarded (by rintro _ _ ⟨⟩) rfl hwithin' hwithin' hw'

/-- The file has one name afterwards. -/
theorem runs_completeLinkPublication {mismatchCode writeCode : String} {d : Shape} (hw : LooksLike w d)
    (hd : BoundStage files a b x d) (ha : files a = none) (hb : files b = none) (hab : a ≠ b)
    (hT : ∀ d, BoundStage files a b x d → T d) :
    RunsFrom faulty T (completeLinkPublication a b mismatchCode writeCode) w
      fun _ w' => ∃ d', BoundStage files a b x d' ∧ d'.twins = none ∧ LooksLike w' d' := by
  have hwithin : Within T w := ⟨d, hT d hd, hw⟩
  rw [← Script.bind_pure (completeLinkPublication a b mismatchCode writeCode)]
  cases hd with
  | absent => exact runs_completeLinkPublication_same hw (.inl ha) hwithin ⟨_, .absent, rfl, hw⟩
  | published =>
    exact runs_completeLinkPublication_same hw (.inl (by rwa [update_of_ne hab])) hwithin ⟨_, .published, rfl, hw⟩
  | staged y hy =>
    refine runs_completeLinkPublication_same hw (.inr ?_) hwithin ⟨_, .staged y hy, rfl, hw⟩
    rwa [update_of_ne hab.symm]
  | linked =>
    exact (runs_completeLinkPublication_linked hw ha hab (hT _ .linked) (hT _ .published)).bind fun _ w' hw' => ⟨_, .published, rfl, hw'⟩

theorem partly_beginning {y : List ℕ} (h : y <+: x) : partly y x = true := by
  rw [partly, Bool.or_eq_true, decide_eq_true_eq, Bool.and_eq_true, decide_eq_true_eq, List.isPrefixOf_iff_prefix]
  rcases h.length_le.lt_or_eq with hlt | heq
  · exact .inr ⟨hlt, h⟩
  · exact .inl (h.eq_of_length heq)

/-- Nothing is done where the file is published. -/
theorem runs_ensureTransactionBoundFile_same {codes : PublicationCodes} (hw : LooksLike w ⟨files, pair⟩)
    (ha : files a = none) (hb : files b = some x) (hlinks : (⟨files, pair⟩ : Shape).links b = 1)
    (hlinks' : (⟨files, pair⟩ : Shape).links a = 1) (hT : Within T w) :
    RunsFrom faulty T (ensureTransactionBoundFile a b x codes) w fun _ w' => w' = w := by
  refine runs_completeLinkPublication_same hw (.inl ha) hT ?_
  refine runs_readOptional hw hlinks' hT (runs_readOptional hw hlinks hT ?_)
  rw [ha, hb]
  refine runs_blockIf (by simp) ?_
  rw [if_pos rfl]
  exact runs_pure rfl

/-- Other files are what they were. -/
theorem BoundStage.other {d : Shape} (hd : BoundStage files a b x d) (name : JournalName) (ha : name ≠ a)
    (hb : name ≠ b) : d.files name = files name ∧ d.links name = 1 := by
  cases hd with
  | absent => exact ⟨rfl, LooksLike.links_none _⟩
  | staged y => exact ⟨update_of_ne ha .., LooksLike.links_none _⟩
  | linked =>
    refine ⟨?_, ?_⟩
    · dsimp only
      rw [update_of_ne hb, update_of_ne ha]
    · rw [LooksLike.links_some, if_neg (not_or.2 ⟨ha, hb⟩)]
  | published => exact ⟨update_of_ne hb .., LooksLike.links_none _⟩

/-- Wherever the publication was interrupted, it is completed. -/
theorem runs_ensureTransactionBoundFile {codes : PublicationCodes} {d : Shape} (hw : LooksLike w d)
    (hd : BoundStage files a b x d) (ha : files a = none) (hb : files b = none) (hab : a ≠ b)
    (hT : ∀ d, BoundStage files a b x d → T d) :
    RunsFrom faulty T (ensureTransactionBoundFile a b x codes) w
      fun _ w' => LooksLike w' ⟨update files b (some x), none⟩ := by
  refine (runs_completeLinkPublication hw hd ha hb hab hT).bind ?_
  rintro _ w' ⟨d', hd', htwins, hw'⟩
  have hwithin : Within T w' := ⟨d', hT d' hd', hw'⟩
  -- What is left to do, once the file stands under its staged name.
  have hpublish : ∀ w'', LooksLike w'' ⟨update files a (some x), none⟩ → RunsFrom faulty T (do
      publishStagedNoReplace a b codes.collision codes.write
      let published ← readOptional codes.write codes.changed b
      lift (blockIf (published ≠ some x) codes.mismatch)) w''
        fun _ w' => LooksLike w' ⟨update files b (some x), none⟩ := by
    intro w'' hw''
    refine (runs_publishStagedNoReplace hw'' ha hb hab hT).bind fun _ w₃ hw₃ => ?_
    refine runs_readOptional hw₃ (LooksLike.links_none _) ⟨_, hT _ .published, hw₃⟩ ?_
    rw [update_self]
    exact runs_lift (a := ()) (by simp [blockIf]) hw₃
  have hwrite : ∀ w'', LooksLike w'' ⟨files, none⟩ → RunsFrom faulty T
      (writeStagedFile a x codes.collision codes.write codes.changed) w''
        fun _ w' => LooksLike w' ⟨update files a (some x), none⟩ :=
    fun w'' hw'' => runs_writeStagedFile hw'' ha (hT _ .absent) fun y hy => hT _ (.staged y hy)
  cases hd' with
  | absent =>
    refine runs_readOptional hw' (LooksLike.links_none _) hwithin ?_
    refine runs_readOptional hw' (LooksLike.links_none _) hwithin ?_
    rw [ha, hb]
    refine runs_blockIf (by simp) ?_
    rw [if_neg (by simp)]
    exact (hwrite w' hw').bind fun _ => hpublish
  | published =>
    refine runs_readOptional hw' (LooksLike.links_none _) hwithin ?_
    refine runs_readOptional hw' (LooksLike.links_none _) hwithin ?_
    rw [update_of_ne hab, update_self, ha]
    refine runs_blockIf (by simp) ?_
    rw [if_pos rfl]
    exact runs_pure hw'
  | staged y hy =>
    refine runs_readOptional hw' (LooksLike.links_none _) hwithin ?_
    refine runs_readOptional hw' (LooksLike.links_none _) hwithin ?_
    rw [update_self, update_of_ne hab.symm, hb]
    refine runs_blockIf (by simp) ?_
    rw [if_neg (by simp)]
    dsimp only [publishBoundFile]
    by_cases hyx : y = x
    · rw [if_pos hyx]
      exact hpublish w' (hyx ▸ hw')
    · rw [if_neg hyx]
      refine runs_blockIf (by simp [partly_beginning hy]) ?_
      have hunlink : RunsFrom faulty T (unlinkFile a codes.write) w'
          fun _ w'' => LooksLike w'' ⟨update (update files a (some y)) a none, none⟩ :=
        runs_unlinkFile hw' (update_self ..) (hT _ (.staged y hy)) (by rw [update_unstaged ha]; exact hT _ .absent)
      refine hunlink.bind fun _ w'' hw'' => ?_
      rw [update_unstaged ha] at hw''
      exact (hwrite w'' hw'').bind fun _ => hpublish
  | linked => cases htwins

end Rules

end FileReceiptJournal

end Subgen

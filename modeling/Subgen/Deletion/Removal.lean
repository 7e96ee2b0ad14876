import Subgen.Deletion.Phases

/-!
# Reported deletions

A deletion that is reported has taken place, as long as no other process is concerned with the file
(`deletion_removes`): wherever the runs before were stopped and whatever failed in them, where a run
returns, nothing of the directory leads to the file any more.

The exception is a run that is stopped, or whose call fails, while a file that was put back at the leaf
is in the quarantine still (`LinkedTwice`). The next run then finds a candidate that is the expected
file, unlinks it, and returns, and the file is at the leaf (the example at the end, `stoppedInRestore`).

As in the other results about deletions, each phase has a meaning (`RemovalMeans`), and each call leads from
one to the next (`removal_calls`). Between two runs a directory is intact (`Intact`): the leaf is empty
as soon as the file is in the quarantine, or a tombstone is.

* `removal_fails`, `removal_calls`: what a call does that fails, and one that does not;
* `keeps_intact`: every step keeps the directory intact, but for the exception;
* `deletion_removes`: the result, over all runs.
-/

namespace Subgen

open Relation MediaDirectory

namespace MediaDirectory

/-- A file is at the leaf and in the quarantine. -/
def LinkedTwice (w : MediaDirectory) : Prop := w.leaf.isSome = true ∧ w.candidate = w.leaf

instance (w : MediaDirectory) : Decidable w.LinkedTwice := inferInstanceAs (Decidable (_ ∧ _))

/-- The tombstone of the active quarantine. -/
def tombstone (w : MediaDirectory) : Option (Bool × ℤ) := w.active.bind (·.tombstone)

/-- Nothing is in the active quarantine. -/
structure Vacant (w : MediaDirectory) : Prop where
  completed : w.completed = none
  candidate : w.candidate = none
  tombstone : w.tombstone = none

/-- Between two calls, except where a file is linked twice: the leaf is empty as soon as the file is in
    the quarantine or a tombstone is. -/
structure Intact (w : MediaDirectory) : Prop where
  leaf : w.leaf = none ∨ w.Vacant
  completed : w.completed.bind (·.candidate) = none
  active : w.completed.isSome = true → w.active = none

/-- Nothing leads to the file. -/
structure Gone (w : MediaDirectory) : Prop where
  leaf : w.leaf = none
  candidate : w.candidate = none
  completed : w.completed.bind (·.candidate) = none
  active : w.completed.isSome = true → w.active = none

theorem Vacant.intact {w : MediaDirectory} (h : w.Vacant) : w.Intact :=
  ⟨.inr h, by rw [h.completed]; rfl, fun hsome => absurd hsome (by rw [h.completed]; exact Bool.false_ne_true)⟩

theorem Gone.intact {w : MediaDirectory} (h : w.Gone) : w.Intact := ⟨.inl h.leaf, h.completed, h.active⟩

theorem Gone.not_hasEntry {w : MediaDirectory} (h : w.Gone) (f : ℕ) : ¬ w.HasEntry f := by
  rintro (hf | hf | hf)
  · cases h.leaf.symm.trans hf
  · cases h.candidate.symm.trans hf
  · cases h.completed.symm.trans hf

theorem intact_of_completed {w : MediaDirectory} (hleaf : w.leaf = none) (hcompleted : w.completed = none) :
    w.Intact :=
  ⟨.inl hleaf, by rw [hcompleted]; rfl, fun hsome => absurd hsome (by rw [hcompleted]; exact Bool.false_ne_true)⟩

theorem gone_of_completed {w : MediaDirectory} (hleaf : w.leaf = none) (hcandidate : w.candidate = none)
    (hcompleted : w.completed = none) : w.Gone :=
  ⟨hleaf, hcandidate, (intact_of_completed hleaf hcompleted).completed,
    (intact_of_completed hleaf hcompleted).active⟩

end MediaDirectory

/-- Calls may fail, and a deletion may be stopped, except where a file is linked twice. -/
def alone (files : ℕ → FileInfo) : Setting MediaDirectory FileCall FileCall.Answer where
  answers w o r w' := ∃ x : Chance, (x.fault = true → ¬ w.LinkedTwice) ∧ w.perform files x o = (r, w')
  others _ _ := False
  stops w w' := w' = w ∧ ¬ w.LinkedTwice

namespace Deletion

section Removal

variable {files : ℕ → FileInfo} {expected : Option FileIdentity} {w w' : MediaDirectory}

/-- What the phases mean for the directory. -/
def RemovalMeans (files : ℕ → FileInfo) : DeletePhase → MediaDirectory → Prop
  | .closed, w => w.Intact
  | .unavailable, w => w.Intact
  | .finished, w => w.Intact ∧ w.completed.isSome = true
  | .cleared, w => w.Intact ∧ w.completed.isSome = true
  | .recovered, w => w.Gone
  | .fresh, w => w.Intact ∧ w.completed = none
  | .missing, w => w.Intact ∧ w.completed = none
  | .opened, w => w.Intact ∧ w.completed = none
  | .absent, w => w.Intact ∧ w.completed = none ∧ w.candidate = none
  | .marked, w => w.leaf = none ∧ w.completed = none ∧ w.candidate = none
  | .vacant, w => w.Vacant
  | .seenLeaf _, w => w.Vacant
  | .moved _, w => w.leaf = none ∧ w.completed = none ∧ w.tombstone = none
  | .seen _ _, w => w.leaf = none ∧ w.completed = none ∧ w.tombstone = none
  | .present, w => w.leaf = none ∧ w.completed = none
  | .resumed _ _, w => w.leaf = none ∧ w.completed = none
  | .linked, w => (w.completed = none ∧ w.tombstone = none) ∧
      ∃ f, w.leaf = some f ∧ w.candidate = some f ∧ (files f).kind ≠ .directory
  | .stuck, _ => False
  | .restored, w => w.Vacant
  | .prepared _, w => w.leaf = none ∧ w.completed = none
  | .erased, w => w.Gone ∧ w.completed = none
  | .deleted, w => w.Gone ∧ w.completed = none
  | .renamed, w => w.Gone ∧ w.active = none
  | .wrong, _ => False

theorem RemovalMeans.intact {φ : DeletePhase} (h : RemovalMeans files φ w) (hφ : φ ≠ .linked) : w.Intact := by
  cases φ with
  | closed | unavailable => exact h
  | finished | cleared | fresh | missing | opened | absent => exact h.1
  | recovered => exact Gone.intact h
  | marked | moved | seen => exact intact_of_completed h.1 h.2.1
  | vacant | seenLeaf | restored => exact Vacant.intact h
  | present | resumed | prepared => exact intact_of_completed h.1 h.2
  | erased | deleted | renamed => exact h.1.intact
  | linked => exact absurd rfl hφ
  | stuck | wrong => exact h.elim

theorem RemovalMeans.intact_or_linked {φ : DeletePhase} (h : RemovalMeans files φ w) :
    w.Intact ∨ w.LinkedTwice := by
  by_cases hφ : φ = .linked
  · subst hφ
    obtain ⟨_, f, hleaf, hcandidate, _⟩ := h
    exact .inr ⟨by rw [hleaf]; rfl, hcandidate.trans hleaf.symm⟩
  · exact .inl (h.intact hφ)

/-- A run that returns has removed the file. -/
theorem RemovalMeans.gone {φ : DeletePhase} (h : RemovalMeans files φ w) (hφ : φ.returns = true) : w.Gone := by
  cases φ with
  | recovered => exact h
  | deleted | renamed => exact h.1
  | _ => cases hφ

/-- Nothing fails where a file is linked twice. -/
theorem linked_answers {x : Chance} {o : FileCall} {e : FileError} (h : RemovalMeans files .linked w)
    (hfault : x.fault = true → ¬ w.LinkedTwice) (hx : w.perform files x o = (.error e, w'))
    (hnext : DeletePhase.next expected .linked o (.error e) ≠ .wrong) : False := by
  obtain ⟨_, f, hleaf, hcandidate, hkind⟩ := h
  have hcalm : ¬ x.fault = true := fun hf => hfault hf ⟨by rw [hleaf]; rfl, hcandidate.trans hleaf.symm⟩
  rw [perform, if_neg hcalm] at hx
  cases o with
  | act a =>
    cases a with
    | unlinkCandidate => simp [run, runAct, hcandidate, hkind] at hx
    | close => cases hx
    | find name => rcases name with _ | ⟨_ | _⟩ | ⟨_ | _⟩ <;> exact hnext rfl
    | openDirectory name => cases name <;> exact hnext rfl
    | _ => exact hnext rfl
  | stat place => cases place <;> exact hnext rfl
  | fstat name | listdir name => cases name <;> exact hnext rfl
  | statTombstone => exact hnext rfl

theorem removal_fails {φ : DeletePhase} {o : FileCall} {e : FileError}
    (hfind : ∀ name, o ≠ .act (.find name)) (h : RemovalMeans files φ w) (hφ : φ ≠ .linked)
    (hnext : φ.next expected o (.error e) ≠ .wrong) :
    RemovalMeans files (φ.next expected o (.error e)) w := by
  rcases DeletePhase.next_error hfind hnext with heq | heq | ⟨stat, rfl, heq⟩ | ⟨rfl, heq⟩ |
    ⟨e', stat, hφ', hstat, heq⟩
  · rw [heq]
    exact h
  · rcases heq with ⟨rfl, heq⟩ | ⟨rfl, heq⟩ <;> rw [heq] <;> exact h
  · rw [heq]
    exact h
  · exact absurd rfl hφ
  · rw [heq]
    rcases hφ' with rfl | rfl
    · exact ⟨h.1, h.2.1⟩
    · exact h

theorem has_tombstone : w.has (.tombstone .active) = w.tombstone.isSome := by
  rw [has, directory, tombstone]
  cases w.active <;> rfl

theorem candidate_withCandidate (w : MediaDirectory) : (w.withCandidate none).candidate = none := by
  rw [withCandidate, candidate]
  cases w.active <;> rfl

theorem tombstone_withCandidate (w : MediaDirectory) (c : Option ℕ) :
    (w.withCandidate c).tombstone = w.tombstone := by
  rw [withCandidate, tombstone, tombstone]
  cases w.active <;> rfl

/-- A candidate has left the leaf. -/
theorem removal_present (h : w.Intact) (hcompleted : w.completed = none)
    (hhas : w.has (.candidate .active) = true) : w.leaf = none ∧ w.completed = none := by
  refine ⟨h.leaf.resolve_right fun hvacant => ?_, hcompleted⟩
  rw [has_candidate, hvacant.candidate] at hhas
  cases hhas

/-- So has what there is a tombstone of. -/
theorem removal_marked (h : w.Intact) (hcompleted : w.completed = none) (hcandidate : w.candidate = none)
    (hhas : w.has (.tombstone .active) = true) :
    w.leaf = none ∧ w.completed = none ∧ w.candidate = none := by
  refine ⟨h.leaf.resolve_right fun hvacant => ?_, hcompleted, hcandidate⟩
  rw [has_tombstone, hvacant.tombstone] at hhas
  cases hhas

theorem removal_recovered (h : w.Intact) (hcompleted : w.completed.isSome = true) : w.Gone := by
  refine ⟨h.leaf.resolve_right fun hvacant => ?_, ?_, h.completed, h.active⟩
  · rw [hvacant.completed] at hcompleted
    cases hcompleted
  · rw [candidate, h.active hcompleted]
    rfl

theorem eq_none_of_misses {α : Type} {a : Option α} (h : a.isSome = false) : a = none :=
  Option.not_isSome_iff_eq_none.1 (Bool.eq_false_iff.1 h)

theorem removal_calls {φ : DeletePhase} {o : FileCall} {r : o.Answer}
    (hperforms : Performs files w o r w') (h : RemovalMeans files φ w)
    (hcalm : φ = .linked → ∀ e, r ≠ .error e) (hnext : φ.next expected o r ≠ .wrong) :
    RemovalMeans files (φ.next expected o r) w' := by
  cases hperforms with
  | fails e hfind => exact removal_fails hfind h (fun hφ => hcalm hφ e rfl) hnext
  | findFails name =>
    rcases name with _ | ⟨_ | _⟩ | ⟨_ | _⟩ <;> cases φ <;> first | exact absurd rfl hnext | exact h
  | finds hhas =>
    rename_i name
    rcases name with _ | ⟨_ | _⟩ | ⟨_ | _⟩ <;> cases φ <;>
      first
        | exact absurd rfl hnext
        | exact h
        | exact ⟨h, hhas⟩
        | exact removal_present h.1 h.2 hhas
        | exact removal_marked h.1 h.2.1 h.2.2 hhas
  | misses hmisses =>
    rename_i name
    rcases name with _ | ⟨_ | _⟩ | ⟨_ | _⟩ <;> cases φ <;>
      first
        | exact absurd rfl hnext
        | exact h
        | exact ⟨h, eq_none_of_misses hmisses⟩
        | exact ⟨h.1, h.2, eq_none_of_misses (has_candidate.symm.trans hmisses)⟩
        | exact ⟨h.2.1, h.2.2, eq_none_of_misses (has_tombstone.symm.trans hmisses)⟩
  | opensComponent => cases φ <;> first | exact absurd rfl hnext | exact h
  | opensDirectory hdirectory =>
    rename_i name
    cases name <;> cases φ <;> first | exact absurd rfl hnext | exact h
  | syncs =>
    cases φ with
    | cleared => exact removal_recovered h.1 h.2
    | marked => exact ⟨gone_of_completed h.1 h.2.2 h.2.1, h.2.1⟩
    | fresh | moved | restored | prepared | renamed | erased => exact h
    | _ => exact absurd rfl hnext
  | closes => exact h
  | statsTombstone marker =>
    cases φ <;> first | exact absurd rfl hnext | exact h
  | fstats name isPrivate => cases name <;> cases φ <;> first | exact absurd rfl hnext | exact h
  | lists name unexpected => cases name <;> cases φ <;> first | exact absurd rfl hnext | exact h
  | statsLeaf hleaf =>
    cases φ with
    | vacant => exact ⟨h.completed, h.candidate, h.tombstone⟩
    | _ => exact absurd rfl hnext
  | statsCandidate hcandidate =>
    cases φ with
    | moved e => exact h
    | present =>
      cases expected with
      | none => exact absurd rfl hnext
      | some wanted => exact h
    | _ => exact absurd rfl hnext
  | makes hactive =>
    cases φ with
    | fresh =>
      refine ⟨⟨h.1.leaf.imp id fun hvacant => ⟨hvacant.completed, rfl, rfl⟩, h.1.completed, fun hsome => ?_⟩, h.2⟩
      rw [h.2] at hsome
      cases hsome
    | _ => exact absurd rfl hnext
  | marks hactive =>
    cases φ with
    | seen e stat =>
      by_cases hstat : DeletePhase.matchesStat e stat = true
      · change RemovalMeans files (if DeletePhase.matchesStat e stat then .prepared e else .wrong) _
        rw [if_pos hstat]
        exact ⟨h.1, h.2.1⟩
      · exact absurd (if_neg hstat) hnext
    | resumed e stat =>
      by_cases hstat : DeletePhase.matchesStat e stat = true
      · change RemovalMeans files (if DeletePhase.matchesStat e stat then .prepared e else .wrong) _
        rw [if_pos hstat]
        exact h
      · exact absurd (if_neg hstat) hnext
    | _ => exact absurd rfl hnext
  | moves now hleaf hactive =>
    cases φ with
    | seenLeaf stat =>
      by_cases haccepts : DeletePhase.accepts expected stat = true
      · change RemovalMeans files (if DeletePhase.accepts expected stat then .moved stat.identity else .wrong) _
        rw [if_pos haccepts]
        exact ⟨rfl, h.completed, (tombstone_withCandidate ..).trans h.tombstone⟩
      · exact absurd (if_neg haccepts) hnext
    | _ => exact absurd rfl hnext
  | movesSame hleaf hcandidate =>
    cases φ with
    | seenLeaf stat => cases h.candidate.symm.trans hcandidate
    | _ => exact absurd rfl hnext
  | links now hcandidate hleaf hkind =>
    rename_i f
    cases φ with
    | moved e | seen e stat => exact ⟨h.2, f, rfl, hcandidate, hkind⟩
    | _ => exact absurd rfl hnext
  | unlinks now hcandidate =>
    cases φ with
    | linked => exact ⟨h.1.1, candidate_withCandidate .., (tombstone_withCandidate ..).trans h.1.2⟩
    | prepared e => exact ⟨gone_of_completed h.1 (candidate_withCandidate ..) h.2, h.2⟩
    | _ => exact absurd rfl hnext
  | unmarks hcompleted =>
    rename_i q
    cases φ with
    | recovered =>
      refine ⟨h.leaf, h.candidate, ?_, fun _ => h.active (by rw [hcompleted]; rfl)⟩
      have hnone := h.completed
      rwa [hcompleted] at hnone
    | renamed =>
      have hnone := h.1.completed
      rw [hcompleted] at hnone
      exact ⟨⟨h.1.leaf, h.1.candidate, hnone, fun _ => h.2⟩, h.2⟩
    | _ => exact absurd rfl hnext
  | renames hactive hcompleted =>
    cases φ with
    | deleted =>
      have hnone := h.1.candidate
      rw [MediaDirectory.candidate, hactive] at hnone
      exact ⟨⟨h.1.leaf, rfl, hnone, fun _ => rfl⟩, rfl⟩
    | _ => exact absurd rfl hnext
  | removes hcompleted =>
    cases φ with
    | recovered => exact gone_of_completed h.leaf h.candidate rfl
    | renamed => exact ⟨gone_of_completed h.1.leaf h.1.candidate rfl, h.2⟩
    | _ => exact absurd rfl hnext

theorem keeps_intact : Script.Keeps (alone files) (deletions expected) Intact
    (fun w => w.Intact ∨ w.LinkedTwice) (fun _ w => w.Intact ∨ w.LinkedTwice) (fun _ w => w.Gone)
    (fun _ w => w.Intact) where
  between _ h := .inl h
  starts w p hintact hstarts := by
    obtain ⟨request, hexpected, rfl⟩ := hstarts
    have hothers : ∀ φ w w', RemovalMeans files φ w → (alone files).others w w' → RemovalMeans files φ w' :=
      fun _ _ _ _ hothers => hothers.elim
    have hcalls : ∀ φ w o r w', RemovalMeans files φ w → (alone files).answers w o r w' →
        φ.next expected o r ≠ .wrong →
          (w'.Intact ∨ w'.LinkedTwice) ∧ RemovalMeans files (φ.next expected o r) w' := by
      rintro φ w o r w' h ⟨x, hfault, hx⟩ hnext
      have hcalm : φ = .linked → ∀ e, r ≠ .error e := by
        rintro rfl e rfl
        exact linked_answers h hfault hx hnext
      have hmeans := removal_calls (performs_of_perform hx) h hcalm hnext
      exact ⟨hmeans.intact_or_linked, hmeans⟩
    refine (meets_secureUnlink hothers hcalls request hexpected hintact).mono ?_ ?_
    · rintro _ w ⟨φ, hreturns, hmeans⟩
      exact hmeans.gone hreturns
    · rintro e w ⟨φ, hraises, hmeans⟩
      exact hmeans.intact hraises.canRaise.2
  others _ _ h := h.elim
  calls _ _ _ h := h
  stops := by
    rintro w _ h ⟨rfl, hnot⟩
    exact h.resolve_right hnot
  returns _ _ _ h := h.intact
  raises _ _ _ h := h

end Removal

end Deletion

/-- In every run of deletions with one token, wherever they are stopped and whatever fails, except where
    a file is linked twice: where a deletion returns, no file has an entry. -/
theorem deletion_removes (files : ℕ → FileInfo) (expected : Option FileIdentity) (w w' : MediaDirectory)
    (hactive : w.active = none) (hcompleted : w.completed = none) (removed : FileIdentity)
    (h : Script.Reached (alone files) (deletions expected) (w, none) (w', some (.done removed))) (f : ℕ) :
    ¬ w'.HasEntry f := by
  have hvacant : w.Vacant := ⟨hcompleted, by rw [candidate, hactive]; rfl, by rw [tombstone, hactive]; rfl⟩
  have hholds := h.keeps Deletion.keeps_intact hvacant.intact
  obtain ⟨_, w₀, _, hothers, hgone⟩ := hholds
  rcases hothers.cases_tail with rfl | ⟨_, _, hother⟩
  · exact hgone.not_hasEntry f
  · exact hother.elim

/-- A deletion that is stopped behind the unlink, and what the next one makes of it. -/
def deletedTwice : MediaDirectory × Deletion FileIdentity :=
  let stopped := Script.advance performAt (List.replicate 20 7) (mediaDirectory 0)
    (Deletion.secureUnlinkRegularBeneath mediaRequest)
  Script.advance performAt (List.replicate 18 8) stopped.1
    (Deletion.secureUnlinkRegularBeneath mediaRequest)

theorem deletedTwice_removes :
    deletedTwice.2 = .done ⟨1, 0, 700, 5, 6⟩ ∧ ¬ deletedTwice.1.HasEntry 0 := by
  have hbegins : ∀ w, Script.Move (alone mediaFiles) (deletions mediaRequest.expectedIdentity)
      (w, none) (w, some (Deletion.secureUnlinkRegularBeneath mediaRequest)) := fun _ =>
    .begins ⟨mediaRequest, rfl, rfl⟩
  have hperform : ∀ w now o, (alone mediaFiles).answers w o (performAt w now o).1 (performAt w now o).2 :=
    fun w now o => ⟨{ now }, fun hfault => absurd hfault Bool.false_ne_true, rfl⟩
  have hdone : deletedTwice.2 = .done ⟨1, 0, 700, 5, 6⟩ := rfl
  have hrun : Script.Reached (alone mediaFiles) (deletions mediaRequest.expectedIdentity)
      (mediaDirectory 0, none) (deletedTwice.1, some deletedTwice.2) :=
    (Relation.ReflTransGen.head (hbegins _) (Script.reached_advance performAt hperform ..)).trans
      (.head (.stops _ ⟨rfl, by decide +kernel⟩)
        (.head (hbegins _) (Script.reached_advance performAt hperform ..)))
  rw [hdone] at hrun
  exact ⟨hdone, deletion_removes mediaFiles _ _ _ rfl rfl _ hrun 0⟩

/-- A deletion that cannot sync the directory, is stopped while it puts the file back, and is begun again. -/
def stoppedInRestore : MediaDirectory × Deletion FileIdentity :=
  let moved := Script.advance performAt (List.replicate 12 7) (mediaDirectory 0)
    (Deletion.secureUnlinkRegularBeneath mediaRequest)
  let failed := Script.advance (MediaDirectory.perform mediaFiles) [{ fault := true }] moved.1 moved.2
  let stopped := Script.advance performAt [8] failed.1 failed.2
  Script.advance performAt (List.replicate 30 9) stopped.1
    (Deletion.secureUnlinkRegularBeneath mediaRequest)

/-- It returns, and the file is at the leaf: in `deletion_removes` the exception cannot be left out. -/
example : stoppedInRestore.2 = .done ⟨1, 0, 700, 5, 6⟩ ∧ stoppedInRestore.1.leaf = some 0 := ⟨rfl, rfl⟩

end Subgen

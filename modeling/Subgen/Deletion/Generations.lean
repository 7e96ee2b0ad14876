import Subgen.Deletion.Phases

/-!
# Other generations

Another process may replace the file at the leaf at any moment (`raced`), while deletions with one
token are stopped anywhere and begun again, and any of their calls may fail. A call takes the last
entry of a file only if it is a generation that may be deleted: the expected one or, if none is
expected, the one that was seen at the leaf (`MayDelete`).

There is one exception. A candidate that is no such generation is put back at the leaf before its
entry in the quarantine is removed; the other process may take it from the leaf in between.
`MediaDirectory.owed` is without the files that were taken away like this.

The proof goes by the phases of a deletion, which say how far it came: for each phase it is stated what is
known of the candidate (`GenerationMeans`), and each call of the script leads from one meaning to the next
(`generation_calls`). The other process changes the leaf only, by which no meaning is lost
(`GenerationMeans.replaced`).

* `Settled`: no file that is owed is without an entry, unless it may be deleted;
* `keeps_settled`: every step of every deletion keeps it so;
* `other_generations_kept`: the result, over all runs.
-/

namespace Subgen

open Relation MediaDirectory

/-- Calls may fail, another process may replace the leaf, and a deletion may be stopped. -/
def raced (files : ℕ → FileInfo) : Setting MediaDirectory FileCall FileCall.Answer where
  answers w o r w' := ∃ x : Chance, w.perform files x o = (r, w')
  others w w' := ∃ leaf, w' = w.replaced leaf
  stops w w' := w' = w

/-- The file has the device, inode, size and mtime of what is expected or, if nothing is, of what was
    seen at the leaf. -/
def MayDelete (files : ℕ → FileInfo) (expected validated : Option FileIdentity) (f : ℕ) : Prop :=
  ∃ e, expected.or validated = some e ∧ (files f).device = e.device ∧ (files f).inode = e.inode ∧
    (files f).size = e.size ∧ (files f).mtime = e.mtime

namespace Deletion

section Generations

variable {files : ℕ → FileInfo} {expected : Option FileIdentity} {w w' : MediaDirectory}

/-- What a call may do to the entries: one that is the last of a file is removed only if the file may be
    deleted, or is no longer owed. -/
structure Spares (files : ℕ → FileInfo) (expected : Option FileIdentity) (w w' : MediaDirectory) : Prop where
  removes : ∀ f ∈ w.owed, w.HasEntry f →
    w'.HasEntry f ∨ (MayDelete files expected w.validated f ∧ (f, w.validated) ∈ w'.unlinked)
  owes : ∀ f ∈ w'.owed, f ∈ w.owed ∨ w'.HasEntry f
  unlinked : ∀ p ∈ w.unlinked, p ∈ w'.unlinked

/-- What is owed has an entry, or was deleted as it may be. -/
def Settled (files : ℕ → FileInfo) (expected : Option FileIdentity) (w : MediaDirectory) : Prop :=
  ∀ f ∈ w.owed, w.HasEntry f ∨ ∃ v, (f, v) ∈ w.unlinked ∧ MayDelete files expected v f

theorem Settled.spared (h : Settled files expected w) (hspares : Spares files expected w w') :
    Settled files expected w' := by
  intro f hf
  rcases hspares.owes f hf with howed | hentry
  · rcases h f howed with hentry | ⟨v, hv, hmay⟩
    · rcases hspares.removes f howed hentry with hkept | ⟨hmay, hv⟩
      · exact .inl hkept
      · exact .inr ⟨_, hv, hmay⟩
    · exact .inr ⟨v, hspares.unlinked _ hv, hmay⟩
  · exact .inl hentry

theorem mem_owed_replaced {leaf : Option ℕ} {f : ℕ} :
    f ∈ (w.replaced leaf).owed ↔ leaf = some f ∨ f ∈ w.owed ∧ w.leaf ≠ some f := by
  simp [MediaDirectory.replaced, Option.mem_toList]

theorem Settled.replaced (h : Settled files expected w) (leaf : Option ℕ) :
    Settled files expected (w.replaced leaf) := by
  intro f hf
  rcases mem_owed_replaced.1 hf with hleaf | ⟨howed, hnot⟩
  · exact .inl (.inl hleaf)
  · rcases h f howed with (hleaf | hentry) | hdeleted
    · exact absurd hleaf hnot
    · exact .inl (.inr hentry)
    · exact .inr hdeleted

/-- The candidate, if there is one, looks like this. -/
def CandidateIs (files : ℕ → FileInfo) (w : MediaDirectory) (P : FileIdentity → Prop) : Prop :=
  ∀ f, w.candidate = some f → P (w.identity files f)

/-- What the phases mean for the candidate. -/
def GenerationMeans (files : ℕ → FileInfo) (expected : Option FileIdentity) :
    DeletePhase → MediaDirectory → Prop
  | .absent, w => w.candidate = none
  | .marked, w => w.candidate = none
  | .vacant, w => w.candidate = none
  | .seenLeaf stat, w => w.candidate = none ∧ w.validated = some stat.identity
  | .moved e, w => expected.or w.validated = some e
  | .seen e stat, w => expected.or w.validated = some e ∧ CandidateIs files w (· = stat.identity)
  | .resumed e stat, w => expected.or w.validated = some e ∧ CandidateIs files w (· = stat.identity)
  | .prepared e, w => expected.or w.validated = some e ∧ CandidateIs files w (·.Stable e)
  | .linked, w => ∀ f, w.candidate = some f → w.leaf = some f ∨ f ∉ w.owed
  | .wrong, _ => False
  | _, _ => True

theorem GenerationMeans.replaced {φ : DeletePhase} (h : GenerationMeans files expected φ w)
    (leaf : Option ℕ) : GenerationMeans files expected φ (w.replaced leaf) := by
  cases φ with
  | linked =>
    intro f hf
    by_cases hleaf : leaf = some f
    · exact .inl hleaf
    · refine .inr fun howed => ?_
      rcases mem_owed_replaced.1 howed with heq | ⟨howed', hnot⟩
      · exact hleaf heq
      · rcases h f hf with heq | hgone
        · exact hnot heq
        · exact hgone howed'
  | _ => exact h

theorem Spares.refl (files : ℕ → FileInfo) (expected : Option FileIdentity) (w : MediaDirectory) :
    Spares files expected w w :=
  ⟨fun _ _ h => .inl h, fun _ h => .inl h, fun _ h => h⟩

theorem Spares.of_hasEntry (h : ∀ f, w.HasEntry f → w'.HasEntry f) (howed : w'.owed = w.owed)
    (hunlinked : w'.unlinked = w.unlinked) : Spares files expected w w' :=
  ⟨fun f _ hf => .inl (h f hf), fun _ hf => .inl (howed ▸ hf), fun _ hp => hunlinked ▸ hp⟩

theorem generation_fails {φ : DeletePhase} {o : FileCall} {e : FileError}
    (hfind : ∀ name, o ≠ .act (.find name)) (h : GenerationMeans files expected φ w)
    (hnext : φ.next expected o (.error e) ≠ .wrong) :
    GenerationMeans files expected (φ.next expected o (.error e)) w := by
  rcases DeletePhase.next_error hfind hnext with heq | heq | ⟨stat, rfl, heq⟩ | ⟨rfl, heq⟩ |
    ⟨e', stat, hφ, hstat, heq⟩
  · rw [heq]
    exact h
  · rcases heq with ⟨_, heq⟩ | ⟨_, heq⟩ <;> rw [heq] <;> trivial
  · rw [heq]
    exact h.1
  · rw [heq]
    trivial
  · rw [heq]
    have hstable : ∀ e, e = stat.identity → e.Stable e' := by
      rintro _ rfl
      rw [DeletePhase.matchesStat, Bool.and_eq_true] at hstat
      exact of_decide_eq_true hstat.2
    rcases hφ with rfl | rfl
    · exact ⟨h.1, fun f hf => hstable _ (h.2 f hf)⟩
    · exact ⟨h.1, fun f hf => hstable _ (h.2 f hf)⟩

theorem generation_calls {φ : DeletePhase} {o : FileCall} {r : o.Answer}
    (hperforms : Performs files w o r w') (h : GenerationMeans files expected φ w)
    (hnext : φ.next expected o r ≠ .wrong) :
    Spares files expected w w' ∧ GenerationMeans files expected (φ.next expected o r) w' := by
  cases hperforms with
  | fails e hfind => exact ⟨.refl .., generation_fails hfind h hnext⟩
  | findFails name =>
    rcases name with _ | ⟨_ | _⟩ | ⟨_ | _⟩ <;> cases φ <;>
      first | exact absurd rfl hnext | exact ⟨.refl .., h⟩
  | finds hhas =>
    rename_i name
    rcases name with _ | ⟨_ | _⟩ | ⟨_ | _⟩ <;> cases φ <;>
      first | exact absurd rfl hnext | exact ⟨.refl .., h⟩
  | misses hmisses =>
    rename_i name
    have hnone : ∀ {d : QuarantineName}, w.has (.candidate d) = false → d = .active → w.candidate = none := by
      rintro _ hhas rfl
      rw [has_candidate] at hhas
      exact Option.not_isSome_iff_eq_none.1 (Bool.eq_false_iff.1 hhas)
    rcases name with _ | ⟨_ | _⟩ | ⟨_ | _⟩ <;> cases φ <;>
      first
        | exact absurd rfl hnext
        | exact ⟨.refl .., h⟩
        | exact ⟨.refl .., trivial⟩
        | exact ⟨.refl .., hnone hmisses rfl⟩
  | opensComponent =>
    cases φ <;> first | exact absurd rfl hnext | exact ⟨.refl .., h⟩
  | opensDirectory hdirectory =>
    rename_i name
    cases name <;> cases φ <;> first | exact absurd rfl hnext | exact ⟨.refl .., h⟩
  | syncs =>
    cases φ <;> first | exact absurd rfl hnext | exact ⟨.refl .., h⟩ | exact ⟨.refl .., trivial⟩
  | closes => exact ⟨.refl .., h⟩
  | statsTombstone marker =>
    cases φ <;> first | exact absurd rfl hnext | exact ⟨.refl .., h⟩
  | fstats name isPrivate =>
    cases name <;> cases φ <;> first | exact absurd rfl hnext | exact ⟨.refl .., h⟩
  | lists name unexpected =>
    cases name <;> cases φ <;> first | exact absurd rfl hnext | exact ⟨.refl .., h⟩
  -- From here on the calls look at a file or change the directory.
  | statsLeaf hleaf =>
    cases φ with
    -- The leaf is looked at while no candidate is there, and may be deleted from now on.
    | vacant => exact ⟨⟨fun _ _ h => .inl h, fun _ h => .inl h, fun _ h => h⟩, h, rfl⟩
    | _ => exact absurd rfl hnext
  | statsCandidate hcandidate =>
    rename_i f
    have hseen : CandidateIs files w (· = (w.statOf files f).identity) := by
      rintro g hg
      rw [Option.some.inj (hg.symm.trans hcandidate)]
      rfl
    cases φ with
    | moved e => exact ⟨.refl .., h, hseen⟩
    | present =>
      cases expected with
      | none => exact absurd rfl hnext
      | some wanted => exact ⟨.refl .., rfl, hseen⟩
    | _ => exact absurd rfl hnext
  | makes hactive =>
    cases φ with
    | fresh =>
      -- A new quarantine has no candidate, so that no entry is lost.
      have hcandidate : w.candidate = none := by rw [MediaDirectory.candidate, hactive]; rfl
      refine ⟨.of_hasEntry ?_ rfl rfl, trivial⟩
      rintro f (hleaf | hf | hf)
      · exact .inl hleaf
      · cases hcandidate.symm.trans hf
      · exact .inr (.inr hf)
    | _ => exact absurd rfl hnext
  | marks hactive =>
    rename_i q
    have hcandidate : ({ w with active := some { q with tombstone := some (true, 0) } } : MediaDirectory).candidate =
        w.candidate := by rw [MediaDirectory.candidate, MediaDirectory.candidate, hactive]; rfl
    refine ⟨.of_hasEntry ?_ rfl rfl, ?_⟩
    · rintro f (hleaf | hf | hf)
      · exact .inl hleaf
      · exact .inr (.inl (hcandidate.trans hf))
      · exact .inr (.inr hf)
    · -- The identity that was seen is the one that is wanted, up to its `ctime`.
      have hprepared : ∀ {e stat}, expected.or w.validated = some e ∧ CandidateIs files w (· = stat.identity) →
          DeletePhase.matchesStat e stat = true → GenerationMeans files expected (.prepared e)
            { w with active := some { q with tombstone := some (true, 0) } } := by
        rintro e stat ⟨hmeant, hcandidateIs⟩ hstat
        rw [DeletePhase.matchesStat, Bool.and_eq_true] at hstat
        refine ⟨hmeant, fun f hf => ?_⟩
        have hsame : w.identity files f = stat.identity := hcandidateIs f (hcandidate ▸ hf)
        have hstable := of_decide_eq_true hstat.2
        rw [← hsame] at hstable
        exact hstable
      cases φ with
      | seen e stat | resumed e stat =>
        by_cases hstat : DeletePhase.matchesStat e stat = true
        · change GenerationMeans files expected (if DeletePhase.matchesStat e stat then .prepared e else .wrong) _
          rw [if_pos hstat]
          exact hprepared h hstat
        · exact absurd (if_neg hstat) hnext
      | _ => exact absurd rfl hnext
  | moves now hleaf hactive =>
    rename_i f
    cases φ with
    | seenLeaf stat =>
      by_cases haccepts : DeletePhase.accepts expected stat = true
      · -- The leaf becomes the candidate, so its entry only changes its name.
        have hmoved : ({ w.withCandidate (some f) with leaf := none, ctime := w.touched now f } :
            MediaDirectory).candidate = some f := by
          obtain ⟨q, hq⟩ := Option.isSome_iff_exists.1 hactive
          simp [MediaDirectory.candidate, MediaDirectory.withCandidate, hq]
        refine ⟨.of_hasEntry ?_ rfl rfl, ?_⟩
        · rintro g (hg | hg | hg)
          · exact .inr (.inl (hmoved.trans (hleaf.symm.trans hg)))
          · cases h.1.symm.trans hg
          · exact .inr (.inr hg)
        · rw [DeletePhase.next]
          dsimp only
          rw [if_pos haccepts]
          rw [DeletePhase.accepts, Bool.and_eq_true] at haccepts
          change expected.or w.validated = some stat.identity
          cases expected with
          | none => exact h.2
          | some e => exact congrArg some (of_decide_eq_true haccepts.2).symm
      · exact absurd (if_neg haccepts) hnext
    | _ => exact absurd rfl hnext
  | movesSame hleaf hcandidate =>
    cases φ with
    | seenLeaf stat => cases h.1.symm.trans hcandidate
    | _ => exact absurd rfl hnext
  | links now hcandidate hleaf hkind =>
    rename_i f
    -- The candidate gets its name back, and keeps the other one: no entry is lost.
    have hspares : Spares files expected w
        { w with leaf := some f, ctime := w.touched now f, owed := f :: w.owed } := by
      refine ⟨fun g hg hentry => .inl ?_, fun g hg => ?_, fun _ h => h⟩
      · rcases hentry with hg | hg | hg
        · cases hleaf.symm.trans hg
        · exact .inr (.inl hg)
        · exact .inr (.inr hg)
      · rcases List.mem_cons.1 hg with rfl | hg
        · exact .inr (.inl rfl)
        · exact .inl hg
    have hlinked : ∀ g, w.candidate = some g → some f = some g ∨ g ∉ f :: w.owed := fun g hg =>
      .inl (hcandidate.symm.trans hg)
    cases φ with
    | moved e => exact ⟨hspares, hlinked⟩
    | seen e stat => exact ⟨hspares, hlinked⟩
    | _ => exact absurd rfl hnext
  | unlinks now hcandidate =>
    rename_i f
    cases φ with
    | linked =>
      -- Behind a link the candidate is at the leaf as well.
      refine ⟨⟨fun g hg hentry => .inl ?_, fun _ h => .inl h, fun _ h => List.mem_cons_of_mem _ h⟩, trivial⟩
      rcases hentry with hleaf | hg' | hg'
      · exact .inl hleaf
      · rcases h g hg' with hleaf | hgone
        · exact .inl hleaf
        · exact absurd hg hgone
      · exact .inr (.inr hg')
    | prepared e =>
      -- This is the one call that deletes a file, which is the one that is meant.
      refine ⟨⟨fun g hg hentry => ?_, fun _ h => .inl h, fun _ h => List.mem_cons_of_mem _ h⟩, trivial⟩
      rcases hentry with hleaf | hg' | hg'
      · exact .inl (.inl hleaf)
      · obtain rfl := Option.some.inj (hcandidate.symm.trans hg')
        exact .inr ⟨⟨e, h.1, h.2 _ hcandidate⟩, List.mem_cons_self⟩
      · exact .inl (.inr (.inr hg'))
    | _ => exact absurd rfl hnext
  | unmarks hcompleted =>
    refine ⟨.of_hasEntry ?_ rfl rfl, ?_⟩
    · rintro f (hleaf | hf | hf)
      · exact .inl hleaf
      · exact .inr (.inl hf)
      · rw [hcompleted] at hf
        exact .inr (.inr hf)
    · cases φ <;> first | exact absurd rfl hnext | exact trivial
  | renames hactive hcompleted =>
    rename_i q
    refine ⟨.of_hasEntry ?_ rfl rfl, ?_⟩
    · rintro f (hleaf | hf | hf)
      · exact .inl hleaf
      · rw [MediaDirectory.candidate, hactive] at hf
        exact .inr (.inr hf)
      · cases hcompleted.symm.trans hf
    · cases φ <;> first | exact absurd rfl hnext | exact trivial
  | removes hcompleted =>
    refine ⟨.of_hasEntry ?_ rfl rfl, ?_⟩
    · rintro f (hleaf | hf | hf)
      · exact .inl hleaf
      · exact .inr (.inl hf)
      · cases hcompleted.symm.trans hf
    · cases φ <;> first | exact absurd rfl hnext | exact trivial

theorem keeps_settled : Script.Keeps (raced files) (deletions expected) (Settled files expected)
    (Settled files expected) (Spares files expected) (fun _ _ => True) (fun _ _ => True) where
  between _ h := h
  starts w p _ hstarts := by
    obtain ⟨request, hexpected, rfl⟩ := hstarts
    have hothers : ∀ φ w w', GenerationMeans files expected φ w → (raced files).others w w' →
        GenerationMeans files expected φ w' := by
      rintro φ w w' h ⟨leaf, rfl⟩
      exact h.replaced leaf
    have hcalls : ∀ φ w o r w', GenerationMeans files expected φ w → (raced files).answers w o r w' →
        φ.next expected o r ≠ .wrong →
          Spares files expected w w' ∧ GenerationMeans files expected (φ.next expected o r) w' := by
      rintro φ w o r w' h ⟨x, hx⟩ hnext
      exact generation_calls (performs_of_perform hx) h hnext
    exact (meets_secureUnlink hothers hcalls request hexpected trivial).mono (fun _ _ _ => trivial)
      fun _ _ _ => trivial
  others := by
    rintro w _ ⟨leaf, rfl⟩
    exact ⟨fun h => h.replaced leaf, fun h => h.replaced leaf⟩
  calls _ _ h hspares := h.spared hspares
  stops := by
    rintro w _ h rfl
    exact h
  returns _ _ h _ := h
  raises _ _ h _ := h

end Generations

end Deletion

/-- In every run of deletions with one token, whatever fails, wherever they are stopped, and whatever
    the other process does to the leaf: a file that stood at the leaf, and was not taken from there by the
    other process since it last did, has an entry, or was unlinked and is a generation that may be
    deleted. And no call takes the last entry of such a file unless it may be deleted. -/
theorem other_generations_kept (files : ℕ → FileInfo) (expected : Option FileIdentity) (w : MediaDirectory)
    (hstart : ∀ f, f ∈ w.owed ↔ w.HasEntry f)
    (c : MediaDirectory × Option (Deletion FileIdentity))
    (h : Script.Reached (raced files) (deletions expected) (w, none) c) :
    (∀ f ∈ c.1.owed, c.1.HasEntry f ∨ ∃ v, (f, v) ∈ c.1.unlinked ∧ MayDelete files expected v f) ∧
      ∀ c', Script.Answered (raced files) c c' → ∀ f ∈ c.1.owed, c.1.HasEntry f → ¬ c'.1.HasEntry f →
        MayDelete files expected c.1.validated f := by
  have hholds := h.keeps Deletion.keeps_settled fun f hf => .inl ((hstart f).1 hf)
  -- Between two deletions the directory is settled, within one its script keeps it so.
  have hsettled : Deletion.Settled files expected c.1 := by
    obtain ⟨w', p⟩ := c
    cases p with
    | none => exact hholds
    | some p => exact hholds.1
  refine ⟨hsettled, fun c' hanswered f hf hentry hgone => ?_⟩
  rcases (hholds.call hanswered).removes f hf hentry with hkept | ⟨hmay, _⟩
  · exact absurd hkept hgone
  · exact hmay

/-- File 1 is put at the leaf when the deletion has looked at it, and before it renames it. -/
def replacedBeforeRename : MediaDirectory × Deletion FileIdentity :=
  let seen := Script.advance performAt (List.replicate 11 7) (mediaDirectory 0)
    (Deletion.secureUnlinkRegularBeneath mediaRequest)
  Script.advance performAt (List.replicate 4 8) (seen.1.replaced (some 1)) seen.2

theorem replacedBeforeRename_hasEntry : replacedBeforeRename.1.HasEntry 1 := by
  have hbegins : Script.Move (raced mediaFiles) (deletions mediaRequest.expectedIdentity)
      (mediaDirectory 0, none) (mediaDirectory 0, some (Deletion.secureUnlinkRegularBeneath mediaRequest)) :=
    .begins ⟨mediaRequest, rfl, rfl⟩
  have hperform : ∀ w now o, (raced mediaFiles).answers w o (performAt w now o).1 (performAt w now o).2 :=
    fun w now o => ⟨{ now }, rfl⟩
  have hrun : Script.Reached (raced mediaFiles) (deletions mediaRequest.expectedIdentity)
      (mediaDirectory 0, none) (replacedBeforeRename.1, some replacedBeforeRename.2) :=
    (Relation.ReflTransGen.head hbegins (Script.reached_advance performAt hperform ..)).trans
      (.head (.others _ ⟨some 1, rfl⟩) (Script.reached_advance performAt hperform ..))
  have hstart : ∀ f, f ∈ (mediaDirectory 0).owed ↔ (mediaDirectory 0).HasEntry f := by
    simp [mediaDirectory, HasEntry, candidate, eq_comm]
  have hkept := (other_generations_kept mediaFiles _ _ hstart _ hrun).1 1 (by decide +kernel)
  refine hkept.resolve_right ?_
  rintro ⟨v, _, e, he, _, hinode, _⟩
  cases he
  cases hinode

end Subgen

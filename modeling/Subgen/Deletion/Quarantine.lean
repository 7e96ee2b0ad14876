import Subgen.Deletion.Generations

/-!
# What is left in the quarantine

An error that demands recovery keeps the token of a deletion, so that the next run can look into the
same quarantine; behind every other end the token may be dropped. A deletion that begins without a
candidate ends with one only where it demands recovery, or where an `OSError` comes through
(`quarantine_left_empty`): no file stays in a directory that nobody looks into again.

This is about one run, which another process may race and in which any call may fail.
-/

namespace Subgen

open Relation MediaDirectory

namespace Deletion

section Quarantine

variable {files : ℕ → FileInfo} {expected : Option FileIdentity} {w w' : MediaDirectory}

/-- What the phases mean, from a quarantine without a candidate on. -/
def EmptyMeans : DeletePhase → MediaDirectory → Prop
  | .moved _, _ => True
  | .seen _ _, _ => True
  | .linked, _ => True
  | .stuck, _ => True
  | .prepared _, _ => True
  | .present, _ => False
  | .resumed _ _, _ => False
  | .wrong, _ => False
  | _, w => w.candidate = none

theorem empty_fails {φ : DeletePhase} {o : FileCall} {e : FileError}
    (hfind : ∀ name, o ≠ .act (.find name)) (h : EmptyMeans φ w)
    (hnext : φ.next expected o (.error e) ≠ .wrong) : EmptyMeans (φ.next expected o (.error e)) w := by
  rcases DeletePhase.next_error hfind hnext with heq | heq | ⟨stat, rfl, heq⟩ | ⟨rfl, heq⟩ |
    ⟨e', stat, hφ, hstat, heq⟩
  · rw [heq]
    exact h
  · rcases heq with ⟨rfl, heq⟩ | ⟨rfl, heq⟩ <;> rw [heq] <;> exact h
  · rw [heq]
    exact h
  · rw [heq]
    trivial
  · rw [heq]
    trivial

theorem empty_calls {φ : DeletePhase} {o : FileCall} {r : o.Answer}
    (hperforms : Performs files w o r w') (h : EmptyMeans φ w) (hnext : φ.next expected o r ≠ .wrong) :
    EmptyMeans (φ.next expected o r) w' := by
  cases hperforms with
  | fails e hfind => exact empty_fails hfind h hnext
  | findFails name =>
    rcases name with _ | ⟨_ | _⟩ | ⟨_ | _⟩ <;> cases φ <;>
      first | exact absurd rfl hnext | exact h
  | finds hhas =>
    rename_i name
    -- A candidate that is found was there before.
    have hfound : ∀ {d : QuarantineName}, w.has (.candidate d) = true → d = .active → w.candidate ≠ none := by
      rintro _ hhas rfl
      rw [has_candidate] at hhas
      exact Option.isSome_iff_ne_none.1 hhas
    rcases name with _ | ⟨_ | _⟩ | ⟨_ | _⟩ <;> cases φ <;>
      first | exact absurd rfl hnext | exact h | exact trivial | exact hfound hhas rfl h
  | misses hmisses =>
    rename_i name
    rcases name with _ | ⟨_ | _⟩ | ⟨_ | _⟩ <;> cases φ <;> first | exact absurd rfl hnext | exact h
  | opensComponent | syncs | statsTombstone =>
    cases φ <;> first | exact absurd rfl hnext | exact h
  | opensDirectory | fstats | lists =>
    rename_i name _
    cases name <;> cases φ <;> first | exact absurd rfl hnext | exact h
  | closes => exact h
  | statsLeaf hleaf | makes hactive | renames hactive hcompleted =>
    cases φ <;> first | exact absurd rfl hnext | exact h | exact rfl
  | statsCandidate hcandidate =>
    cases φ with
    | moved e => exact trivial
    | present => exact h.elim
    | _ => exact absurd rfl hnext
  | marks hactive =>
    cases φ with
    | seen e stat =>
      by_cases hstat : DeletePhase.matchesStat e stat = true
      · change EmptyMeans (if DeletePhase.matchesStat e stat then .prepared e else .wrong) _
        rw [if_pos hstat]
        exact trivial
      · exact absurd (if_neg hstat) hnext
    | resumed e stat => exact h.elim
    | _ => exact absurd rfl hnext
  | moves now hleaf hactive =>
    cases φ with
    | seenLeaf stat =>
      by_cases haccepts : DeletePhase.accepts expected stat = true
      · change EmptyMeans (if DeletePhase.accepts expected stat then .moved stat.identity else .wrong) _
        rw [if_pos haccepts]
        exact trivial
      · exact absurd (if_neg haccepts) hnext
    | _ => exact absurd rfl hnext
  | movesSame hleaf hcandidate =>
    cases φ with
    | seenLeaf stat => cases Eq.trans (Eq.symm h) hcandidate
    | _ => exact absurd rfl hnext
  | links now hcandidate hleaf hkind =>
    cases φ with
    | moved e | seen e stat => exact trivial
    | _ => exact absurd rfl hnext
  | unlinks now hcandidate =>
    have hnone : (w.withCandidate none).candidate = none := by
      rw [withCandidate, candidate]
      cases w.active <;> rfl
    cases φ with
    | linked | prepared e => exact hnone
    | _ => exact absurd rfl hnext
  | unmarks | removes => cases φ <;> first | exact absurd rfl hnext | exact h

/-- Where a run may end in another way, the quarantine has no candidate. -/
theorem EmptyMeans.candidate_eq_none {φ : DeletePhase} (h : EmptyMeans φ w)
    (hφ : φ.returns = true ∨ ∃ m, Raises (.unsafePath m) φ ∨ Raises (.unavailable m) φ) :
    w.candidate = none := by
  cases φ with
  | moved | seen | linked | stuck | prepared => rcases hφ with hφ | ⟨m, hφ | hφ⟩ <;> cases hφ
  | present | resumed | wrong => exact h.elim
  | _ => exact h

/-- An error that does not demand recovery. -/
def Concludes (e : UnlinkError) : Prop := ∃ m, e = .unsafePath m ∨ e = .unavailable m

/-- No other run begins. -/
def noOther (_ : MediaDirectory) (_ : Deletion FileIdentity) : Prop := False

theorem keeps_empty (files : ℕ → FileInfo) : Script.Keeps (raced files) noOther (fun _ => True)
    (fun _ => True) (fun _ _ => True) (fun _ w => w.candidate = none)
    (fun e w => Concludes e → w.candidate = none) where
  between _ _ := trivial
  starts _ _ _ h := h.elim
  others _ _ _ := ⟨id, id⟩
  calls _ _ _ _ := trivial
  stops _ _ _ _ := trivial
  returns _ _ _ _ := trivial
  raises _ _ _ _ := trivial

end Quarantine

end Deletion

/-- A deletion that begins without a candidate in its quarantine, raced by another process, any of its
    calls failing: where it returns, or raises an `UnsafePathError` that does not demand recovery, there
    is no candidate in the quarantine. -/
theorem quarantine_left_empty (files : ℕ → FileInfo) (request : UnlinkRequest) (w w' : MediaDirectory)
    (hcandidate : w.candidate = none) (p : Deletion FileIdentity)
    (h : Script.Reached (raced files) Deletion.noOther
      (w, some (Deletion.secureUnlinkRegularBeneath request)) (w', some p))
    (hp : (∃ identity, p = .done identity) ∨ ∃ e, p = .fail e ∧ Deletion.Concludes e) :
    w'.candidate = none := by
  -- The other process changes the leaf only, and leaves the quarantine as it is.
  have hothers : ∀ φ w w', Deletion.EmptyMeans φ w → (raced files).others w w' → Deletion.EmptyMeans φ w' := by
    rintro φ w w' hmeans ⟨leaf, rfl⟩
    cases φ <;> exact hmeans
  have hcalls : ∀ φ w o r w', Deletion.EmptyMeans φ w → (raced files).answers w o r w' →
      φ.next request.expectedIdentity o r ≠ .wrong →
        True ∧ Deletion.EmptyMeans (φ.next request.expectedIdentity o r) w' := by
    rintro φ w o r w' hmeans ⟨x, hx⟩ hnext
    exact ⟨trivial, Deletion.empty_calls (performs_of_perform hx) hmeans hnext⟩
  have hmeets : Script.Meets (raced files) (fun _ _ => True) (fun _ w => w.candidate = none)
      (fun e w => Deletion.Concludes e → w.candidate = none)
      (Deletion.secureUnlinkRegularBeneath request) w := by
    refine (Deletion.meets_secureUnlink hothers hcalls request rfl hcandidate).mono ?_ ?_
    · rintro _ w ⟨φ, hreturns, hmeans⟩
      exact hmeans.candidate_eq_none (.inl hreturns)
    · rintro _ w ⟨φ, hraises, hmeans⟩ ⟨m, rfl | rfl⟩
      · exact hmeans.candidate_eq_none (.inr ⟨m, .inl hraises⟩)
      · exact hmeans.candidate_eq_none (.inr ⟨m, .inr hraises⟩)
  -- It goes on behind the end of the call.
  have hkept : ∀ {w₀ w₁ : MediaDirectory}, ReflTransGen (raced files).others w₀ w₁ → w₀.candidate = none →
      w₁.candidate = none := by
    rintro w₀ w₁ hbefore hnone
    induction hbefore with
    | refl => exact hnone
    | tail _ hother ih =>
      obtain ⟨leaf, rfl⟩ := hother
      exact ih
  obtain ⟨_, w₀, _, hbefore, hend⟩ := h.keeps (Deletion.keeps_empty files) ⟨trivial, w, trivial, .refl, hmeets⟩
  rcases hp with ⟨identity, rfl⟩ | ⟨e, rfl, he⟩
  · exact hkept hbefore hend
  · exact hkept hbefore (hend he)

/-- The deletion that is raced: file 1 is put back, and the deletion fails. -/
theorem replacedBeforeRename_putBack :
    (Script.advance performAt (List.replicate 8 9) replacedBeforeRename.1 replacedBeforeRename.2).1.candidate =
      none := by
  have hperform : ∀ w now o, (raced mediaFiles).answers w o (performAt w now o).1 (performAt w now o).2 :=
    fun w now o => ⟨{ now }, rfl⟩
  have hrun : Script.Reached (raced mediaFiles) Deletion.noOther
      (mediaDirectory 0, some (Deletion.secureUnlinkRegularBeneath mediaRequest))
      (replacedBeforeRename.1, some replacedBeforeRename.2) :=
    (Script.reached_advance performAt hperform ..).trans
      (.head (.others _ ⟨some 1, rfl⟩) (Script.reached_advance performAt hperform ..))
  exact quarantine_left_empty mediaFiles mediaRequest _ _ rfl _
    (hrun.trans (Script.reached_advance performAt hperform ..))
    (.inr ⟨_, rfl, "Refusing file because its identity changed", .inl rfl⟩)

end Subgen

import Subgen.Segmentation.Budget
import Subgen.Segmentation.Lifecycle

/-!
# The driver does not retry forever

The sequential driver with the adaptive duration as its policy (`SegmentedCallbacks.adapted`), which
keeps the calls that it gets. Whatever the other callbacks do, the driver goes on behind a failed
allocation only if it has not exhausted the file, or if an external recovery came behind it
(`OnlyRecovers`); so the failures in a row are bounded (`OnlyRecovers.length_le`).

The bound is one on the calls of the policy, so the proof is about these calls alone: what does not call the
policy leaves them apart (`Apart`), and what does is one line of the driver. Between two rounds the list of
calls satisfies `OnlyRecovers` and the last of them leaves the driver at rest (`Resting`), which is the
invariant of the loop, and a run that has stopped satisfies it too (`Halted`).

* `chunk_budget`: the bounds of the duration, the failures that exhaust the file, and how many may come in a
  row, for the calls of the policy and for the runs of the driver;
* `chunk_budget_ten_minutes`: two failures, from ten minutes on.
-/

namespace Subgen

open Procedure AdaptiveChunkState

/-- A world with the adaptive duration of the file, and the calls that it got. -/
structure Adapted (V : Type) where
  world : V
  adaptive : AdaptiveChunkState
  calls : List AdaptiveCall

namespace Adapted

variable {V : Type}

/-- What is done outside the adaptive state. -/
def onWorld {α : Type} (m : EStateM Exc V α) : EStateM Exc (Adapted V) α :=
  zoom world (fun s v => { s with world := v }) m

/-- A call of the adaptive state. -/
def perform (c : AdaptiveCall) : EStateM Exc (Adapted V) Unit :=
  modify fun s => { s with adaptive := s.adaptive.record c, calls := s.calls ++ [c] }

end Adapted

/-- The callbacks with the adaptive duration as their policy. -/
def SegmentedCallbacks.adapted {V : Type} (cb : SegmentedCallbacks V) : SegmentedCallbacks (Adapted V) where
  Audio := cb.Audio
  currentSeconds := do
    let s ← get
    pure s.adaptive.currentSeconds
  recordPressureYield := Adapted.perform .pressureYield
  recordAllocationFailure := do
    let s ← get
    Adapted.perform (.allocationFailure none)
    pure (s.adaptive.reports none)
  recordExternalPressureRecovery := Adapted.perform .externalPressureRecovery
  recordSuccess healthy := Adapted.perform (.success healthy)
  extractChunk window := Adapted.onWorld (cb.extractChunk window)
  transcribeChunk audio window progress := Adapted.onWorld (cb.transcribeChunk audio window progress)
  releaseFailure error window := Adapted.onWorld (cb.releaseFailure error window)
  waitForRecovery error window := Adapted.onWorld (cb.waitForRecovery error window)
  persistChunk window staged state := Adapted.onWorld (cb.persistChunk window staged state)
  finalizeAssembly state := Adapted.onWorld (cb.finalizeAssembly state)
  checkCancelled := Adapted.onWorld cb.checkCancelled
  checkBeforeCommit := Adapted.onWorld cb.checkBeforeCommit
  isAllocationFailure error := Adapted.onWorld (cb.isAllocationFailure error)
  chunkStarted window s := { s with world := cb.chunkStarted window s.world }
  chunkUnwound window s := { s with world := cb.chunkUnwound window s.world }
  chunkCommitted window state s := { s with world := cb.chunkCommitted window state s.world }
  overlapSeconds := cb.overlapSeconds

/-! ## The calls -/

section Calls

variable (a : AdaptiveChunkState) {calls : List AdaptiveCall}

/-- Behind a failure that exhausts the file comes nothing but an external recovery. -/
def OnlyRecovers (calls : List AdaptiveCall) : Prop :=
  ∀ before q c rest, calls = before ++ .allocationFailure q :: c :: rest →
    c = .externalPressureRecovery ∨ (a.after before).reports q = false

/-- The last call is not a failure that exhausts the file. -/
def Resting (calls : List AdaptiveCall) : Prop :=
  ∀ before q, calls = before ++ [.allocationFailure q] → (a.after before).reports q = false

variable {a}

theorem onlyRecovers_nil : OnlyRecovers a [] := fun _ _ _ _ h =>
  absurd h.symm (List.append_ne_nil_of_right_ne_nil _ (List.cons_ne_nil _ _))

theorem resting_nil : Resting a [] := fun _ _ h =>
  absurd h.symm (List.append_ne_nil_of_right_ne_nil _ (List.cons_ne_nil _ _))

theorem OnlyRecovers.concat (h : OnlyRecovers a calls) {c : AdaptiveCall}
    (hlast : c = .externalPressureRecovery ∨ Resting a calls) : OnlyRecovers a (calls ++ [c]) := by
  intro before q c' rest heq
  rcases List.eq_nil_or_concat rest with rfl | ⟨rest, x, rfl⟩
  · have hsplit : calls ++ [c] = (before ++ [.allocationFailure q]) ++ [c'] := by rw [heq, List.append_assoc]; rfl
    obtain ⟨hcalls, hc⟩ := List.append_inj' hsplit rfl
    rcases hlast with hrecovery | hresting
    · exact .inl ((List.singleton_inj.1 hc).symm.trans hrecovery)
    · exact .inr (hresting before q hcalls)
  · rw [List.concat_eq_append, ← List.cons_append, ← List.cons_append, ← List.append_assoc] at heq
    exact h before q c' rest (List.append_inj' heq rfl).1

theorem resting_concat {c : AdaptiveCall}
    (hc : ∀ q, c = .allocationFailure q → (a.after calls).reports q = false) : Resting a (calls ++ [c]) := by
  intro before q heq
  obtain ⟨rfl, hlast⟩ := List.append_inj' heq rfl
  exact hc q (List.singleton_inj.1 hlast)

/-- The failures in a row are bounded. -/
theorem OnlyRecovers.length_le {m b : ℕ} (h : OnlyRecovers a calls) (ha : InRange m b a) {before rest : List AdaptiveCall}
    {qs : List (Option ℚ)} (hqs : ∀ q ∈ qs, ¬ Rejected q)
    (hcalls : calls = before ++ qs.map .allocationFailure ++ rest) : qs.length ≤ halvings b m + 2 := by
  by_contra hlong
  rw [not_le] at hlong
  obtain ⟨k, hk, q, hq, hreports⟩ := (inRange_after ha before).exists_reports hqs hlong.le
  -- A failure that has reported that the file is exhausted has another one behind it.
  obtain ⟨q', hq'⟩ : ∃ q', qs[k + 1]? = some q' := ⟨_, List.getElem?_eq_getElem (by omega)⟩
  have hsplit : qs = qs.take k ++ q :: q' :: qs.drop (k + 2) := by
    obtain ⟨hlt, hget⟩ := List.getElem?_eq_some_iff.1 hq
    obtain ⟨hlt', hget'⟩ := List.getElem?_eq_some_iff.1 hq'
    rw [← hget, ← hget', ← List.drop_eq_getElem_cons, ← List.drop_eq_getElem_cons, List.take_append_drop]
  have heq : calls = (before ++ (qs.take k).map .allocationFailure) ++ .allocationFailure q ::
      .allocationFailure q' :: ((qs.drop (k + 2)).map .allocationFailure ++ rest) := by
    rw [hcalls]
    conv_lhs => rw [hsplit]
    simp
  rw [← after_append] at hreports
  rcases h _ q _ _ heq with hrecovery | hnot
  · cases hrecovery
  · rw [hreports] at hnot
    cases hnot

end Calls

/-! ## The driver -/

namespace Session

variable {V : Type} (cb : SegmentedCallbacks V)

/-- The policy got these calls. -/
def Called (a : AdaptiveChunkState) (calls : List AdaptiveCall) (s : Session (Adapted V)) : Prop :=
  s.world.adaptive = a.after calls ∧ s.world.calls = calls

/-- A procedure that does not call the policy. -/
def Apart {α : Type} (m : EStateM Exc (Session (Adapted V)) α) : Prop := ∀ a calls, Preserves (Called a calls) m

theorem apart_onWorld {α : Type} (m : EStateM Exc V α) : Apart (call (Adapted.onWorld m)) := by
  intro a calls s hs
  rw [call, ensures_zoom, Adapted.onWorld, ensures_zoom]
  exact ensures_of_forall (fun _ _ => hs) fun _ _ => hs

theorem apart_currentSeconds : Apart (call cb.adapted.currentSeconds) := fun _ _ _ hs => hs

theorem apart_record (event : Event) : Apart (V := V) (record event) := fun _ _ _ hs => hs

theorem apart_setUncommitted (b : Bool) : Apart (V := V) (setUncommitted b) := fun _ _ _ hs => hs

theorem apart_chunkUnwound (window : ChunkWindow) : Apart (chunkUnwound cb.adapted window) := fun _ _ _ hs => hs

theorem apart_ofExcept {α : Type} (x : Except Exc α) : Apart (V := V) (ofExcept x) :=
  fun _ _ _ hs => ensures_ofExcept.2 ⟨fun _ _ => hs, fun _ _ => hs⟩

theorem apart_unwindUncommitted (window : ChunkWindow) : Apart (unwindUncommitted cb.adapted window) := by
  intro a calls s hs
  rw [unwindUncommitted, ensures_bind, ensures_get, ensures_ite]
  exact ⟨fun _ => hs, fun _ => hs⟩

theorem apart_transcribe (audio : cb.Audio) (window : ChunkWindow) :
    Apart (transcribe cb.adapted audio window) := by
  intro a calls
  refine preserves_tryCatch (fun s hs => ensures_map.2 (apart_onWorld _ a calls s hs)) fun e => ?_
  refine preserves_ite (fun _ => preserves_pure _) fun _ => preserves_ite (fun _ => ?_) fun _ => preserves_throw _
  exact preserves_bind (apart_onWorld _ a calls) fun _ =>
    preserves_ite (fun _ => preserves_pure _) fun _ => preserves_throw _

theorem apart_checkHealth (staged : StagedChunk) : Apart (checkHealth cb.adapted staged) := by
  intro a calls
  refine preserves_tryCatch (fun s hs => ensures_map.2 (apart_onWorld _ a calls s hs)) fun e => ?_
  exact preserves_ite (fun _ => preserves_pure _) fun _ => preserves_throw _

theorem apart_attemptBody (audio : cb.Audio) (window : ChunkWindow) :
    Apart (attemptBody cb.adapted audio window) := by
  intro a calls
  refine preserves_bind (apart_onWorld _ a calls) fun _ => preserves_bind (fun s hs => hs) fun _ =>
    preserves_bind (apart_setUncommitted _ a calls) fun _ =>
      preserves_bind (apart_transcribe cb audio window a calls) fun outcome => ?_
  rcases outcome with attempt | result
  · exact preserves_pure _
  · exact preserves_bind (apart_onWorld _ a calls) fun _ => preserves_bind (apart_ofExcept _ a calls) fun _ =>
      preserves_bind (apart_onWorld _ a calls) fun _ => apart_checkHealth cb _ a calls

theorem apart_attempt (audio : cb.Audio) (window : ChunkWindow) : Apart (attempt cb.adapted audio window) := by
  intro a calls
  exact preserves_tryCatch (apart_attemptBody cb audio window a calls) fun _ =>
    preserves_bind (apart_unwindUncommitted cb window a calls) fun _ => preserves_throw _

/-- The calls of a driver that has not ended, and those of one that has. -/
def Going (a : AdaptiveChunkState) (s : Session (Adapted V)) : Prop :=
  ∃ calls, Called a calls s ∧ OnlyRecovers a calls ∧ Resting a calls

/-- Since the last window no call did more than recover. -/
def Halted (a : AdaptiveChunkState) (s : Session (Adapted V)) : Prop := ∃ calls, Called a calls s ∧ OnlyRecovers a calls

variable {a : AdaptiveChunkState} {s : Session (Adapted V)}

theorem Going.halted (h : Going a s) : Halted a s := by
  obtain ⟨calls, hcalled, hsteady, -⟩ := h
  exact ⟨calls, hcalled, hsteady⟩

/-- What does not call the policy goes on, or ends the driver. -/
theorem Going.apart {α : Type} {m : EStateM Exc (Session (Adapted V)) α} (hm : Apart m) (h : Going a s) :
    Ensures m s (fun _ => Going a) (fun _ => Halted a) := by
  obtain ⟨calls, hcalled, hsteady, hresting⟩ := h
  exact (hm a calls s hcalled).mono (fun _ _ hs => ⟨calls, hs, hsteady, hresting⟩) fun _ _ hs => ⟨calls, hs, hsteady⟩

theorem Halted.apart {α : Type} {m : EStateM Exc (Session (Adapted V)) α} (hm : Apart m) (h : Halted a s) :
    Ensures m s (fun _ => Halted a) (fun _ => Halted a) := by
  obtain ⟨calls, hcalled, hsteady⟩ := h
  exact (hm a calls s hcalled).mono (fun _ _ hs => ⟨calls, hs, hsteady⟩) fun _ _ hs => ⟨calls, hs, hsteady⟩

/-- A call of the policy that is no failure. -/
theorem Going.perform {c : AdaptiveCall} (hc : ∀ q, c ≠ .allocationFailure q) (h : Going a s) :
    Ensures (call (Adapted.perform c)) s (fun _ => Going a) (fun _ => Halted a) := by
  obtain ⟨calls, hcalled, hsteady, hresting⟩ := h
  refine ⟨calls ++ [c], ⟨?_, ?_⟩, hsteady.concat (.inr hresting), resting_concat fun q hq => absurd hq (hc q)⟩
  · change s.world.adaptive.record c = _
    rw [hcalled.1, after_concat]
  · change s.world.calls ++ [c] = _
    rw [hcalled.2]

/-- The recovery from a failed attempt: the driver goes on only if the failure has not exhausted the
    file, or if an external recovery came. -/
theorem recoverFrom_going (h : Going a s) (error : Exc) (window : ChunkWindow) (isAllocation : Bool) :
    Ensures (recoverFrom cb.adapted error window isAllocation) s (fun _ => Going a) (fun _ => Halted a) := by
  have hhalted : ∀ (e : Exc) (s : Session (Adapted V)), Halted a s → Halted a s := fun _ _ hs => hs
  rw [recoverFrom, ensures_bind]
  refine (h.apart (apart_chunkUnwound cb window)).mono (fun _ s₁ h₁ => ?_) hhalted
  rw [ensures_bind]
  refine (h₁.apart (apart_setUncommitted false)).mono (fun _ s₂ h₂ => ?_) hhalted
  rw [ensures_bind]
  refine (h₂.apart (apart_onWorld _)).mono (fun _ s₃ h₃ => ?_) hhalted
  rw [ensures_bind]
  refine (h₃.apart (apart_onWorld _)).mono (fun _ s₄ h₄ => ?_) hhalted
  rw [ensures_bind]
  cases isAllocation with
  | false =>
    have hyield : Ensures (call ((fun _ => false) <$> cb.adapted.recordPressureYield)) s₄
        (fun exhausted s' => exhausted = false ∧ Going a s') (fun _ => Halted a) := by
      have hperform := h₄.perform (c := .pressureYield) (by simp)
      rw [call, ensures_zoom] at hperform ⊢
      exact ensures_map.2 (hperform.mono (fun _ _ hs => ⟨rfl, hs⟩) fun _ _ hs => hs)
    refine hyield.mono ?_ hhalted
    rintro _ s₅ ⟨rfl, h₅⟩
    rw [ensures_bind]
    refine (h₅.apart (apart_onWorld _)).mono (fun _ s₆ h₆ => ?_) hhalted
    rw [ensures_bind]
    refine (h₆.apart (apart_onWorld _)).mono (fun _ s₇ h₇ => ?_) hhalted
    rw [ensures_ite]
    exact ⟨fun hnot => absurd hnot.1 Bool.false_ne_true, fun _ => h₇⟩
  | true =>
    obtain ⟨calls, hcalled, hsteady, hresting⟩ := h₄
    -- The failure comes behind calls that left the driver at rest.
    have hsteady' : OnlyRecovers a (calls ++ [.allocationFailure none]) := hsteady.concat (.inr hresting)
    have hfailure : Ensures (call cb.adapted.recordAllocationFailure) s₄
        (fun exhausted s' => exhausted = (a.after calls).reports none ∧
          Called a (calls ++ [.allocationFailure none]) s')
        (fun _ => Halted a) := by
      refine ⟨congrArg (AdaptiveChunkState.reports · none) hcalled.1, ?_, ?_⟩
      · change s₄.world.adaptive.record (.allocationFailure none) = _
        rw [hcalled.1, after_concat]
      · change s₄.world.calls ++ [.allocationFailure none] = _
        rw [hcalled.2]
    refine hfailure.mono ?_ hhalted
    rintro exhausted s₅ ⟨hexhausted, h₅⟩
    rw [ensures_bind]
    refine (apart_onWorld _ a _ s₅ h₅).mono (fun recoveryWindow s₆ h₆ => ?_) fun _ _ hs => ⟨_, hs, hsteady'⟩
    rw [ensures_bind]
    refine (apart_onWorld _ a _ s₆ h₆).mono (fun _ s₇ h₇ => ?_) fun _ _ hs => ⟨_, hs, hsteady'⟩
    rw [ensures_ite]
    refine ⟨fun _ => ?_, fun _ => ?_⟩
    · -- The external pressure has recovered, which forgets the failure.
      refine ⟨_, ⟨?_, ?_⟩, hsteady'.concat (.inl rfl), resting_concat (by simp)⟩
      · change s₇.world.adaptive.record .externalPressureRecovery = _
        rw [h₇.1]
        exact (after_concat _).symm
      · change s₇.world.calls ++ [.externalPressureRecovery] = _
        rw [h₇.2]
    · rw [ensures_ite]
      -- Otherwise the driver goes on only if the file is not exhausted.
      refine ⟨fun _ => ⟨_, h₇, hsteady'⟩, fun hnot => ⟨_, h₇, hsteady', resting_concat fun q hq => ?_⟩⟩
      cases hq
      rw [← hexhausted]
      exact Bool.eq_false_iff.2 hnot

theorem commit_going (h : Going a s) (state : AssemblyState) (window : ChunkWindow) (staged : StagedChunk)
    (healthy : Bool) :
    Ensures (commit cb.adapted state window staged healthy) s (fun _ => Going a) (fun _ => Halted a) := by
  have hhalted : ∀ (e : Exc) (s : Session (Adapted V)), Halted a s → Halted a s := fun _ _ hs => hs
  have hbody : Apart (V := V) (commitBody cb.adapted state window staged) := by
    intro a calls
    refine preserves_bind ?_ fun next => preserves_bind (fun s hs => hs) fun _ =>
      preserves_bind (apart_setUncommitted _ a calls) fun _ => preserves_pure _
    refine preserves_bind (apart_ofExcept _ a calls) fun next => preserves_bind ?_ fun _ => preserves_pure _
    exact preserves_bind (apart_record _ a calls) fun _ =>
      preserves_bind (apart_onWorld _ a calls) fun _ => apart_record _ a calls
  have htry : Apart (V := V) (tryCatch (commitBody cb.adapted state window staged) fun e => do
      unwindUncommitted cb.adapted window
      throw e) := fun a calls =>
    preserves_tryCatch (hbody a calls) fun _ =>
      preserves_bind (apart_unwindUncommitted cb window a calls) fun _ => preserves_throw _
  rw [commit, ensures_bind]
  refine (h.apart htry).mono (fun next s₁ h₁ => ?_) hhalted
  rw [ensures_bind]
  refine (h₁.apart (apart_unwindUncommitted cb window)).mono (fun _ s₂ h₂ => ?_) hhalted
  rw [ensures_bind]
  refine (h₂.apart (apart_onWorld _)).mono (fun _ s₃ h₃ => ?_) hhalted
  rw [ensures_bind]
  exact (h₃.perform (c := .success healthy) (by simp)).mono (fun _ _ hs => hs) hhalted

/-- One round. -/
theorem round_going (h : Going a s) (state : AssemblyState) :
    Ensures (round cb.adapted state) s (fun _ => Going a) (fun _ => Halted a) := by
  have hhalted : ∀ (e : Exc) (s : Session (Adapted V)), Halted a s → Halted a s := fun _ _ hs => hs
  rw [round, ensures_bind]
  refine (h.apart (apart_onWorld _)).mono (fun _ s₁ h₁ => ?_) hhalted
  rw [ensures_bind]
  refine (h₁.apart (apart_currentSeconds cb)).mono (fun seconds s₂ h₂ => ?_) hhalted
  rw [ensures_bind]
  refine (h₂.apart (apart_ofExcept _)).mono (fun window? s₃ h₃ => ?_) hhalted
  rcases window? with _ | window
  · exact h₃
  · rw [ensures_bind]
    refine (h₃.apart (apart_onWorld _)).mono (fun _ s₄ h₄ => ?_) hhalted
    rw [ensures_bind]
    refine (h₄.apart (apart_onWorld _)).mono (fun audio s₅ h₅ => ?_) hhalted
    rw [ensures_bind]
    refine (h₅.apart (apart_setUncommitted false)).mono (fun _ s₆ h₆ => ?_) hhalted
    rw [ensures_bind]
    refine (h₆.apart (apart_attempt cb audio window)).mono (fun outcome s₇ h₇ => ?_) hhalted
    cases outcome with
    | pressure e => exact ensures_bind.2 ((recoverFrom_going cb h₇ e window false).mono (fun _ _ hs => hs) hhalted)
    | allocation e => exact ensures_bind.2 ((recoverFrom_going cb h₇ e window true).mono (fun _ _ hs => hs) hhalted)
    | staged staged healthy =>
      exact ensures_bind.2 ((commit_going cb h₇ state window staged healthy).mono (fun _ _ hs => hs) hhalted)

/-- The rounds, as many as there are. -/
theorem loop_going (fuel : ℕ) (h : Going a s) (state : AssemblyState) :
    Ensures (loop cb.adapted fuel state) s (fun _ => Going a) (fun _ => Halted a) := by
  induction fuel generalizing s state with
  | zero => exact h
  | succ fuel ih =>
    rw [loop, ensures_ite]
    refine ⟨fun _ => h, fun _ => ?_⟩
    rw [ensures_bind]
    refine (round_going cb h state).mono ?_ fun _ _ hs => hs
    rintro ⟨next, left⟩ s' hs'
    dsimp only
    rw [ensures_ite]
    exact ⟨fun _ => hs', fun _ => ih hs' next⟩

theorem run_halted (h : Going a s) (mediaDuration : ℚ) (fuel : ℕ) :
    Halted a (after (runSegmentedTranscription cb.adapted mediaDuration fuel) s) := by
  refine ensures_iff_after.1 ?_
  rw [runSegmentedTranscription, ensures_bind]
  refine (h.apart (apart_ofExcept _)).mono (fun duration s₁ h₁ => ?_) fun _ _ hs => hs
  rw [ensures_bind]
  refine (h₁.apart (apart_ofExcept _)).mono (fun state s₂ h₂ => ?_) fun _ _ hs => hs
  rw [ensures_bind]
  refine (loop_going cb fuel h₂ state).mono (fun left s₃ h₃ => ?_) fun _ _ hs => hs
  rcases left with _ | state
  · exact h₃.halted
  · have hfinish : Apart (V := V) (finish cb.adapted state) := fun a calls =>
      preserves_bind (apart_onWorld _ a calls) fun _ => preserves_bind (apart_record _ a calls) fun _ =>
        preserves_bind (apart_onWorld _ a calls) fun _ => preserves_bind (apart_onWorld _ a calls) fun _ =>
          preserves_pure _
    exact ensures_map.2 (h₃.halted.apart hfinish)

end Session

/-- The budget of a file, over every history of calls: it stays between the minimum and the baseline; an
    allocation failure reports that the file is exhausted iff it and the recorded failure before it were
    both at the minimum with nothing between them; failures in a row report it two behind those that
    halve the baseline down to the minimum at the latest; and whatever the callbacks of the driver do,
    it has no more failures in a row than that. -/
theorem chunk_budget {baseline minimum successes : ℤ} {a : AdaptiveChunkState}
    (h : AdaptiveChunkState.new baseline minimum successes = .ok a) (calls : List AdaptiveCall) :
    (minimum ≤ (a.after calls).currentSeconds ∧ ((a.after calls).currentSeconds : ℤ) ≤ baseline) ∧
    (∀ q, (a.after calls).reports q = true ↔ (a.after calls).FailsAtMinimum q ∧ LastFailure a calls) ∧
    (∀ qs : List (Option ℚ), (∀ q ∈ qs, ¬ Rejected q) →
      ⌈Real.logb 2 ((baseline.toNat : ℝ) / minimum.toNat)⌉₊ + 2 ≤ qs.length →
      ∃ k < ⌈Real.logb 2 ((baseline.toNat : ℝ) / minimum.toNat)⌉₊ + 2, ∃ q, qs[k]? = some q ∧
        ((a.after calls).after ((qs.take k).map .allocationFailure)).reports q = true) ∧
    ∀ (V : Type) (cb : SegmentedCallbacks V) (v : V) (mediaDuration : ℚ) (fuel : ℕ)
      (before rest : List AdaptiveCall) (qs : List (Option ℚ)), (∀ q ∈ qs, ¬ Rejected q) →
      (after (Session.runSegmentedTranscription cb.adapted mediaDuration fuel)
        ⟨⟨v, a, []⟩, [], false⟩).world.calls = before ++ qs.map .allocationFailure ++ rest →
      qs.length ≤ ⌈Real.logb 2 ((baseline.toNat : ℝ) / minimum.toNat)⌉₊ + 2 := by
  -- A new state has no failure yet, and begins with the baseline.
  obtain ⟨hfresh, hrange, hb, hm⟩ : a.minimumAllocationFailures = 0 ∧
      InRange minimum.toNat baseline.toNat a ∧ 0 < baseline ∧ 0 < minimum := by
    rw [AdaptiveChunkState.new] at h
    split_ifs at h with hbaseline hminimum hsuccesses horder
    obtain rfl := Except.ok.inj h
    exact ⟨rfl, ⟨rfl, rfl, le_refl _⟩, by omega, by omega⟩
  have hafter := inRange_after hrange calls
  refine ⟨⟨?_, ?_⟩, reports_iff hfresh calls, fun qs hqs hlength => hafter.exists_reports hqs hlength, ?_⟩
  · have hle := (a.after calls).minimum_le
    rw [hafter.minimum] at hle
    omega
  · have hle := hafter.le
    omega
  · intro V cb v mediaDuration fuel before rest qs hqs hcalls
    -- The driver calls the state only as an adaptive call does, and stops where it reports.
    have hgoing : Session.Going a (⟨⟨v, a, []⟩, [], false⟩ : Session (Adapted V)) :=
      ⟨[], ⟨rfl, rfl⟩, onlyRecovers_nil, resting_nil⟩
    obtain ⟨calls', hcalled, hsteady⟩ := Session.run_halted cb hgoing mediaDuration fuel
    exact hsteady.length_le hrange hqs (hcalled.2.symm.trans hcalls)

/-- Ten minutes with a minimum of five: the third failure in a row reports that the file is exhausted. -/
theorem chunk_budget_ten_minutes :
    let failures := List.replicate 2 (AdaptiveCall.allocationFailure none)
    ∃ a, AdaptiveChunkState.new 600 300 3 = .ok a ∧
      ((300 : ℤ) ≤ (a.after failures).currentSeconds ∧ ((a.after failures).currentSeconds : ℤ) ≤ 600) ∧
      (a.after failures).reports none = true ∧ (a.after failures).FailsAtMinimum none ∧
      LastFailure a failures := by
  intro failures
  have hnew : AdaptiveChunkState.new 600 300 3 = .ok _ := rfl
  have hbudget := chunk_budget hnew failures
  exact ⟨_, rfl, hbudget.1, by decide, (hbudget.2.1 none).1 (by decide)⟩

end Subgen

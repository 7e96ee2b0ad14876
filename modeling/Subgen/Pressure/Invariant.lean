import Subgen.Pressure.Bookkeeping

/-!
# The invariant of a controller

`Kept` is what holds of a controller and its history between any two operations, as long as
the history is `Regular`: its observations are ones that a reader can give, and no more of
them change the signal than the transition counter counts. An observation that comes when
the counter is exhausted is noted before the counter is looked at and raises, so that the
gate stays as it was under a signal that is no longer clear; from then on the history is not
regular. `Inv` is preserved by every operation.
-/

namespace Subgen

open Procedure Recent PressureController

/-- Observations that a reader can give, and that the counter of the transitions can count. -/
structure Regular (h : History) : Prop where
  canEmit : ∀ o ∈ h.observations, PriorityPressureReader.CanEmit o
  transitions_le : transitions h.observations ≤ maxGeneration

theorem Regular.of_cons {e : ControllerEvent} {h : History} (hr : Regular (e :: h)) :
    Regular h := by
  cases e with
  | observed o =>
    exact ⟨fun o' ho' => hr.canEmit o' (List.mem_cons_of_mem o ho'),
      (Nat.le_add_right _ _).trans hr.transitions_le⟩
  | _ => exact ⟨hr.canEmit, hr.transitions_le⟩

variable {W : Type}

/-- What holds of a session between two operations. -/
def Inv (config : ControllerConfig) (σ : PressureSession W) : Prop :=
  Regular σ.history → Kept config σ.controller σ.history

variable {config : ControllerConfig} {c : PressureController} {h : History} {o : PriorityObservation}

theorem stable_inv : Stable (Inv (W := W) config) where
  world _ _ hσ := hσ
  sample _ _ _ _ hσ hr := { hσ hr with }
  oomCounts _ _ hσ hr := { hσ hr with }
  reasons _ _ _ hσ hr := { hσ hr with }
  observedToken _ _ hσ hr := { hσ hr with }
  polled _ _ hσ hr := { hσ hr with }

theorem kept_new (config : ControllerConfig) (requirements : List ModelLoadRequirement) :
    Kept config (new config requirements) [] where
  config_eq := rfl
  samples := ⟨Nat.zero_le _, fun _ => rfl, .nil, fun _ ht => absurd ht List.not_mem_nil⟩
  clears := ⟨Nat.zero_le _, ⟨[], Nat.zero_le _, .nil⟩, fun _ hg => absurd hg List.not_mem_nil⟩
  episode := ⟨by simp [new], rfl⟩
  signal := by
    refine ⟨fun hconfigured => ?_, rfl⟩
    simp [new, show config.priorityConfigured = true from hconfigured, PriorityObservation.bare,
      signalState]
  state := ⟨rfl, List.not_mem_nil, fun _ _ hsuffix => by simp at hsuffix⟩
  gate := by
    constructor
    · cases hconfigured : config.priorityConfigured <;> simp [new, hconfigured]
    · intro hconfigured hnormal
      simp [new, show config.priorityConfigured = true from hconfigured] at hnormal

/-! ## What keeps the invariants -/

/-- A controller that is not normal has its gate closed. -/
theorem Kept.closed_of_ne (hk : Kept config c h) (hstate : c.state ≠ .normal) :
    c.admissionOpen = false := by
  cases hopen : c.admissionOpen with
  | false => rfl
  | true => exact absurd (hk.gate.normal_of_open hopen) hstate

theorem Kept.finished (hk : Kept config c h) (hstate : c.state = .recovering)
    (hsamples : c.config.recoverySampleCount ≤ c.consecutiveHealthy)
    (hready : c.priorityRecoveryReady = true) :
    Kept config c.finished (.finished c.externalPressureEpisodePending :: h) := by
  have hcount : c.config.priorityConfigured = true → c.priorityObservation.state = .clear ∧
      c.priorityDistinctClearCount = priorityRecoveryClearCount := by
    intro hconfigured
    simp only [priorityRecoveryReady, hconfigured, Bool.not_true, Bool.false_or, Bool.and_eq_true,
      decide_eq_true_eq] at hready
    exact ⟨hready.1, le_antisymm hk.clears.count_le hready.2⟩
  refine ⟨hk.config_eq, hk.samples.none_counted rfl, hk.clears.pass rfl, hk.episode.finished, hk.signal.pass rfl,
    hk.state.finished ⟨?_, ?_, ?_, ?_, hk.episode.pending_iff⟩, fun _ => rfl, fun hconfigured _ =>
      hcount hconfigured⟩
  · rw [← hk.state.state_eq, hstate]
  · exact hsamples.trans hk.samples.healthy_le
  · exact hk.samples.increasing.sublist (filterMap_since_sublist _)
  · intro hconfigured
    obtain ⟨generations, hlength, hd⟩ := hk.clears.distinct
    exact ⟨generations, (hcount hconfigured).2 ▸ hlength, hd⟩

/-- Another state, with the gate closed and no sample counted. -/
theorem Kept.entered (hk : Kept config c h) {s : ControllerState} (hs : s ≠ .normal)
    (hopen : c.admissionOpen = false) (hhealthy : c.consecutiveHealthy = 0) :
    Kept config { c with state := s } (.entered s :: h) where
  config_eq := hk.config_eq
  samples := hhealthy ▸ hk.samples.none_counted rfl
  clears := hk.clears.pass rfl
  episode := hk.episode.pass rfl rfl
  signal := hk.signal.pass rfl
  state := hk.state.entered hs
  gate := ⟨fun ho => absurd (hopen.symm.trans ho) Bool.false_ne_true, fun _ hnormal =>
    absurd hnormal hs⟩

/-- A controller that took in an observation. -/
def PressureController.took (c : PressureController) (o : PriorityObservation) (time : Option ℚ)
    (digest : Option String) : PressureController :=
  { c with
    priorityObservation := o
    priorityObservedAt := time
    priorityTransitionSequence := c.priorityTransitionSequence +
      (if o.state = c.priorityObservation.state ∧ o.producerEpochChanged = false then 0 else 1)
    priorityTransitionObservationDigest := digest
    externalPressureEpisodePending := c.externalPressureEpisodePending || o.external }

section Observing

variable {time : Option ℚ} {digest : Option String} (hk : Kept config c h)
  (hconfigured : c.config.priorityConfigured = true)
include hk hconfigured

theorem Kept.signal_took (o : PriorityObservation) :
    SignalKept c.config.priorityConfigured o.state (c.priorityTransitionSequence +
      if o.state = c.priorityObservation.state ∧ o.producerEpochChanged = false then 0 else 1)
      (.observed o :: h) := by
  have hsignal := hk.signal
  rw [hconfigured] at hsignal ⊢
  exact hsignal.observed o

/-- A clear observation, whose generation is not above the mark if it is not a repetition. -/
theorem Kept.observed (hclear : o.state = .clear) (hresets : o.resets = false)
    (hle : o.repeats = false → ∀ g ∈ o.sourceGeneration,
      ∃ w ∈ c.priorityRecoveryGenerationHighWater, g ≤ w) :
    Kept config (took c o time digest) (.observed o :: h) where
  config_eq := hk.config_eq
  samples := hk.samples.pass rfl hresets
  clears := hk.clears.observed hresets hle
  episode := hk.episode.observed o
  signal := hk.signal_took hconfigured o
  state := hk.state.pass rfl
  gate := ⟨hk.gate.normal_of_open, fun hconfigured hnormal =>
    ⟨hclear, (hk.gate.clear_of_normal hconfigured hnormal).2⟩⟩

/-- A clear publication counts if it is above the mark. -/
theorem Kept.counted {g : ℤ} (hclear : o.state = .clear) (hcounts : o.counts = true)
    (hgeneration : o.sourceGeneration = some g) :
    Kept config ((took c o time digest).counted g) (.observed o :: h) := by
  have hresets := o.not_resets_of_counts hcounts
  rw [PressureController.counted]
  split
  · next habove =>
    refine {
      config_eq := hk.config_eq
      samples := hk.samples.pass rfl hresets
      clears := hk.clears.cleared hcounts hgeneration (by simpa [took, Option.all_eq_true] using habove)
      episode := hk.episode.observed o
      signal := hk.signal_took hconfigured o
      state := hk.state.pass rfl
      gate := ⟨hk.gate.normal_of_open, fun hconfigured hnormal => ⟨hclear, ?_⟩⟩ }
    have hcount := (hk.gate.clear_of_normal hconfigured hnormal).2
    simp [took, hcount]
  · next hle =>
    refine hk.observed hconfigured hclear hresets fun _ g' hg' => ?_
    obtain rfl := Option.some.inj (hgeneration.symm.trans hg')
    simpa [took, Option.all_eq_false] using hle

/-- A controller that took in an observation which resets the signal. -/
def PressureController.resetBy (c : PressureController) (o : PriorityObservation) : PressureController :=
  { c with
    priorityDistinctClearCount := 0
    priorityRecoveryGenerationHighWater :=
      ClearsKept.markBy c.priorityRecoveryGenerationHighWater o }

/-- A reset closes the gate; where the controller was not normal it keeps its state. -/
theorem Kept.held (hstate : c.state ≠ .normal) :
    Kept config ((took c o time digest).resetBy o).closedForPriority (.observed o :: h) where
  config_eq := hk.config_eq
  samples := hk.samples.none_counted rfl
  clears := hk.clears.reset o
  episode := hk.episode.observed o
  signal := hk.signal_took hconfigured o
  state := hk.state.pass rfl
  gate := ⟨fun ho => absurd ho Bool.false_ne_true, fun _ hnormal => absurd hnormal hstate⟩

theorem Kept.retreated {s : ControllerState} (hs : s ≠ .normal) :
    Kept config { ((took c o time digest).resetBy o).closedForPriority with state := s }
      (.entered s :: .observed o :: h) where
  config_eq := hk.config_eq
  samples := by
    have hsamples : SamplesKept s 0 c.lastObservedAt (.observed o :: h) :=
      hk.samples.none_counted rfl
    exact hsamples.none_counted rfl
  clears := (hk.clears.reset o).pass rfl
  episode := (hk.episode.observed o).pass rfl rfl
  signal := (hk.signal_took hconfigured o).pass rfl
  state := (hk.state.pass rfl).entered hs
  gate := ⟨fun ho => absurd ho Bool.false_ne_true, fun _ hnormal => absurd hnormal hs⟩

end Observing

/-! ## The priority signal -/

variable {σ : PressureSession W}

theorem preserves_maybeFinishRecoveryLocked :
    Preserves (Inv config) (maybeFinishRecoveryLocked (W := W)) := by
  intro σ hσ
  rw [maybeFinishRecoveryLocked, ensures_bind, ensures_self, ensures_ite]
  refine ⟨fun ⟨hstate, hsamples, hready⟩ => ?_, fun _ => hσ⟩
  refine ensures_ite.2 ⟨fun _ => hσ, fun _ => ?_⟩
  rw [ensures_modify]
  exact fun hr => (hσ hr.of_cons).finished hstate hsamples hready

/-- A transition is counted, or it raises with the counter exhausted. -/
theorem ensures_priorityTransitionLocked (o : PriorityObservation) (previous : PriorityState) :
    Ensures (priorityTransitionLocked o previous) σ
      (fun _ σ' => ∃ digest, σ' = σ.update ({ · with
        priorityTransitionSequence := σ.controller.priorityTransitionSequence +
          (if o.state = previous ∧ o.producerEpochChanged = false then 0 else 1)
        priorityTransitionObservationDigest := digest }))
      (fun _ σ' => σ' = σ ∧ ¬ (o.state = previous ∧ o.producerEpochChanged = false) ∧
        σ.controller.priorityTransitionSequence = maxGeneration) := by
  rw [priorityTransitionLocked, ensures_ite]
  refine ⟨fun hsame => ?_, fun hchange => ?_⟩
  · rw [ensures_pure, if_pos hsame]
    exact ⟨σ.controller.priorityTransitionObservationDigest, rfl⟩
  · rw [ensures_bind, ensures_self, ensures_ite, ensures_throw, ensures_update, if_neg hchange]
    exact ⟨fun hmax => ⟨rfl, hchange, hmax⟩, fun _ => ⟨_, rfl⟩⟩

theorem ensures_resetPriorityRecovery (o : PriorityObservation) :
    Ensures (resetPriorityRecovery o) σ
      (fun _ σ' => σ' = if o.resets then σ.update (resetBy · o) else σ)
      (fun _ σ' => σ' = σ.update ({ · with priorityDistinctClearCount := 0 }) ∧
        ∃ g ∈ o.sourceGeneration, g ≤ 0) := by
  refine ensures_ite.2 ⟨fun hresets => ?_, fun hresets => ?_⟩
  · rw [ensures_bind, ensures_update, if_pos hresets]
    cases hgeneration : o.sourceGeneration with
    | none => simp [PressureSession.update, resetBy, ClearsKept.markBy, hgeneration]
    | some g =>
      refine ensures_ite.2 ⟨fun hle => ⟨rfl, g, rfl, hle⟩, fun _ => ?_⟩
      simp [PressureSession.update, resetBy, ClearsKept.markBy, hgeneration]
  · rw [ensures_pure, if_neg hresets]

theorem ensures_countClear (o : PriorityObservation) :
    Ensures (countClear o) σ
      (fun _ σ' => (o.counts = false ∧ σ' = σ) ∨
        ∃ g, o.counts = true ∧ o.sourceGeneration = some g ∧ σ' = σ.update (counted · g))
      (fun _ σ' => σ' = σ ∧ ∀ g ∈ o.sourceGeneration, g ≤ 0) := by
  refine ensures_ite.2 ⟨fun hcounts => ?_, fun hcounts => .inl ⟨by simpa using hcounts, rfl⟩⟩
  split
  · next hgeneration => exact ⟨rfl, by simp [hgeneration]⟩
  · next g hgeneration =>
    refine ensures_ite.2 ⟨fun hle => ⟨rfl, by simpa [hgeneration] using hle⟩, fun _ => ?_⟩
    exact .inr ⟨g, hcounts, hgeneration, rfl⟩

theorem retreat_ne_normal (modelResident : Bool) : retreat modelResident ≠ .normal := by
  cases modelResident <;> simp [retreat]

namespace PriorityObservation

theorem resets_iff (o : PriorityObservation) :
    o.resets = true ↔ o.critical = true ∨ o.state = .neutral := by
  simp only [resets, critical, external, Bool.or_eq_true, decide_eq_true_eq]
  tauto

theorem state_eq_clear {o : PriorityObservation} (hresets : o.resets = false)
    (hdisabled : o.state ≠ .disabled) : o.state = .clear := by
  rcases hstate : o.state with _ | _ | _ | _ | _ <;> simp_all [resets]

end PriorityObservation

section Apply

variable {σ' : PressureSession W} {time : Option ℚ} {digest : Option String} {modelResident : Bool}
  (hσ : Inv config σ) (hconfigured : σ.controller.config.priorityConfigured = true)
  (hhistory : σ'.history = .observed o :: σ.history)
include hσ hconfigured hhistory

theorem ensures_applyPriority_of_resets (hresets : o.resets = true)
    (hcontroller : σ'.controller = (σ.controller.took o time digest).resetBy o) :
    Ensures (applyPriority o modelResident) σ' (fun _ => Inv config) (fun _ => Inv config) := by
  obtain ⟨_, w, _⟩ := σ'
  obtain rfl := hcontroller
  obtain rfl := hhistory
  refine ensures_ite.2 ⟨fun _ => ?_, fun hcritical => ensures_ite.2 ⟨fun _ => ?_, fun hneutral => ?_⟩⟩
  · rw [ensures_bind, ensures_update, ensures_enter]
    exact fun hr =>
      (hσ hr.of_cons.of_cons).retreated hconfigured (retreat_ne_normal modelResident)
  · -- A neutral signal holds up a recovery, but takes nothing from a model that yields.
    rw [ensures_bind, ensures_update, ensures_bind, ensures_self, ensures_ite, ensures_enter]
    refine ⟨fun _ hr => ?_, fun hstate hr => (hσ hr.of_cons).held hconfigured hstate⟩
    exact (hσ hr.of_cons.of_cons).retreated hconfigured (by decide)
  · exact absurd (o.resets_iff.1 hresets) (not_or.2 ⟨hcritical, hneutral⟩)

theorem ensures_applyPriority_of_clear (hresets : o.resets = false)
    (hdisabled : o.state ≠ .disabled)
    (hcontroller : σ'.controller = σ.controller.took o time digest) :
    Ensures (applyPriority o modelResident) σ' (fun _ => Inv config) (fun _ => Inv config) := by
  obtain ⟨_, w, _⟩ := σ'
  obtain rfl := hcontroller
  obtain rfl := hhistory
  have hclear := PriorityObservation.state_eq_clear hresets hdisabled
  obtain ⟨hcritical, hneutral⟩ := not_or.1 (o.resets_iff.not.1 (by simp [hresets]))
  refine ensures_ite.2 ⟨fun h => absurd h hcritical, fun _ =>
    ensures_ite.2 ⟨fun h => absurd h hneutral, fun _ => ?_⟩⟩
  rw [ensures_bind]
  refine (ensures_countClear o).mono ?_ ?_
  · rintro _ _ (⟨hcounts, rfl⟩ | ⟨g, hcounts, hgeneration, rfl⟩)
    · refine preserves_maybeFinishRecoveryLocked _ fun hr => ?_
      refine (hσ hr.of_cons).observed hconfigured hclear hresets fun hrepeats => ?_
      simp_all [PriorityObservation.counts, PriorityObservation.repeats,
        PriorityObservation.resets]
    · exact preserves_maybeFinishRecoveryLocked _ fun hr =>
        (hσ hr.of_cons).counted hconfigured hclear hcounts hgeneration
  · rintro _ _ ⟨rfl, hle⟩ hr
    refine (hσ hr.of_cons).observed hconfigured hclear hresets fun _ g hg => ?_
    exact absurd (hle g hg) (not_le.2 ((hr.canEmit o List.mem_cons_self).generation_pos g hg))

end Apply

/-- An observation that comes with the counter of the transitions exhausted. -/
theorem not_regular_of_exhausted (hk : Kept config c h) (hconfigured : c.config.priorityConfigured = true)
    (hchange : ¬ (o.state = c.priorityObservation.state ∧ o.producerEpochChanged = false))
    (hmax : c.priorityTransitionSequence = maxGeneration) : ¬ Regular (.observed o :: h) := by
  intro hr
  have hle := hr.transitions_le
  rw [History.observations_cons_observed, transitions, ← hk.signal.sequence_eq,
    ← hk.signal.state_eq hconfigured, if_neg hchange, hmax] at hle
  exact Nat.not_succ_le_self _ hle

/-- An observation is taken in and then applied, unless the counter is exhausted or its
    generation is one that no reader reports. -/
theorem ensures_takePriority_of {Q : Unit → PressureSession W → Prop}
    {E : Exc → PressureSession W → Prop} (env : PressureEnvironment W) (modelResident : Bool)
    (happly : ∀ σ' time digest, σ'.controller = (if o.resets
        then (σ.controller.took o time digest).resetBy o else σ.controller.took o time digest) →
      σ'.world = (env.clock σ.world).2 → σ'.history = .observed o :: σ.history →
      Ensures (applyPriority o modelResident) σ' Q E)
    (hexhausted : ¬ (o.state = σ.controller.priorityObservation.state ∧
        o.producerEpochChanged = false) →
      σ.controller.priorityTransitionSequence = maxGeneration → ∀ e time,
      E e ⟨{ σ.controller with priorityObservation := o, priorityObservedAt := time },
        (env.clock σ.world).2, .observed o :: σ.history⟩)
    (hgeneration : ∀ g ∈ o.sourceGeneration, g ≤ 0 → ∀ e time sequence digest,
      E e ⟨{ σ.controller with
          priorityObservation := o
          priorityObservedAt := time
          priorityTransitionSequence := sequence
          priorityTransitionObservationDigest := digest
          priorityDistinctClearCount := 0 },
        (env.clock σ.world).2, .observed o :: σ.history⟩) :
    Ensures (takePriority env o modelResident) σ Q E := by
  rw [takePriority, ensures_bind, ensures_self, ensures_bind, take, ensures_modify, ensures_bind,
    ensures_now, ensures_bind, ensures_update, ensures_bind]
  refine (ensures_priorityTransitionLocked o _).mono ?_ ?_
  · rintro _ _ ⟨digest, rfl⟩
    rw [ensures_bind]
    refine (ensures_resetPriorityRecovery o).mono ?_ ?_
    · rintro _ _ rfl
      rw [ensures_bind, ensures_update]
      refine happly _ (some (env.clock σ.world).1) digest ?_ ?_ ?_
      · cases o.resets <;> rfl
      · cases o.resets <;> rfl
      · cases o.resets <;> rfl
    · -- The generation is refused behind the transition, which may have been counted.
      rintro e _ ⟨rfl, g, hg, hle⟩
      exact hgeneration g hg hle e _ _ _
  · -- The counter is compared before anything but the observation is stored.
    rintro e _ ⟨rfl, hchange, hmax⟩
    exact hexhausted hchange hmax e _

theorem ensures_takePriority (env : PressureEnvironment W) (modelResident : Bool) (hσ : Inv config σ)
    (hconfigured : σ.controller.config.priorityConfigured = true) (hdisabled : o.state ≠ .disabled) :
    Ensures (takePriority env o modelResident) σ (fun _ => Inv config) (fun _ => Inv config) := by
  refine ensures_takePriority_of env modelResident ?_ ?_ ?_
  · intro σ' time digest hcontroller _ hhistory
    cases hresets : o.resets with
    | true =>
      rw [hresets, if_pos rfl] at hcontroller
      exact ensures_applyPriority_of_resets hσ hconfigured hhistory hresets hcontroller
    | false =>
      rw [hresets, if_neg Bool.false_ne_true] at hcontroller
      exact ensures_applyPriority_of_clear hσ hconfigured hhistory hresets hdisabled hcontroller
  · intro hchange hmax e time hr
    exact absurd hr (not_regular_of_exhausted (hσ hr.of_cons) hconfigured hchange hmax)
  · intro g hg hle e time sequence digest hr
    exact absurd hle (not_le.2 ((hr.canEmit o List.mem_cons_self).generation_pos g hg))

theorem preserves_observePriorityLocked (env : PressureEnvironment W) (o : PriorityObservation)
    (modelResident : Bool) : Preserves (Inv config) (observePriorityLocked env o modelResident) := by
  refine preserves_bind (preserves_ofExcept _) fun _ σ hσ => ?_
  rw [ensures_bind, ensures_self]
  refine ensures_ite.2 ⟨fun _ => ensures_ite.2 ⟨fun _ => hσ, fun _ => hσ⟩, fun hconfigured => ?_⟩
  refine ensures_ite.2 ⟨fun _ => hσ, fun ho => ?_⟩
  exact ensures_takePriority env modelResident hσ (by simpa using hconfigured) (not_or.1 ho).2

end Subgen

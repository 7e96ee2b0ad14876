import Subgen.Pressure.Safety

/-!
# Recovery has hysteresis

A controller that yields does not become normal in one step, and one that recovers becomes
normal only after enough healthy samples and clear publications (`recovery_hysteresis`).

Within one operation the samples come first and the priority signal second, or the other way
round, and either can complete a recovery. What keeps a controller that yielded before the
operation from being normal behind it is that neither of the two counts can be full: the
healthy samples begin at none (`Held`), and the clear publications too, if it was the signal
that made it recover (`Short`). There is one way out, and it leads to normal in one step: a
sample whose device was found stale when the telemetry was checked, and fresh a moment later
when the recovery was (`normal_after_yielding`). `Steady` excludes it.
-/

namespace Subgen

open Procedure Recent PressureController

variable {W : Type} {config : ControllerConfig} {σ : PressureSession W} {o : PriorityObservation}

/-! ## What an observation does -/

/-- An observation keeps the state and counts at most once, or it makes the controller retreat,
    or it completes a recovery. -/
inductive PriorityEffect (c c' : PressureController) : Prop
  | kept (hstate : c'.state = c.state) (hhealthy : c'.consecutiveHealthy = c.consecutiveHealthy)
      (hcount : c'.priorityDistinctClearCount ≤ c.priorityDistinctClearCount + 1)
  | retreated (hconfigured : c.config.priorityConfigured = true) (hstate : c'.state ≠ .normal)
      (hhealthy : c'.consecutiveHealthy = 0) (hcount : c'.priorityDistinctClearCount = 0)
  | finished (hstate : c.state = .recovering)
      (hhealthy : c.config.recoverySampleCount ≤ c.consecutiveHealthy)
      (hcount : c.config.priorityConfigured = true →
        priorityRecoveryClearCount ≤ c.priorityDistinctClearCount + 1)

/-- The effect of what a procedure does on the controller `c`. -/
def HasEffect (c : PressureController) (σ : PressureSession W) : Prop :=
  σ.controller.config = c.config ∧ PriorityEffect c σ.controller

/-- What the end of a recovery does. -/
theorem ensures_maybeFinish_effect {c : PressureController}
    (hconfig : σ.controller.config = c.config) (hstate : σ.controller.state = c.state)
    (hhealthy : σ.controller.consecutiveHealthy = c.consecutiveHealthy)
    (hcount : σ.controller.priorityDistinctClearCount ≤ c.priorityDistinctClearCount + 1) :
    Ensures maybeFinishRecoveryLocked σ (fun _ => HasEffect c) (fun _ => HasEffect c) := by
  have hkept : HasEffect c σ := ⟨hconfig, .kept hstate hhealthy hcount⟩
  rw [maybeFinishRecoveryLocked, ensures_bind, ensures_self, ensures_ite]
  refine ⟨?_, fun _ => hkept⟩
  rintro ⟨hrecovering, hsamples, hready⟩
  refine ensures_ite.2 ⟨fun _ => hkept, fun _ => ?_⟩
  rw [ensures_modify]
  refine ⟨hconfig, .finished (hstate.symm.trans hrecovering) ?_ fun hconfigured => ?_⟩
  · rwa [hconfig, hhealthy] at hsamples
  · rw [priorityRecoveryReady, hconfig, hconfigured] at hready
    simp only [Bool.not_true, Bool.false_or, Bool.and_eq_true, decide_eq_true_eq] at hready
    exact hready.2.trans hcount

/-- What an observation of the signal does. -/
theorem ensures_applyPriority_effect {c : PressureController} (modelResident : Bool)
    (hconfigured : c.config.priorityConfigured = true)
    (hconfig : σ.controller.config = c.config) (hstate : σ.controller.state = c.state)
    (hhealthy : σ.controller.consecutiveHealthy = c.consecutiveHealthy)
    (hcount : σ.controller.priorityDistinctClearCount ≤ c.priorityDistinctClearCount)
    (hreset : o.resets = true → σ.controller.priorityDistinctClearCount = 0) :
    Ensures (applyPriority o modelResident) σ (fun _ => HasEffect c) (fun _ => HasEffect c) := by
  refine ensures_ite.2 ⟨fun hcritical => ?_, fun _ => ensures_ite.2 ⟨fun hneutral => ?_, fun _ => ?_⟩⟩
  · rw [ensures_bind, ensures_update, ensures_enter]
    exact ⟨hconfig, .retreated hconfigured (retreat_ne_normal modelResident) rfl
      (hreset (o.resets_iff.2 (.inl hcritical)))⟩
  · have hzero := hreset (o.resets_iff.2 (.inr hneutral))
    rw [ensures_bind, ensures_update, ensures_bind, ensures_self, ensures_ite, ensures_enter]
    exact ⟨fun _ => ⟨hconfig, .retreated hconfigured
        (by decide : ControllerState.recovering ≠ .normal) rfl hzero⟩,
      fun hne => ⟨hconfig, .retreated hconfigured hne rfl hzero⟩⟩
  · rw [ensures_bind]
    refine (ensures_countClear o).mono ?_ ?_
    · rintro _ _ (⟨_, rfl⟩ | ⟨g, _, _, rfl⟩)
      · exact ensures_maybeFinish_effect hconfig hstate hhealthy (hcount.trans (Nat.le_succ _))
      · rw [PressureSession.update, counted]
        split
        · exact ensures_maybeFinish_effect hconfig hstate hhealthy
            ((min_le_right _ _).trans (Nat.succ_le_succ hcount))
        · exact ensures_maybeFinish_effect hconfig hstate hhealthy (hcount.trans (Nat.le_succ _))
    · rintro _ _ ⟨rfl, _⟩
      exact ⟨hconfig, .kept hstate hhealthy (hcount.trans (Nat.le_succ _))⟩

/-- The same as a whole call. -/
theorem ensures_observePriority_effect (env : PressureEnvironment W) (o : PriorityObservation)
    (modelResident : Bool) (σ : PressureSession W) :
    Ensures (observePriorityLocked env o modelResident) σ (fun _ => HasEffect σ.controller)
      (fun _ => HasEffect σ.controller) := by
  have hkept : HasEffect σ.controller σ := ⟨rfl, .kept rfl rfl (Nat.le_succ _)⟩
  rw [observePriorityLocked, ensures_bind, ensures_ofExcept]
  refine ⟨fun _ _ => ?_, fun _ _ => hkept⟩
  rw [ensures_bind, ensures_self, ensures_ite, ensures_ite, ensures_ite]
  refine ⟨fun _ => ⟨fun _ => hkept, fun _ => hkept⟩, fun hno => ⟨fun _ => hkept, fun _ => ?_⟩⟩
  have hconfigured : σ.controller.config.priorityConfigured = true := by simpa using hno
  refine ensures_takePriority_of env modelResident ?_ ?_ ?_
  · intro σ' time digest hcontroller _ _
    refine ensures_applyPriority_effect modelResident hconfigured ?_ ?_ ?_ ?_ ?_
    · rw [hcontroller]
      cases o.resets <;> rfl
    · rw [hcontroller]
      cases o.resets <;> rfl
    · rw [hcontroller]
      cases o.resets <;> rfl
    · rw [hcontroller]
      cases o.resets <;> simp [took, resetBy]
    · intro hresets
      rw [hcontroller, hresets]
      rfl
  · exact fun _ _ _ _ => ⟨rfl, .kept rfl rfl (Nat.le_succ _)⟩
  · exact fun _ _ _ _ _ _ _ => ⟨rfl, .kept rfl rfl (Nat.zero_le _)⟩

/-! ## Counts that are not full -/

/-- A controller that is not normal. -/
def Stopped (σ : PressureSession W) : Prop := σ.controller.state ≠ .normal

/-- The healthy samples are too few. -/
def Held (config : ControllerConfig) (σ : PressureSession W) : Prop :=
  σ.controller.config = config ∧ σ.controller.state ≠ .normal ∧
    σ.controller.consecutiveHealthy < config.recoverySampleCount

/-- The clear publications are too few. -/
def Short (m : ℕ) (σ : PressureSession W) : Prop :=
  σ.controller.config.priorityConfigured = true ∧ σ.controller.state ≠ .normal ∧
    σ.controller.priorityDistinctClearCount ≤ m

/-- A controller that yields, or was made to recover by the signal. -/
def YieldingOrShort (σ : PressureSession W) : Prop :=
  σ.controller.state = .yielding ∨ Short 0 σ

/-- The world and the clock do not bear on it that the controller has stopped. -/
theorem stable_stopped : Stable (Stopped (W := W)) :=
  ⟨fun _ _ h => h, fun _ _ _ _ h => h, fun _ _ h => h, fun _ _ _ h => h, fun _ _ h => h,
    fun _ _ h => h⟩

/-- Nor do they bear on it that it is held. -/
theorem stable_held : Stable (Held (W := W) config) :=
  ⟨fun _ _ h => h, fun _ _ _ _ h => h, fun _ _ h => h, fun _ _ _ h => h, fun _ _ h => h,
    fun _ _ h => h⟩

/-- Nor do they bear on the number of samples that it has counted. -/
theorem stable_short (m : ℕ) : Stable (Short (W := W) m) :=
  ⟨fun _ _ h => h, fun _ _ _ _ h => h, fun _ _ h => h, fun _ _ _ h => h, fun _ _ h => h,
    fun _ _ h => h⟩

/-- A controller that is held has stopped. -/
theorem Held.stopped (hσ : Held config σ) : Stopped σ := hσ.2.1

/-- So has one that is short of samples. -/
theorem Short.stopped {m : ℕ} (hσ : Short m σ) : Stopped σ := hσ.2.1

/-- So has one that yields. -/
theorem YieldingOrShort.stopped (hσ : YieldingOrShort σ) : Stopped σ := by
  rcases hσ with hyielding | hshort
  · rw [Stopped, hyielding]
    decide
  · exact hshort.stopped

/-! ## Polls and samples -/

/-- A change of the controller that keeps the property. -/
theorem preserves_update_of {I : PressureSession W → Prop}
    {f : PressureController → PressureController} (hf : ∀ σ, I σ → I (σ.update f)) :
    Preserves I (PressureController.update f) := fun σ hσ => hf σ hσ

section

variable (env : PressureEnvironment W) (modelResident : Bool)

/-- A poll of the signal does not end a yield. -/
theorem ensures_poll_of_yielding (observation : Option PriorityObservation) (force : Bool)
    (hσ : σ.controller.state = .yielding) :
    Ensures (pollPriorityLocked env modelResident observation force) σ (fun _ => YieldingOrShort)
      (fun _ => YieldingOrShort) := by
  have hstable : Stable fun σ : PressureSession W => σ.controller.state = .yielding :=
    ⟨fun _ _ h => h, fun _ _ _ _ h => h, fun _ _ h => h, fun _ _ _ h => h, fun _ _ h => h,
      fun _ _ h => h⟩
  have hstable' : Stable (YieldingOrShort (W := W)) :=
    ⟨fun _ _ h => h, fun _ _ _ _ h => h, fun _ _ h => h, fun _ _ _ h => h, fun _ _ h => h,
      fun _ _ h => h⟩
  have heffect : ∀ σ σ' : PressureSession W, σ.controller.state = .yielding →
      HasEffect σ.controller σ' → YieldingOrShort σ' := by
    rintro σ σ' hyielding ⟨hconfig, heffect⟩
    cases heffect with
    | kept hstate => exact .inl (hstate.trans hyielding)
    | retreated hconfigured hstate _ hcount =>
      exact .inr ⟨by rw [hconfig, hconfigured], hstate, hcount.le⟩
    | finished hstate => exact absurd (hyielding.symm.trans hstate) (by decide)
  refine hstable.ensures_pollPriorityLocked env hstable' (fun _ h => .inl h) ?_ _ _ _ hσ
  intro o resident σ' hσ'
  exact (ensures_observePriority_effect env o resident σ').mono
    (fun _ _ h => heffect σ' _ hσ' h) fun _ _ h => heffect σ' _ hσ' h

/-- A poll of the signal does not end a recovery that is held. -/
theorem preserves_poll_held (observation : Option PriorityObservation) (force : Bool) :
    Preserves (Held config) (pollPriorityLocked env modelResident observation force) := by
  have heffect : ∀ σ σ' : PressureSession W, Held config σ → HasEffect σ.controller σ' →
      Held config σ' := by
    rintro σ σ' ⟨hconfig, hstate, hfew⟩ ⟨hconfig', heffect⟩
    refine ⟨hconfig'.trans hconfig, ?_⟩
    cases heffect with
    | kept hstate' hhealthy => exact ⟨hstate' ▸ hstate, hhealthy ▸ hfew⟩
    | retreated _ hstate' hhealthy => exact ⟨hstate', hhealthy ▸ config.recoverySampleCount_pos⟩
    | finished _ hhealthy => exact absurd (hconfig ▸ hhealthy) (not_le.2 hfew)
  refine stable_held.preserves_pollPriorityLocked env (fun o resident σ hσ => ?_) _ _ _
  exact (ensures_observePriority_effect env o resident σ).mono
    (fun _ _ h => heffect σ _ hσ h) fun _ _ h => heffect σ _ hσ h

/-- One more clear publication does not complete the recovery. -/
theorem ensures_poll_short {m : ℕ} (hm : m + 1 < priorityRecoveryClearCount)
    (observation : Option PriorityObservation) (force : Bool) (hσ : Short m σ) :
    Ensures (pollPriorityLocked env modelResident observation force) σ (fun _ => Short (m + 1))
      (fun _ => Short (m + 1)) := by
  have heffect : ∀ σ σ' : PressureSession W, Short m σ → HasEffect σ.controller σ' →
      Short (m + 1) σ' := by
    rintro σ σ' ⟨hconfigured, hstate, hfew⟩ ⟨hconfig, heffect⟩
    refine ⟨by rw [hconfig, hconfigured], ?_⟩
    cases heffect with
    | kept hstate' _ hcount => exact ⟨hstate' ▸ hstate, hcount.trans (Nat.succ_le_succ hfew)⟩
    | retreated _ hstate' _ hcount => exact ⟨hstate', hcount ▸ Nat.zero_le _⟩
    | finished _ _ hcount =>
      exact absurd ((hcount hconfigured).trans (Nat.succ_le_succ hfew)) (not_le.2 hm)
  refine (stable_short m).ensures_pollPriorityLocked env (stable_short (m + 1))
    (fun _ h => ⟨h.1, h.2.1, h.2.2.trans (Nat.le_succ m)⟩) ?_ _ _ _ hσ
  intro o resident σ' hσ'
  exact (ensures_observePriority_effect env o resident σ').mono
    (fun _ _ h => heffect σ' _ hσ' h) fun _ _ h => heffect σ' _ hσ' h

/-- No sample completes a recovery with too few clear publications. -/
theorem preserves_observeLocked_short {m : ℕ} (hm : m < priorityRecoveryClearCount)
    (sample : PressureSample) (inferenceActive : Bool) :
    Preserves (Short m) (observeLocked env sample modelResident inferenceActive) := by
  have hstable := stable_short (W := W) m
  have henter : ∀ s : ControllerState, s ≠ .normal →
      Preserves (Short m) (enter (W := W) s) := fun s hs σ hσ => ⟨hσ.1, hs, hσ.2.2⟩
  -- A retreat leads away from the normal state, never back into it.
  have hretreat := henter (retreat modelResident) (retreat_ne_normal modelResident)
  have hfinish : Preserves (Short m) (maybeFinishRecoveryLocked (W := W)) := by
    rintro σ ⟨hconfigured, hstate, hfew⟩
    rw [maybeFinishRecoveryLocked, ensures_bind, ensures_self, ensures_ite]
    refine ⟨?_, fun _ => ⟨hconfigured, hstate, hfew⟩⟩
    rintro ⟨_, _, hready⟩
    rw [priorityRecoveryReady, hconfigured] at hready
    simp only [Bool.not_true, Bool.false_or, Bool.and_eq_true, decide_eq_true_eq] at hready
    -- The recovery asks for more clear publications than there were.
    exact absurd (hready.2.trans hfew) (not_le.2 hm)
  have htelemetry : ∀ fresh, Preserves (Short m) (checkTelemetry (W := W) fresh modelResident) := by
    intro fresh
    refine preserves_self_bind fun c => preserves_ite (fun _ => ?_) fun _ => preserves_pure _
    refine preserves_ite (fun _ => preserves_update_of fun _ h => h) fun _ => ?_
    refine preserves_bind (preserves_update_of fun _ h => h) fun _ => ?_
    refine preserves_ite (fun _ => ?_) fun _ => preserves_pure _
    exact preserves_bind (preserves_update_of fun _ h => h) fun _ => hretreat
  have hrecovering : ∀ observedAt pressured, Preserves (Short m)
      (recoveringSample env sample observedAt pressured modelResident inferenceActive) := by
    intro observedAt pressured
    refine preserves_bind (preserves_update_of fun _ h => h) fun _ => ?_
    refine preserves_bind (preserves_ite (fun _ => preserves_pure _) fun _ =>
      (hstable.timed env).preserves_recoveryQualified sample) fun admits => ?_
    refine preserves_ite (fun _ => ?_) fun _ => ?_
    · exact preserves_bind (preserves_modify fun _ h => h) fun _ => hfinish
    · refine preserves_bind (preserves_modify fun _ h => h) fun _ => ?_
      refine preserves_bind (preserves_update_of fun _ h => h) fun _ => preserves_self_bind fun c => ?_
      refine preserves_ite (fun _ => henter _ (by decide)) fun _ => ?_
      exact preserves_ite (fun _ => henter _ (by decide)) fun _ => preserves_pure _
  -- The normal branch is not taken, as the controller is out of that state.
  have hprocess : ∀ observedAt pressure critical fresh, Preserves (Short m)
      (processSample env sample observedAt pressure critical fresh modelResident
        inferenceActive) := by
    intro observedAt pressure critical fresh σ hσ
    rw [processSample, ensures_bind, ensures_self, ensures_ite, ensures_ite]
    exact ⟨fun hnormal => absurd hnormal hσ.2.1, fun _ =>
      ⟨fun _ => hrecovering _ _ σ hσ, fun _ => hσ⟩⟩
  refine preserves_bind (preserves_ofExcept _) fun observedAt => preserves_self_bind fun c => ?_
  refine preserves_ite (fun _ => preserves_pure _) fun _ => ?_
  refine preserves_bind (preserves_update_of fun _ h => h) fun _ => ?_
  refine preserves_bind ((hstable.timed env).preserves_classify sample) fun reasons => ?_
  refine preserves_bind (preserves_update_of fun _ h => h) fun _ => ?_
  refine preserves_bind ((hstable.timed env).preserves_gpuFresh sample) fun fresh => ?_
  refine preserves_bind (htelemetry fresh) fun _ => ?_
  exact preserves_bind (hprocess _ _ _ _) fun _ => preserves_update_of fun _ h => h

end

/-! ## A device that stays stale -/

/-- A reading that is too old stays too old. -/
theorem gpuSampleIsFresh_of_le {sample : PressureSample} {device : Option String}
    {time later maximumAge : ℚ} (hle : time ≤ later)
    (hobserved : ∀ t ∈ sample.gpuObservedAt, t ≤ time)
    (hfresh : gpuSampleIsFresh sample device later maximumAge = true) :
    gpuSampleIsFresh sample device time maximumAge = true := by
  rw [gpuSampleIsFresh] at hfresh
  split at hfresh
  · cases hfresh
  · cases hfresh
  · next total free observed decision hreading =>
    obtain ⟨hgpu, hpos, rfl, _, hbytes⟩ := gpuReading_eq_ok.1 hreading
    have hbefore := hobserved observed hgpu
    have hreading' : gpuReading sample time = .ok (some (total, free), observed, time) :=
      gpuReading_eq_ok.2 ⟨hgpu, hpos, rfl, hpos.trans hbefore, hbytes⟩
    simp only [gpuSampleIsFresh, hreading', Bool.and_eq_true, isFresh, decide_eq_true_eq] at hfresh ⊢
    exact ⟨hfresh.1, by linarith, by linarith [hfresh.2.2]⟩

section Yielding

variable (env : PressureEnvironment W) (sample : PressureSample) (modelResident : Bool)

/-- What rules a bounce out: more than one sample is needed, or no telemetry, or the clock does
    not go back and has passed the time of the reading of the device. -/
def Settles (config : ControllerConfig) (σ : PressureSession W) : Prop :=
  2 ≤ config.recoverySampleCount ∨ config.requireGpuTelemetry = false ∨
    ((∀ w, (env.clock w).1 ≤ (env.clock (env.clock w).2).1) ∧
      ∀ t ∈ sample.gpuObservedAt, t ≤ (env.clock σ.world).1)

/-- A controller in this state, with no healthy sample. -/
def Idle (config : ControllerConfig) (s : ControllerState) (σ : PressureSession W) : Prop :=
  σ.controller.config = config ∧ σ.controller.state = s ∧ σ.controller.consecutiveHealthy = 0

/-- The world and the clock do not bear on it that nothing is being loaded. -/
theorem stable_idle (s : ControllerState) : Stable (Idle (W := W) config s) :=
  ⟨fun _ _ h => h, fun _ _ _ _ h => h, fun _ _ h => h, fun _ _ _ h => h, fun _ _ h => h,
    fun _ _ h => h⟩

/-- An idle controller outside of the normal state is held. -/
theorem Idle.held {s : ControllerState} (hσ : Idle config s σ) (hs : s ≠ .normal) :
    Held config σ :=
  ⟨hσ.1, hσ.2.1 ▸ hs, hσ.2.2 ▸ config.recoverySampleCount_pos⟩

/-- A sample settles it later as well. -/
theorem timed_settles : Timed env fun σ => Idle config .yielding σ ∧ Settles env sample config σ where
  now σ hσ := by
    rw [ensures_now]
    refine ⟨hσ.1, ?_⟩
    rcases hσ.2 with htwo | hnone | ⟨hclock, hpast⟩
    · exact .inl htwo
    · exact .inr (.inl hnone)
    · exact .inr (.inr ⟨hclock, fun t ht => (hpast t ht).trans (hclock σ.world)⟩)
  oomCounts _ _ hσ := hσ

/-- The next reading of the device is stale too. -/
def StaysStale (σ : PressureSession W) : Prop :=
  σ.controller.config.gpuReserveBytes.isSome = true ∧
    (gpuSampleIsFresh sample σ.controller.config.expectedGpuDevice (env.clock σ.world).1
      σ.controller.config.maximumSampleAgeSeconds &&
        σ.controller.gpuReserveFloorSatisfied sample) = false

/-- Whether the reading of the device is fresh. -/
theorem ensures_gpuFresh (hreserve : σ.controller.config.gpuReserveBytes.isSome = true) :
    Ensures (gpuFresh env sample) σ
      (fun fresh σ' => σ' = { σ with world := (env.clock σ.world).2 } ∧
        fresh = (gpuSampleIsFresh sample σ.controller.config.expectedGpuDevice
          (env.clock σ.world).1 σ.controller.config.maximumSampleAgeSeconds &&
            σ.controller.gpuReserveFloorSatisfied sample))
      (fun _ _ => False) := by
  have hsome : ¬ σ.controller.config.gpuReserveBytes.isNone = true := by
    simpa [Option.isSome_iff_ne_none] using hreserve
  rw [gpuFresh, ensures_bind, gpuTelemetryFresh, ensures_bind, ensures_self, ensures_ite]
  refine ⟨fun h => absurd h hsome, fun _ => ?_⟩
  rw [ensures_bind, ensures_now, ensures_pure, ensures_bind, ensures_self, ensures_pure]
  exact ⟨rfl, rfl⟩

/-- What the freshness of the device says about the next reading. -/
theorem ensures_gpuFresh_settles (hσ : Idle config .yielding σ ∧ Settles env sample config σ) :
    Ensures (gpuFresh env sample) σ
      (fun fresh σ' => Idle config .yielding σ' ∧ (fresh = true ∨ 2 ≤ config.recoverySampleCount ∨
        config.requireGpuTelemetry = false ∨ StaysStale env sample σ'))
      (fun _ => Held config) := by
  have hstable : Stable (Idle (W := W) config .yielding) := stable_idle .yielding
  have hidle := (hstable.timed env).preserves_gpuFresh sample σ hσ.1
  have hheld : ∀ σ' : PressureSession W, Idle config .yielding σ' → Held config σ' := fun _ h =>
    h.held (by decide)
  rcases hσ.2 with htwo | hnone | ⟨hclock, hpast⟩
  · exact hidle.mono (fun _ σ' h => ⟨h, .inr (.inl htwo)⟩) fun _ σ' h => hheld σ' h
  · exact hidle.mono (fun _ σ' h => ⟨h, .inr (.inr (.inl hnone))⟩) fun _ σ' h => hheld σ' h
  · by_cases hrequired : config.requireGpuTelemetry = true
    · have hreserve := config.telemetry_reserve hrequired
      rw [← hσ.1.1] at hreserve
      refine (ensures_gpuFresh env sample hreserve).mono ?_ fun _ _ h => h.elim
      rintro fresh _ ⟨rfl, hfresh⟩
      refine ⟨hσ.1, ?_⟩
      cases fresh with
      | true => exact .inl rfl
      | false =>
        refine .inr (.inr (.inr ⟨hreserve, ?_⟩))
        -- Had it been fresh later, it would have been fresh now.
        refine Bool.and_eq_false_iff.2 ((Bool.and_eq_false_iff.1 hfresh.symm).imp_left fun hstale => ?_)
        refine Bool.eq_false_iff.2 fun hlater => Bool.eq_false_iff.1 hstale ?_
        exact gpuSampleIsFresh_of_le (hclock σ.world) hpast hlater
    · have hnone : config.requireGpuTelemetry = false := by simpa using hrequired
      exact hidle.mono (fun _ σ' h => ⟨h, .inr (.inr (.inl hnone))⟩) fun _ σ' h => hheld σ' h

/-- The state a sample is processed in: the controller yields, or it was made to recover by a
    device that stays stale. -/
def Processable (config : ControllerConfig) (σ : PressureSession W) : Prop :=
  Idle config .yielding σ ∨ (Idle config .recovering σ ∧
    (2 ≤ config.recoverySampleCount ∨ StaysStale env sample σ))

/-- A sample that is fresh passes the check of the telemetry. -/
theorem ensures_checkTelemetry_settles {fresh : Bool} (hσ : Idle config .yielding σ)
    (hfresh : fresh = true ∨ 2 ≤ config.recoverySampleCount ∨
      config.requireGpuTelemetry = false ∨ StaysStale env sample σ) :
    Ensures (checkTelemetry fresh modelResident) σ (fun _ => Processable env sample config)
      (fun _ _ => False) := by
  rw [checkTelemetry, ensures_bind, ensures_self, ensures_ite, ensures_ite, ensures_update,
    ensures_bind, ensures_update, ensures_ite, ensures_bind, ensures_update, ensures_enter]
  refine ⟨fun hrequired => ⟨fun _ => .inl hσ, fun hstale => ⟨fun _ => ?_, fun _ => .inl hσ⟩⟩,
    fun _ => .inl hσ⟩
  cases modelResident with
  | true => exact .inl ⟨hσ.1, rfl, rfl⟩
  | false =>
    refine .inr ⟨⟨hσ.1, rfl, rfl⟩, ?_⟩
    rcases hfresh with hyes | htwo | hnone | hstays
    · exact absurd hyes hstale
    · exact .inl htwo
    · exact absurd hrequired (by rw [hσ.1, hnone]; decide)
    · exact .inr hstays

/-- A stale sample admits nothing. -/
theorem ensures_sampleAdmits_stale {pressured : Bool} (hσ : Idle config .recovering σ)
    (hstale : StaysStale env sample σ) :
    Ensures (sampleAdmits env sample pressured) σ
      (fun admits σ' => admits = false ∧ Idle config .recovering σ')
      (fun _ => Idle config .recovering) := by
  rw [sampleAdmits, ensures_ite, ensures_pure]
  refine ⟨fun _ => ⟨rfl, hσ⟩, fun _ => ?_⟩
  rw [recoveryQualified, ensures_bind, ensures_self, ensures_ite, ensures_pure]
  refine ⟨fun _ => ⟨rfl, hσ⟩, fun _ => ?_⟩
  rw [ensures_bind, reserveKnown, ensures_bind, ensures_self, ensures_ite]
  refine ⟨fun _ => ?_, fun h => absurd hstale.1 h⟩
  refine (ensures_gpuFresh env sample hstale.1).mono ?_ fun _ _ h => h.elim
  rintro fresh _ ⟨rfl, hfresh⟩
  rw [hstale.2] at hfresh
  subst hfresh
  exact ⟨rfl, hσ⟩

/-- A sample that settles a yield begins the recovery at most. -/
theorem ensures_processSample_settles {observedAt : ℚ} (pressure critical : List String)
    (fresh inferenceActive : Bool) (hσ : Processable env sample config σ) :
    Ensures (processSample env sample observedAt pressure critical fresh modelResident
      inferenceActive) σ (fun _ => Held config) (fun _ => Held config) := by
  -- Where the sample does not qualify, the controller goes back or stays.
  have hunqualified : ∀ (pressured : Bool) (σ : PressureSession W), Idle config .recovering σ →
      Ensures (record (.sampled observedAt pressured false) >>= fun _ =>
        unqualifiedSample pressured modelResident inferenceActive) σ
        (fun _ => Held config) (fun _ => Held config) := by
    rintro pressured σ ⟨hconfig, hrecovering, _⟩
    have hyield : (0 : ℕ) < config.recoverySampleCount := config.recoverySampleCount_pos
    rw [ensures_bind, ensures_record, unqualifiedSample, ensures_bind, ensures_update, ensures_bind,
      ensures_self, ensures_ite, ensures_enter, ensures_ite, ensures_enter]
    have hyielding : ControllerState.yielding ≠ .normal := by decide
    have hstate : σ.controller.state ≠ .normal := by rw [hrecovering]; decide
    exact ⟨fun _ => ⟨hconfig, hyielding, hyield⟩, fun _ => ⟨fun _ => ⟨hconfig, hyielding, hyield⟩,
      fun _ => ⟨hconfig, hstate, hyield⟩⟩⟩
  -- The controller yields, or it recovers and has a reason not to finish.
  rcases hσ with hσ | ⟨hσ, hcause⟩
  · rw [processSample, ensures_bind, ensures_self, hσ.2.1]
    exact ensures_ite.2 ⟨fun h => absurd h (by decide), fun _ =>
      ensures_ite.2 ⟨fun h => absurd h (by decide), fun _ => hσ.held (by decide)⟩⟩
  · rw [processSample, ensures_bind, ensures_self, hσ.2.1]
    refine ensures_ite.2 ⟨fun h => absurd h (by decide), fun _ =>
      ensures_ite.2 ⟨fun _ => ?_, fun h => absurd rfl h⟩⟩
    rw [recoveringSample, ensures_bind, ensures_update, ensures_bind]
    have hcalm : Idle config .recovering (σ.update ({ · with consecutivePressure := 0 })) := hσ
    rcases hcause with htwo | hstale
    · -- One sample is not enough.
      have hstable : Stable (Idle (W := W) config .recovering) := stable_idle .recovering
      have hidle := hstable.timed env
      have hadmits : Preserves (Idle config .recovering)
          (sampleAdmits env sample (!pressure.isEmpty || !critical.isEmpty)) :=
        preserves_ite (fun _ => preserves_pure _) fun _ => hidle.preserves_recoveryQualified sample
      refine (hadmits _ hcalm).mono ?_ fun _ σ' h => h.held (by decide)
      rintro admits σ' ⟨hconfig, hrecovering, hhealthy⟩
      refine ensures_ite.2 ⟨fun _ => ?_, fun _ => hunqualified _ σ' ⟨hconfig, hrecovering, hhealthy⟩⟩
      have hfew : min σ'.controller.config.recoverySampleCount
          (σ'.controller.consecutiveHealthy + 1) < config.recoverySampleCount := by
        rw [hhealthy]
        omega
      rw [qualifiedSample, ensures_bind, ensures_modify, maybeFinishRecoveryLocked, ensures_bind,
        ensures_self]
      refine ensures_ite.2 ⟨fun hrecovered => ?_, fun _ => ⟨hconfig, ?_, hfew⟩⟩
      · exact absurd (hconfig ▸ hrecovered.2.1) (not_le.2 hfew)
      · exact fun h => absurd (hrecovering.symm.trans h) (by decide)
    · -- A device that is not fresh does not qualify.
      have hstale' : StaysStale env sample (σ.update ({ · with consecutivePressure := 0 })) := hstale
      refine (ensures_sampleAdmits_stale env sample hcalm hstale').mono ?_ fun _ σ' h =>
        h.held (by decide)
      rintro admits σ' ⟨rfl, hσ'⟩
      exact ensures_ite.2 ⟨fun h => absurd h (by decide), fun _ => hunqualified _ σ' hσ'⟩

/-- A sample does not make a controller normal that yielded before it. -/
theorem ensures_observeLocked_settles (inferenceActive : Bool) (hσ : Idle config .yielding σ)
    (hsettles : Settles env sample config σ) :
    Ensures (observeLocked env sample modelResident inferenceActive) σ
      (fun _ => Held config) (fun _ => Held config) := by
  have hheld : ∀ σ' : PressureSession W,
      Idle config .yielding σ' ∧ Settles env sample config σ' → Held config σ' := fun _ h =>
    h.1.held (by decide)
  rw [observeLocked, ensures_bind, ensures_ofExcept]
  refine ⟨fun observedAt _ => ?_, fun _ _ => hheld σ ⟨hσ, hsettles⟩⟩
  rw [ensures_bind, ensures_self, ensures_ite]
  refine ⟨fun _ => hheld σ ⟨hσ, hsettles⟩, fun _ => ?_⟩
  rw [processNewSample, ensures_bind, ensures_update, ensures_bind]
  refine ((timed_settles env sample).preserves_classify sample (σ.update _) ⟨hσ, hsettles⟩).mono ?_
    fun _ σ' h => hheld σ' h
  rintro reasons σ₁ hσ₁
  rw [ensures_bind, ensures_update, ensures_bind]
  refine (ensures_gpuFresh_settles env sample (by exact hσ₁)).mono ?_ fun _ _ h => h
  rintro fresh σ₂ ⟨hσ₂, hfresh⟩
  rw [ensures_bind]
  refine (ensures_checkTelemetry_settles env sample modelResident hσ₂ hfresh).mono ?_
    fun _ _ h => h.elim
  rintro _ σ₃ hσ₃
  rw [ensures_bind]
  exact (ensures_processSample_settles env sample modelResident reasons.1 reasons.2 fresh
    inferenceActive hσ₃).mono (fun _ _ h => h) fun _ _ h => h

end Yielding

/-! ## Operations -/

section

variable (env : PressureEnvironment W)

/-- A controller enters another state than the normal one. -/
theorem preserves_enter_stopped {s : ControllerState} (hs : s ≠ .normal) :
    Preserves Stopped (enter (W := W) s) := fun _ _ => hs

/-- A failure to write a receipt keeps it stopped. -/
theorem preserves_latch_stopped : Preserves Stopped (latchReceiptFailureLocked (W := W)) := by
  refine preserves_bind (preserves_update_of fun _ h => h) fun _ => ?_
  refine preserves_bind (preserves_modify fun _ h => h) fun _ => preserves_self_bind fun c => ?_
  exact preserves_ite (fun _ => preserves_pure _) fun _ => preserves_enter_stopped (by decide)

/-- The publication of a transition keeps it stopped. -/
theorem preserves_publish_stopped (previous : PressureController) (force : Bool) :
    Preserves Stopped (publishTransitionLocked env previous force) :=
  stable_stopped.preserves_publishTransitionLocked env preserves_latch_stopped previous force

/-- So does the mark that the model is released. -/
theorem preserves_markReleasedLocked_stopped (reason : Option String) :
    Preserves Stopped (markReleasedLocked (W := W) reason) := by
  refine preserves_bind (preserves_update_of fun _ h => h) fun _ => ?_
  exact preserves_bind (preserves_modify fun _ h => h) fun _ => preserves_enter_stopped (by decide)

/-- So does the question whether the gate may open. -/
theorem preserves_mayOpen_stopped : Preserves Stopped (mayOpen env) := by
  refine preserves_self_bind fun c => preserves_ite (fun _ => ?_) fun _ => preserves_pure _
  exact preserves_ite (fun _ => (stable_stopped.timed env).preserves_sharedCudaFresh) fun _ =>
    preserves_pure _

/-- So do new requirements. -/
theorem preserves_replaceRequirements_stopped
    (requirements : Option (List ModelLoadRequirement)) :
    Preserves Stopped (replaceRequirements (W := W) requirements) := by
  refine preserves_self_bind fun c => ?_
  cases requirements with
  | none => exact preserves_pure _
  | some candidates =>
    refine preserves_ite (fun _ => preserves_throw _) fun _ => ?_
    exact preserves_ite (fun _ => preserves_throw _) fun _ => preserves_update_of fun _ h => h

/-- A controller that is not normal admits no load. -/
theorem preserves_immediateLoad_stopped (selected : ModelLoadRequirement)
    (reader : Option (EStateM Exc W PressureSample)) :
    Preserves Stopped (immediateLoadAdmissionLocked env selected reader) := by
  intro σ hσ
  rw [immediateLoadAdmissionLocked, ensures_bind, ensures_self]
  refine ensures_ite.2 ⟨fun _ => ?_, fun h => absurd hσ h⟩
  rw [denied, ensures_bind, ensures_bind, ensures_self, ensures_bind, ensures_update]
  exact hσ

/-- So does a refusal. -/
theorem preserves_refusal_stopped (sample : PressureSample) :
    Preserves Stopped (refusal env sample) := by
  refine preserves_self_bind fun c => preserves_ite (fun _ => ?_) fun _ => preserves_pure _
  exact (stable_stopped.timed env).preserves_capacityRefusal sample

/-- A poll of a controller that yields, which samples the memory only if the signal made it
    recover. -/
theorem ensures_poll_yielding (modelResident force inferenceActive : Bool)
    (hσ : σ.controller.state = .yielding) :
    Ensures (poll env modelResident force inferenceActive) σ
      (fun state σ' => state = σ'.controller.state ∧ Stopped σ') (fun _ => Stopped) := by
  have hstopped : Stopped σ := YieldingOrShort.stopped (.inl hσ)
  rw [poll, ensures_ite]
  refine ⟨fun _ => hstopped, fun _ => ?_⟩
  rw [ensures_bind, ensures_self, ensures_bind]
  refine (ensures_poll_of_yielding env modelResident none force hσ).mono ?_
    fun _ σ' h => h.stopped
  intro snapshot σ₁ hσ₁
  have hsampled : Ensures (pollSample env modelResident inferenceActive) σ₁ (fun _ => Stopped)
      (fun _ => Stopped) := by
    rw [pollSample, ensures_bind, ensures_self]
    refine ensures_ite.2 ⟨fun _ => hσ₁.stopped, fun hne => ?_⟩
    -- If the signal made the controller recover, the recovery starts with this sample.
    have hshort : Short 0 σ₁ := hσ₁.resolve_left hne
    rw [ensures_bind]
    refine ((stable_short 0).preserves_sample env σ₁ hshort).mono ?_ fun _ σ' h => h.stopped
    intro sample σ₂ hσ₂
    rw [ensures_bind, ensures_self]
    refine ensures_ite.2 ⟨fun _ => hσ₂.stopped, fun _ => ?_⟩
    rw [ensures_bind]
    refine (preserves_observeLocked_short env modelResident (by decide) sample inferenceActive σ₂
      hσ₂).mono ?_ fun _ σ' h => h.stopped
    intro _ σ₃ hσ₃
    rw [ensures_bind, ensures_update, pollCarried]
    have hupdated : Short 0 (σ₃.update fun c => { c with observedToken := c.sampleToken }) := hσ₃
    split
    · exact hupdated.stopped
    · rw [ensures_map]
      exact (ensures_poll_short env modelResident (by decide) _ false hupdated).mono
        (fun _ σ' h => h.stopped) fun _ σ' h => h.stopped
  rw [ensures_bind]
  refine hsampled.mono (fun carried σ₂ hσ₂ => ?_) fun _ _ h => h
  rw [ensures_bind]
  exact (preserves_publish_stopped env _ _ σ₂ hσ₂).mono
    (fun _ σ₃ hσ₃ => ensures_map.2 (ensures_self.2 ⟨rfl, hσ₃⟩)) fun _ _ h => h

/-- Whether the device of the sample an operation takes was read before the next reading of the
    clock. -/
def Present (σ : PressureSession W) : Operation W → Prop
  | .observe sample _ => ∀ t ∈ sample.gpuObservedAt, t ≤ (env.clock σ.world).1
  | .explicitCapacityRefusal => ∀ sample w, env.readSample σ.world = .ok sample w →
      ∀ t ∈ sample.gpuObservedAt, t ≤ (env.clock w).1
  | _ => True

/-- More than one sample is needed, or no telemetry, or the clock does not go back and no device
    is read ahead of it. -/
def Steady (config : ControllerConfig) (σ : PressureSession W) (operation : Operation W) : Prop :=
  2 ≤ config.recoverySampleCount ∨ config.requireGpuTelemetry = false ∨
    ((∀ w, (env.clock w).1 ≤ (env.clock (env.clock w).2).1) ∧ Present env σ operation)

/-- An observation that settles a yield leaves it or begins the recovery. -/
theorem ensures_observe_yielding (sample : PressureSample) (modelResident : Bool)
    (hσ : Idle config .yielding σ) (hsettles : Settles env sample config σ) :
    Ensures (observe env sample modelResident) σ (fun _ => Stopped) (fun _ => Stopped) := by
  rw [observe, ensures_bind, ensures_self, ensures_bind]
  refine (ensures_observeLocked_settles env sample modelResident false hσ hsettles).mono ?_
    fun _ _ h => h.stopped
  intro _ σ₁ hσ₁
  rw [ensures_bind]
  refine (preserves_poll_held env modelResident _ false σ₁ hσ₁).mono ?_ fun _ _ h => h.stopped
  intro snapshot σ₂ hσ₂
  rw [ensures_bind]
  exact (preserves_publish_stopped env _ _ σ₂ hσ₂.stopped).mono
    (fun _ _ h => ensures_map.2 (ensures_self.2 h)) fun _ _ h => h

/-- So does the check of the capacity. -/
theorem ensures_capacityRefusal_yielding (hσ : Idle config .yielding σ)
    (hsettles : ∀ sample w, env.readSample σ.world = .ok sample w →
      Settles env sample config { σ with world := w }) :
    Ensures (explicitCapacityRefusal env) σ (fun _ => Stopped) (fun _ => Stopped) := by
  have hstopped : Stopped σ := (hσ.held (by decide)).stopped
  have hread : Ensures env.readSample σ.world
      (fun sample w => Settles env sample config { σ with world := w }) (fun _ _ => True) := by
    rw [Ensures]
    cases hsample : env.readSample σ.world with
    | ok sample w => exact hsettles sample w hsample
    | error e w => trivial
  rw [explicitCapacityRefusal, ensures_bind, ensures_self, ensures_bind, callback, ensures_zoom]
  refine hread.mono (fun sample w hsample => ?_) fun _ _ _ => hstopped
  have hidle : Idle config .yielding { σ with world := w } := hσ
  rw [ensures_bind, ensures_ofExcept]
  refine ⟨fun stale _ => ensures_ite.2 ⟨fun _ => hstopped, fun _ => ?_⟩, fun _ _ => hstopped⟩
  rw [ensures_bind]
  refine (ensures_observeLocked_settles env sample false false hidle hsample).mono ?_
    fun _ _ h => h.stopped
  intro _ σ₁ hσ₁
  rw [ensures_bind]
  refine (preserves_poll_held env false _ _ σ₁ hσ₁).mono ?_ fun _ _ h => h.stopped
  intro snapshot σ₂ hσ₂
  rw [ensures_bind]
  refine (preserves_refusal_stopped env sample σ₂ hσ₂.stopped).mono ?_ fun _ _ h => h
  intro refused σ₃ hσ₃
  rw [ensures_bind]
  exact (preserves_publish_stopped env _ _ σ₃ hσ₃).mono (fun _ _ h => h) fun _ _ h => h

/-- No operation makes a controller normal that yields and has counted no healthy sample. -/
theorem stopped_after_yielding (operation : Operation W) (hσ : Idle config .yielding σ)
    (hsteady : Steady env config σ operation) :
    Stopped (after (perform env operation) σ) := by
  have hstopped : Stopped σ := (hσ.held (by decide)).stopped
  refine ensures_iff_after.1 ?_
  cases operation with
  | sample => exact ensures_map.2 (stable_stopped.preserves_sample env σ hstopped)
  | observe sample modelResident =>
    exact ensures_map.2 (ensures_observe_yielding env sample modelResident hσ hsteady)
  -- A poll may take the controller into its recovery, but not out of it.
  | pollPriority modelResident force =>
    rw [perform, ensures_map, pollPriority, ensures_bind, ensures_self, ensures_bind]
    refine (ensures_poll_of_yielding env modelResident none force hσ.2.1).mono ?_
      fun _ _ h => h.stopped
    intro snapshot σ₁ hσ₁
    rw [ensures_bind]
    exact (preserves_publish_stopped env _ _ σ₁ hσ₁.stopped).mono
      (fun _ _ h => ensures_map.2 (ensures_self.2 h)) fun _ _ h => h
  | poll modelResident force inferenceActive =>
    exact ensures_map.2 ((ensures_poll_yielding env _ _ _ hσ.2.1).mono (fun _ _ h => h.2)
      fun _ _ h => h)
  | pollIdleResident =>
    exact ensures_map.2 (ensures_bind.2 ((ensures_poll_yielding env _ _ _ hσ.2.1).mono
      (fun _ _ h => h.2) fun _ _ h => h))
  | checkOrRaise force =>
    refine ensures_map.2 (ensures_bind.2 ((ensures_poll_yielding env _ _ _ hσ.2.1).mono ?_
      fun _ _ h => h))
    intro state σ₁ hσ₁
    refine ensures_ite.2 ⟨fun _ => ?_, fun _ => hσ₁.2⟩
    rw [ensures_bind, ensures_self]
    exact hσ₁.2
  | closeAdmission =>
    rw [perform, closeAdmission, ensures_bind, ensures_self, ensures_bind, ensures_update]
    exact preserves_publish_stopped env _ _ _ (by exact hstopped)
  | openAdmissionIfNormal =>
    rw [perform, ensures_map, openAdmissionIfNormal, ensures_bind, ensures_self, ensures_bind]
    refine (preserves_mayOpen_stopped env σ hstopped).mono ?_ fun _ _ h => h
    intro opened σ₁ hσ₁
    rw [ensures_bind, ensures_update, ensures_bind]
    exact (preserves_publish_stopped env _ _ _ (by exact hσ₁)).mono (fun _ _ h => h) fun _ _ h => h
  -- A release leads into the recovery.
  | markReleased reason =>
    rw [perform, ensures_map, markReleased, ensures_bind, ensures_self, ensures_bind]
    refine (preserves_markReleasedLocked_stopped reason σ hstopped).mono ?_ fun _ _ h => h
    intro _ σ₁ hσ₁
    rw [ensures_bind]
    exact (preserves_publish_stopped env _ _ σ₁ hσ₁).mono (fun _ _ h => h) fun _ _ h => h
  | enterNoSafeModel requirements =>
    rw [perform, ensures_map, enterNoSafeModel, ensures_bind, ensures_self, ensures_bind]
    refine (preserves_replaceRequirements_stopped requirements σ hstopped).mono ?_ fun _ _ h => h
    intro _ σ₁ hσ₁
    rw [ensures_bind]
    refine (preserves_markReleasedLocked_stopped _ σ₁ hσ₁).mono ?_ fun _ _ h => h
    intro _ σ₂ hσ₂
    rw [ensures_bind]
    exact (preserves_publish_stopped env _ _ σ₂ hσ₂).mono (fun _ _ h => h) fun _ _ h => h
  | immediateLoadAdmission requirement reader =>
    rw [perform, ensures_map, immediateLoadAdmission, ensures_bind, ensures_self, ensures_bind,
      ensures_ofExcept]
    refine ⟨fun selected _ => ?_, fun _ _ => hstopped⟩
    rw [ensures_bind]
    refine (preserves_immediateLoad_stopped env selected reader σ hstopped).mono ?_ fun _ _ h => h
    intro decision σ₁ hσ₁
    rw [ensures_bind]
    exact (preserves_publish_stopped env _ _ σ₁ hσ₁).mono (fun _ _ h => h) fun _ _ h => h
  | latchReceiptFailureWithoutPublication => exact preserves_latch_stopped σ hstopped
  | latchReleaseFailureWithoutPublication modelResident =>
    rw [perform, latchReleaseFailureLocked, ensures_bind, ensures_update, ensures_bind,
      ensures_record, ensures_enter]
    exact retreat_ne_normal modelResident
  -- The sample of this operation is steady as well, so that it cannot qualify at once.
  | explicitCapacityRefusal =>
    refine ensures_map.2 (ensures_capacityRefusal_yielding env hσ fun sample w hsample => ?_)
    exact hsteady.imp_right fun h => h.imp_right fun h => ⟨h.1, h.2 sample w hsample⟩

end

/-! ## Recovery -/

/-- In every run a recovery is completed only by enough samples and publications since it was
    held up last, an external episode is counted when the recovery from it is complete, and a
    controller that yields is not normal after the next operation. -/
theorem recovery_hysteresis (env : PressureEnvironment W) (config : ControllerConfig)
    (requirements : List ModelLoadRequirement) (world : W) (operations : List (Operation W)) :
    let σ := PressureSession.run env (.start config requirements world) operations
    Regular σ.history →
      (σ.controller.state = History.stateFrom config σ.history ∧
        .entered .normal ∉ σ.history) ∧
      (∀ external before, .finished external :: before <:+ σ.history →
        Complete config external before) ∧
      σ.controller.externalPressureRecoveryGeneration =
        σ.history.countP ControllerEvent.isIncrease ∧
      ∀ operation, Steady env config σ operation → σ.controller.state = .yielding →
        (after (perform env operation) σ).controller.state ≠ .normal := by
  intro σ hregular
  have hkept : Kept config σ.controller σ.history :=
    inv_run env operations (inv_start requirements world) hregular
  have hstate := hkept.state
  rw [hkept.config_eq] at hstate
  refine ⟨⟨hstate.state_eq, hstate.entered_ne⟩, hstate.complete, hkept.episode.generation_eq, ?_⟩
  intro operation hsteady hyielding
  refine stopped_after_yielding env operation ⟨hkept.config_eq, hyielding, ?_⟩ hsteady
  exact hkept.samples.healthy_eq_zero (by rw [hyielding]; decide)

/-- The recovery of `recovery` was complete. -/
theorem recovery_hysteresis_recovered : ∃ external before,
    Complete hostConfig external before ∧ History.stateFrom hostConfig before = .recovering := by
  obtain ⟨_, hcomplete, _⟩ := recovery_hysteresis (signalEnvironment 0) hostConfig [small] 0 recovery
    regular_recovery
  have hfinished : (PressureSession.run (signalEnvironment 0) (.start hostConfig [small] 0)
      recovery).history.head? = some (.finished false) := by decide +kernel
  obtain ⟨before, hbefore⟩ := List.head?_eq_some_iff.1 hfinished
  have hsuffix := hcomplete false before (hbefore ▸ List.suffix_rfl)
  exact ⟨false, before, hsuffix, hsuffix.recovering⟩

/-- A controller of a device whose telemetry is required, where one sample is enough. -/
def deviceConfig : ControllerConfig :=
  { hostConfig with
    gpuReserveBytes := some gib
    expectedGpuDevice := some "gpu"
    requireGpuTelemetry := true
    priorityConfigured := false
    telemetry_reserve := fun _ => rfl }

/-- A clock that goes on by one with every reading. -/
def tickingEnvironment : PressureEnvironment ℕ :=
  { signalEnvironment 0 with clock := fun n => (n, n + 1) }

/-- A sample whose device was read at the time `gpuObservedAt`. -/
def deviceSample (observedAt gpuObservedAt : ℚ) : PressureSample :=
  { healthySample with
    observedAt := some observedAt
    gpuTotalBytes := some (8 * gib)
    gpuFreeBytes := some (4 * gib)
    gpuDeviceId := some "gpu"
    gpuObservedAt := some gpuObservedAt }

/-- The device is stale at the reading `3` of the clock, where the telemetry is checked, and
    fresh at the reading `4`, where the recovery is: the controller yields, and is normal one
    sample later. -/
theorem normal_after_yielding : ¬ ∀ (W : Type) (env : PressureEnvironment W)
    (config : ControllerConfig) (requirements : List ModelLoadRequirement) (world : W)
    (operations : List (Operation W)) (operation : Operation W),
    let σ := PressureSession.run env (.start config requirements world) operations
    Regular σ.history → σ.controller.state = .yielding →
      (after (perform env operation) σ).controller.state ≠ .normal := by
  intro h
  have hquiet : History.observations (PressureSession.run tickingEnvironment
      (.start deviceConfig [small] 0) [.latchReleaseFailureWithoutPublication true,
        .observe (deviceSample 1 1000) false]).history = [] := by decide +kernel
  refine h ℕ tickingEnvironment deviceConfig [small] 0
    [.latchReleaseFailureWithoutPublication true, .observe (deviceSample 1 1000) false]
    (.observe (deviceSample 2 4) false) ⟨?_, ?_⟩ ?_ ?_
  · simp [hquiet]
  · simp [hquiet, transitions]
  · decide +kernel
  · decide +kernel

end Subgen

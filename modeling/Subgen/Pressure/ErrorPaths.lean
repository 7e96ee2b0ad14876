import Subgen.Pressure.Safety

/-!
# Calls that raise

What a call of the controller leaves behind when it raises. A call takes in a sample and an observation
one after the other, and what it has taken in stays: a part that raises itself closes the gate or changes
nothing of it (`GateCore`), and so does a receipt that cannot be made. The exception is an observation that
is found to be unusable when it is recorded already (`LateError`).

What the complete parts of a call did is said by its beginnings (`GateCall.beginnings`): the same call, with
its own sample, its own flags and what its own readers return, cut off behind each part. So the state behind
a call that raises is not merely some state the parts could have led to, but the one they did lead to.

* `durable_gated`: the gate is open in the normal state only;
* `Unasserted`: no observation of a workload that needs the machine is new behind an open gate;
* `pollPriorityLocked_eq`, `pollSample_eq`, `pollForLoad_eq`: the parts of a call, cut off before the snapshot;
* `ensures_observe_raised` and its fellows: one call;
* `closed_or_behind_parts`: the calls, after any operations.
-/

namespace Subgen

open Procedure PressureController

/-- The state of the gate, the observation of the signal, and the counters. -/
structure GateCore where
  state : ControllerState
  admissionOpen : Bool
  priorityObservation : PriorityObservation
  consecutivePressure : ℕ
  consecutiveHealthy : ℕ
  consecutiveGpuUnavailable : ℕ
  priorityTransitionSequence : ℕ
  priorityDistinctClearCount : ℕ
  priorityRecoveryGenerationHighWater : Option ℤ
  externalPressureRecoveryGeneration : ℕ
  deriving DecidableEq

/-- The state, the gate and the observation of a controller. -/
def PressureController.core (c : PressureController) : GateCore :=
  ⟨c.state, c.admissionOpen, c.priorityObservation, c.consecutivePressure, c.consecutiveHealthy,
    c.consecutiveGpuUnavailable, c.priorityTransitionSequence, c.priorityDistinctClearCount,
    c.priorityRecoveryGenerationHighWater, c.externalPressureRecoveryGeneration⟩

/-- What is raised about an observation that is recorded already. -/
def LateError (e : Exc) : Prop :=
  e = .runtimeError "Priority transition generation exhausted" ∨
    e = .valueError "Priority source generation is invalid" ∨
    e = .valueError "Accepted clear priority input needs a generation"

variable {W : Type} {σ σ₀ σ' : PressureSession W} {env : PressureEnvironment W}

/-! ## The gate and the state -/

/-- The gate is open in the normal state only. -/
def Gated (σ : PressureSession W) : Prop :=
  σ.controller.admissionOpen = true → σ.controller.state = .normal

/-- A closed gate is as it should be in every state. -/
theorem gated_of_closed (h : σ.controller.admissionOpen = false) : Gated σ := fun ho =>
  absurd (h.symm.trans ho) Bool.false_ne_true

/-- The gate is open in the normal state only. -/
theorem Gated.closed (h : Gated σ) (hstate : σ.controller.state ≠ .normal) :
    σ.controller.admissionOpen = false :=
  Bool.eq_false_of_not_eq_true fun ho => hstate (h ho)

/-- The world and the clock do not bear on the gate. -/
theorem stable_gated : Stable (Gated (W := W)) where
  world _ _ hσ := hσ
  sample _ _ _ _ hσ := hσ
  oomCounts _ _ hσ := hσ
  reasons _ _ _ hσ := hσ
  observedToken _ _ hσ := hσ
  polled _ _ hσ := hσ

/-- The gate is not touched while something is only noted. -/
theorem timed_gated_core (env : PressureEnvironment W) (core : GateCore) :
    Timed env fun σ : PressureSession W => Gated σ ∧ σ.controller.core = core where
  now _ hσ := (ensures_now env).2 hσ
  oomCounts _ _ hσ := hσ

/-- A recovery that cannot be completed leaves the gate closed. -/
theorem ensures_maybeFinishRecoveryLocked_gated (hσ : Gated σ) :
    Ensures maybeFinishRecoveryLocked σ (fun _ => Gated)
      (fun _ σ' => σ'.controller.admissionOpen = false) := by
  rw [maybeFinishRecoveryLocked, ensures_bind, ensures_self, ensures_ite]
  refine ⟨fun hrecovered => ensures_ite.2 ⟨fun _ => ?_, fun _ => ?_⟩, fun _ => hσ⟩
  · exact hσ.closed (by rw [hrecovered.1]; decide)
  · exact (ensures_modify _).2 fun _ => rfl

/-! ## Samples -/

/-- A sample in the normal state raises nothing. -/
theorem ensures_normalSample_returns (pressure critical : List String) (fresh modelResident : Bool) :
    Ensures (normalSample pressure critical fresh modelResident) σ (fun _ _ => True)
      (fun _ _ => False) := by
  rw [normalSample, ensures_bind, ensures_update, ensures_bind, ensures_self, ensures_ite,
    ensures_bind, ensures_update, ensures_enter, ensures_ite, ensures_ite, ensures_bind,
    ensures_update, ensures_enter, ensures_update, ensures_update]
  exact ⟨fun _ => trivial, fun _ => ⟨fun _ => ⟨fun _ => trivial, fun _ => trivial⟩, fun _ => trivial⟩⟩

/-- A sample in the recovering state, where the gate is closed. -/
theorem ensures_recoveringSample_raises (sample : PressureSample) (t : ℚ)
    (pressured modelResident inferenceActive : Bool) (hσ : Gated σ)
    (hstate : σ.controller.state = .recovering) :
    Ensures (recoveringSample env sample t pressured modelResident inferenceActive) σ (fun _ _ => True)
      (fun _ σ' => σ'.controller.admissionOpen = false) := by
  have hclosed : σ.controller.admissionOpen = false := hσ.closed (by rw [hstate]; decide)
  have htimed : Timed env fun σ : PressureSession W => σ.controller.admissionOpen = false :=
    ⟨fun _ hσ => (ensures_now env).2 hσ, fun _ _ hσ => hσ⟩
  have hadmits : Preserves (fun σ : PressureSession W => σ.controller.admissionOpen = false)
      (sampleAdmits env sample pressured) :=
    preserves_ite (fun _ => preserves_pure _) fun _ => htimed.preserves_recoveryQualified sample
  have hclosed' : (σ.update ({ · with consecutivePressure := 0 })).controller.admissionOpen = false :=
    hclosed
  rw [recoveringSample, ensures_bind, ensures_update, ensures_bind]
  refine (hadmits _ hclosed').mono ?_ fun _ _ h => h
  intro admits σ₁ hσ₁
  refine ensures_ite.2 ⟨fun _ => ?_, fun _ => ?_⟩
  · have hcounted : ((σ₁.update healthier).record
        (.sampled t false true)).controller.admissionOpen = false := hσ₁
    rw [qualifiedSample, ensures_bind, ensures_modify]
    exact (ensures_maybeFinishRecoveryLocked_gated (gated_of_closed hcounted)).mono
      (fun _ _ _ => trivial) fun _ _ h => h
  · rw [ensures_bind, ensures_record, unqualifiedSample, ensures_bind, ensures_update, ensures_bind,
      ensures_self, ensures_ite, ensures_enter, ensures_ite, ensures_enter]
    exact ⟨fun _ => trivial, fun _ => ⟨fun _ => trivial, fun _ => trivial⟩⟩

/-- The check of the telemetry raises nothing. -/
theorem ensures_checkTelemetry_gated (fresh modelResident : Bool) :
    Ensures (checkTelemetry fresh modelResident) σ (fun _ σ' => Gated σ → Gated σ')
      (fun _ _ => False) := by
  rw [checkTelemetry, ensures_bind, ensures_self, ensures_ite, ensures_ite, ensures_update,
    ensures_bind, ensures_update, ensures_ite, ensures_bind, ensures_update, ensures_enter]
  refine ⟨fun _ => ⟨fun _ hσ => hσ, fun _ => ⟨fun _ _ => ?_, fun _ _ => ?_⟩⟩, fun _ hσ => hσ⟩
  · exact gated_of_closed rfl
  · exact gated_of_closed rfl

/-- A sample that cannot be taken in changes nothing of the gate, or leaves it closed. -/
theorem ensures_observeLocked_gated (env : PressureEnvironment W) (sample : PressureSample)
    (modelResident inferenceActive : Bool) (hσ : Gated σ) : Ensures (observeLocked env sample modelResident inferenceActive) σ
      (fun _ => Gated)
      (fun _ σ' => σ'.controller.admissionOpen = false ∨ σ'.controller.core = σ.controller.core) := by
  have htimed := timed_gated_core env σ.controller.core
  rw [observeLocked, ensures_bind, ensures_ofExcept]
  refine ⟨fun t _ => ?_, fun _ _ => .inr rfl⟩
  rw [ensures_bind, ensures_self, ensures_ite]
  refine ⟨fun _ => hσ, fun _ => ?_⟩
  have hnoted : Gated (σ.update ({ · with lastObservedAt := some t, lastObservedSample := some sample })) ∧
      (σ.update ({ · with lastObservedAt := some t, lastObservedSample := some sample })).controller.core =
        σ.controller.core := ⟨hσ, rfl⟩
  rw [processNewSample, ensures_bind, ensures_update, ensures_bind]
  refine (htimed.preserves_classify sample _ hnoted).mono ?_ fun _ _ h => .inr h.2
  rintro reasons σ₁ hσ₁
  rw [ensures_bind, ensures_update, ensures_bind]
  have hnoted₁ : Gated (σ₁.update ({ · with
      lastPressureReasons := reasons.1, lastCriticalReasons := reasons.2 })) ∧
      (σ₁.update ({ · with lastPressureReasons := reasons.1, lastCriticalReasons := reasons.2
        })).controller.core = σ.controller.core := hσ₁
  refine (htimed.preserves_gpuFresh sample _ hnoted₁).mono ?_ fun _ _ h => .inr h.2
  rintro fresh σ₂ ⟨hσ₂, -⟩
  rw [ensures_bind]
  refine (ensures_checkTelemetry_gated fresh modelResident).mono ?_ fun _ _ h => h.elim
  rintro _ σ₃ hσ₃
  have hsettled : ∀ σ : PressureSession W, Gated (σ.update PressureController.settled) := fun σ ho => by
    exact of_decide_eq_true (Bool.and_eq_true _ _ ▸ ho).2
  rw [ensures_bind, processSample, ensures_bind, ensures_self, ensures_ite, ensures_ite, ensures_pure]
  refine ⟨fun _ => ?_, fun _ => ⟨fun hrecovering => ?_, fun _ => hsettled σ₃⟩⟩
  · exact (ensures_normalSample_returns _ _ _ _).mono (fun _ σ₄ _ => hsettled σ₄) fun _ _ h => h.elim
  · exact (ensures_recoveringSample_raises sample t _ _ _ (hσ₃ hσ₂) hrecovering).mono
      (fun _ σ₄ _ => hsettled σ₄) fun _ _ h => .inl h

/-! ## Observations -/

/-- The observation is recorded before it is counted. -/
theorem ensures_priorityTransitionLocked_gated (o : PriorityObservation) (previous : PriorityState)
    (hσ : Gated σ) :
    Ensures (priorityTransitionLocked o previous) σ (fun _ => Gated)
      (fun e σ' => Gated σ' ∧ LateError e) := by
  rw [priorityTransitionLocked, ensures_ite, ensures_bind, ensures_self, ensures_ite, ensures_throw,
    ensures_update]
  exact ⟨fun _ => hσ, fun _ => ⟨fun _ => ⟨hσ, .inl rfl⟩, fun _ => hσ⟩⟩

/-- The reset of the recovery raises late, if it does. -/
theorem ensures_resetPriorityRecovery_gated (o : PriorityObservation) (hσ : Gated σ) :
    Ensures (resetPriorityRecovery o) σ (fun _ => Gated) (fun e σ' => Gated σ' ∧ LateError e) := by
  rw [resetPriorityRecovery, ensures_ite, ensures_bind, ensures_update]
  refine ⟨fun _ => ?_, fun _ => hσ⟩
  split
  · exact hσ
  · rw [ensures_ite, ensures_throw, ensures_update]
    exact ⟨fun _ => ⟨hσ, .inr (.inl rfl)⟩, fun _ => hσ⟩

/-- So does the count of the clear observations. -/
theorem ensures_countClear_gated (o : PriorityObservation) (hσ : Gated σ) :
    Ensures (countClear o) σ (fun _ => Gated) (fun e σ' => Gated σ' ∧ LateError e) := by
  have hcounted : ∀ generation, Gated (σ.update (counted · generation)) := by
    intro generation
    change (counted σ.controller generation).admissionOpen = true →
      (counted σ.controller generation).state = .normal
    rw [counted]
    split <;> exact hσ
  rw [countClear, ensures_ite]
  refine ⟨fun _ => ?_, fun _ => hσ⟩
  split
  · exact ⟨hσ, .inr (.inr rfl)⟩
  · rw [ensures_ite, ensures_throw, ensures_update]
    exact ⟨fun _ => ⟨hσ, .inr (.inr rfl)⟩, fun _ => hcounted _⟩

/-- So does the application of an observation, or it raises before it changes the gate. -/
theorem ensures_applyPriority_gated (o : PriorityObservation) (modelResident : Bool) (hσ : Gated σ) :
    Ensures (applyPriority o modelResident) σ (fun _ => Gated)
      (fun e σ' => (Gated σ' ∧ LateError e) ∨ σ'.controller.admissionOpen = false) := by
  have hclosed : ∀ s, Gated ((σ.update closedForPriority).update ({ · with state := s })) := fun _ =>
    gated_of_closed rfl
  rw [applyPriority, ensures_ite, ensures_bind, ensures_update, ensures_enter, ensures_ite, ensures_bind,
    ensures_update, ensures_bind, ensures_self, ensures_ite, ensures_enter]
  refine ⟨fun _ => hclosed _, fun _ => ⟨fun _ => ⟨fun _ => hclosed _, fun _ => ?_⟩, fun _ => ?_⟩⟩
  · exact gated_of_closed rfl
  · rw [ensures_bind]
    refine (ensures_countClear_gated o hσ).mono (fun _ σ₁ hσ₁ => ?_) fun _ _ h => .inl h
    exact (ensures_maybeFinishRecoveryLocked_gated hσ₁).mono (fun _ _ h => h) fun _ _ h => .inr h

/-- The same with the transition of the signal before it. -/
theorem ensures_takePriority_gated (o : PriorityObservation) (modelResident : Bool) (hσ : Gated σ) :
    Ensures (takePriority env o modelResident) σ (fun _ => Gated)
      (fun e σ' => (Gated σ' ∧ LateError e) ∨ σ'.controller.admissionOpen = false) := by
  rw [takePriority, ensures_bind, ensures_self, ensures_bind, take, ensures_modify, ensures_bind,
    ensures_now, ensures_bind, ensures_update, ensures_bind]
  refine (ensures_priorityTransitionLocked_gated o _ ?_).mono ?_ fun _ _ h => .inl h
  · exact hσ
  rintro _ σ₁ hσ₁
  rw [ensures_bind]
  refine (ensures_resetPriorityRecovery_gated o hσ₁).mono ?_ fun _ _ h => .inl h
  rintro _ σ₂ hσ₂
  rw [ensures_bind, ensures_update]
  exact ensures_applyPriority_gated o modelResident hσ₂

/-- An observation that cannot be taken in changes nothing of the gate or leaves it closed, unless it is
    recorded already. -/
theorem ensures_observePriorityLocked_gated (env : PressureEnvironment W) (o : PriorityObservation)
    (modelResident : Bool) (hσ : Gated σ) : Ensures (observePriorityLocked env o modelResident) σ (fun _ => Gated)
      (fun e σ' => (Gated σ' ∧ LateError e) ∨ σ'.controller.admissionOpen = false ∨
        σ'.controller.core = σ.controller.core) := by
  rw [observePriorityLocked, ensures_bind, ensures_ofExcept]
  refine ⟨fun _ _ => ?_, fun _ _ => .inr (.inr rfl)⟩
  rw [ensures_bind, ensures_self, ensures_ite, ensures_ite, ensures_throw, ensures_pure, ensures_ite,
    ensures_throw]
  refine ⟨fun _ => ⟨fun _ => .inr (.inr rfl), fun _ => hσ⟩, fun _ => ⟨fun _ => .inr (.inr rfl),
    fun _ => ?_⟩⟩
  exact (ensures_takePriority_gated o modelResident hσ).mono (fun _ _ h => h) fun _ _ h =>
    h.imp_right .inl

/-- What raises without having been recorded leaves the gate as it was, or closed. -/
theorem Gated.of_raised (hσ : Gated σ) (h : σ'.controller.admissionOpen = false ∨
    σ'.controller.core = σ.controller.core) : Gated σ' := by
  rcases h with h | h
  · exact gated_of_closed h
  · intro ho
    have hopen : σ.controller.admissionOpen = true := (congrArg GateCore.admissionOpen h).symm.trans ho
    exact (congrArg GateCore.state h).trans (hσ hopen)

/-- Every operation keeps the gate as it should be, also when it raises. -/
theorem durable_gated (env : PressureEnvironment W) : Durable env Gated where
  stable := stable_gated
  observeLocked _ _ _ _ hσ := (ensures_observeLocked_gated env _ _ _ hσ).mono (fun _ _ h => h) fun _ _ h =>
    hσ.of_raised h
  observePriorityLocked _ _ _ hσ := (ensures_observePriorityLocked_gated env _ _ hσ).mono (fun _ _ h => h)
    fun _ _ h => h.elim And.left hσ.of_raised
  latchReceiptFailureLocked σ _ := by
    rw [latchReceiptFailureLocked, ensures_bind, ensures_update, ensures_bind, ensures_record,
      ensures_bind, ensures_self, ensures_ite, ensures_enter]
    exact ⟨fun _ => gated_of_closed rfl, fun _ => gated_of_closed rfl⟩
  latchReleaseFailureLocked _ _ _ := gated_of_closed rfl
  markReleasedLocked _ _ _ := gated_of_closed rfl
  recoveryRequirements _ _ hσ := hσ
  admissionOpen _ _ _ hnormal := hnormal

/-- So does every run from a new controller. -/
theorem gated_run (env : PressureEnvironment W) (config : ControllerConfig)
    (requirements : List ModelLoadRequirement) (world : W) (operations : List (Operation W)) :
    Gated (PressureSession.run env (PressureSession.start config requirements world) operations) := by
  refine (durable_gated env).run operations fun ho => ?_
  change (if config.priorityConfigured then ControllerState.recovering else .normal) = .normal
  change (!config.canonicalSharedCuda && !config.priorityConfigured) = true at ho
  rw [Bool.and_eq_true, Bool.not_eq_true', Bool.not_eq_true'] at ho
  rw [ho.2, if_neg Bool.false_ne_true]

/-! ## The observation behind an open gate -/

/-- The observation is the one from before, or no observation of a workload that needs the machine stands
    behind an open gate. -/
def Unasserted (o₀ : PriorityObservation) (σ : PressureSession W) : Prop :=
  σ.controller.priorityObservation = o₀ ∨
    (σ.controller.config.priorityConfigured = true ∧
      (σ.controller.admissionOpen = true → σ.controller.priorityObservation.external = false))

variable {o₀ : PriorityObservation}

/-- A gate that is closed breaks nothing. -/
theorem Unasserted.closed (hσ : Unasserted o₀ σ) :
    Unasserted o₀ (σ.update ({ · with admissionOpen := false })) :=
  hσ.imp_right fun h => ⟨h.1, fun ho => absurd ho Bool.false_ne_true⟩

/-- A gate that is ready for a load does not open behind such an observation. -/
theorem Unasserted.opened (hσ : Unasserted o₀ σ) (isOpen : Bool)
    (hready : isOpen = true → σ.controller.admissionOpen = true ∨
      σ.controller.priorityRecoveryReady = true) :
    Unasserted o₀ (σ.update ({ · with admissionOpen := isOpen })) := by
  refine hσ.imp_right fun ⟨hconfigured, hexternal⟩ => ⟨hconfigured, fun ho => ?_⟩
  refine (hready ho).elim hexternal fun h => ?_
  change σ.controller.priorityObservation.external = false
  rw [priorityRecoveryReady, hconfigured] at h
  simp only [Bool.not_true, Bool.false_or, Bool.and_eq_true, decide_eq_true_eq] at h
  rw [PriorityObservation.external, h.1]
  rfl

/-- The world and the clock do not bear on it. -/
theorem stable_unasserted : Stable (Unasserted (W := W) o₀) where
  world _ _ hσ := hσ
  sample _ _ _ _ hσ := hσ
  oomCounts _ _ hσ := hσ
  reasons _ _ _ hσ := hσ
  observedToken _ _ hσ := hσ
  polled _ _ hσ := hσ

/-- The end of a recovery does not open the gate against an asserted signal. -/
theorem preserves_maybeFinishRecoveryLocked_unasserted :
    Preserves (Unasserted (W := W) o₀) maybeFinishRecoveryLocked := by
  intro σ hσ
  rw [maybeFinishRecoveryLocked, ensures_bind, ensures_self, ensures_ite]
  refine ⟨fun hrecovered => ensures_ite.2 ⟨fun _ => hσ, fun _ => ?_⟩, fun _ => hσ⟩
  exact (ensures_modify _).2 (hσ.opened true fun _ => .inr hrecovered.2.2)

/-- A sample in the normal state does not open the gate. -/
theorem preserves_normalSample_unasserted (pressure critical : List String) (fresh modelResident : Bool) :
    Preserves (Unasserted (W := W) o₀) (normalSample pressure critical fresh modelResident) := by
  intro σ hσ
  rw [normalSample, ensures_bind, ensures_update, ensures_bind, ensures_self, ensures_ite,
    ensures_bind, ensures_update, ensures_enter, ensures_ite, ensures_ite, ensures_bind,
    ensures_update, ensures_enter, ensures_update, ensures_update]
  refine ⟨fun _ => hσ, fun _ => ⟨fun _ => ⟨fun _ => hσ, fun _ => hσ⟩, fun _ => ?_⟩⟩
  refine hσ.opened _ fun ho => ?_
  simp only [Bool.or_eq_true, Bool.and_eq_true] at ho
  exact ho.imp_right And.right

/-- A sample in the recovery opens it only without an asserted signal. -/
theorem preserves_recoveringSample_unasserted (sample : PressureSample) (t : ℚ)
    (pressured modelResident inferenceActive : Bool) : Preserves (Unasserted (W := W) o₀)
      (recoveringSample env sample t pressured modelResident inferenceActive) := by
  have hadmits : Preserves (Unasserted o₀) (sampleAdmits env sample pressured) :=
    preserves_ite (fun _ => preserves_pure _) fun _ =>
      (stable_unasserted.timed env).preserves_recoveryQualified sample
  refine preserves_bind (preserves_modify fun _ h => h) fun _ => preserves_bind hadmits fun admits => ?_
  refine preserves_ite (fun _ => ?_) fun _ => preserves_bind (preserves_modify fun _ h => h) fun _ => ?_
  · exact preserves_bind (preserves_modify fun _ h => h) fun _ =>
      preserves_maybeFinishRecoveryLocked_unasserted
  · refine preserves_bind (preserves_modify fun _ h => h) fun _ => preserves_self_bind fun c => ?_
    refine preserves_ite (fun _ => preserves_modify fun _ h => h) fun _ => ?_
    exact preserves_ite (fun _ => preserves_modify fun _ h => h) fun _ => preserves_pure _

/-- The check of the telemetry does not open it. -/
theorem preserves_checkTelemetry_unasserted (fresh modelResident : Bool) :
    Preserves (Unasserted (W := W) o₀) (checkTelemetry fresh modelResident) := by
  refine preserves_self_bind fun c => preserves_ite (fun _ => ?_) fun _ => preserves_pure _
  refine preserves_ite (fun _ => preserves_modify fun _ h => h) fun _ => ?_
  refine preserves_bind (preserves_modify fun _ h => h.closed) fun _ => ?_
  refine preserves_ite (fun _ => ?_) fun _ => preserves_pure _
  exact preserves_bind (preserves_modify fun _ h => h) fun _ => preserves_modify fun _ h => h

/-- So it is for a whole observation. -/
theorem preserves_observeLocked_unasserted (sample : PressureSample) (modelResident inferenceActive : Bool) :
    Preserves (Unasserted (W := W) o₀) (observeLocked env sample modelResident inferenceActive) := by
  have htimed : Timed env (Unasserted (W := W) o₀) := stable_unasserted.timed env
  refine preserves_bind (preserves_ofExcept _) fun observedAt => preserves_self_bind fun c => ?_
  refine preserves_ite (fun _ => preserves_pure _) fun _ => ?_
  refine preserves_bind (preserves_modify fun _ h => h) fun _ => ?_
  refine preserves_bind (htimed.preserves_classify sample) fun reasons => ?_
  refine preserves_bind (preserves_modify fun _ h => h) fun _ => ?_
  refine preserves_bind (htimed.preserves_gpuFresh sample) fun fresh => ?_
  refine preserves_bind (preserves_checkTelemetry_unasserted fresh modelResident) fun _ => ?_
  refine preserves_bind (preserves_self_bind fun c => ?_) fun _ => preserves_modify fun σ hσ => ?_
  · refine preserves_ite (fun _ => preserves_normalSample_unasserted _ _ _ _) fun _ => ?_
    exact preserves_ite (fun _ => preserves_recoveringSample_unasserted _ _ _ _ _) fun _ =>
      preserves_pure _
  · exact hσ.opened _ fun ho => .inl (Bool.and_eq_true _ _ ▸ ho).1

/-- The observation is the last one, of a signal that is configured. -/
def Observed (o : PriorityObservation) (σ : PressureSession W) : Prop :=
  σ.controller.config.priorityConfigured = true ∧ σ.controller.priorityObservation = o

section

variable (o : PriorityObservation)

/-- The transition of the signal keeps the observation. -/
theorem preserves_priorityTransitionLocked_observed (previous : PriorityState) :
    Preserves (Observed (W := W) o) (priorityTransitionLocked o previous) := by
  refine preserves_ite (fun _ => preserves_pure _) fun _ => preserves_self_bind fun c => ?_
  exact preserves_ite (fun _ => preserves_throw _) fun _ => preserves_modify fun _ h => h

/-- So does the reset of the recovery. -/
theorem preserves_resetPriorityRecovery_observed :
    Preserves (Observed (W := W) o) (resetPriorityRecovery o) := by
  refine preserves_ite (fun _ => preserves_bind (preserves_modify fun _ h => h) fun _ => ?_) fun _ =>
    preserves_pure _
  split
  · exact preserves_pure _
  · exact preserves_ite (fun _ => preserves_throw _) fun _ => preserves_modify fun _ h => h

/-- So does the count of the clear observations. -/
theorem preserves_countClear_observed : Preserves (Observed (W := W) o) (countClear o) := by
  have hcounted : ∀ (c : PressureController) generation, (counted c generation).config = c.config ∧
      (counted c generation).priorityObservation = c.priorityObservation := by
    intro c generation
    rw [counted]
    split <;> exact ⟨rfl, rfl⟩
  refine preserves_ite (fun _ => ?_) fun _ => preserves_pure _
  split
  · exact preserves_throw _
  · refine preserves_ite (fun _ => preserves_throw _) fun _ => preserves_modify fun σ hσ => ?_
    obtain ⟨hconfig, hobservation⟩ := hcounted σ.controller _
    exact ⟨(congrArg ControllerConfig.priorityConfigured hconfig).trans hσ.1, hobservation.trans hσ.2⟩

/-- An asserted signal closes the gate. -/
theorem ensures_applyPriority_unasserted (modelResident : Bool) (hσ : Observed o σ) :
    Ensures (applyPriority o modelResident) σ (fun _ => Unasserted o₀) (fun _ _ => True) := by
  have hclosed : ∀ s, Unasserted o₀ ((σ.update closedForPriority).update ({ · with state := s })) :=
    fun _ => .inr ⟨hσ.1, fun ho => absurd ho Bool.false_ne_true⟩
  rw [applyPriority, ensures_ite, ensures_bind, ensures_update, ensures_enter, ensures_ite, ensures_bind,
    ensures_update, ensures_bind, ensures_self, ensures_ite, ensures_enter]
  refine ⟨fun _ => hclosed _, fun hcritical => ⟨fun _ => ⟨fun _ => hclosed _, fun _ => ?_⟩, fun _ => ?_⟩⟩
  · exact .inr ⟨hσ.1, fun ho => absurd ho Bool.false_ne_true⟩
  · have hexternal : o.external = false := by
      simp only [PriorityObservation.critical, Bool.or_eq_true, not_or, Bool.not_eq_true] at hcritical
      exact hcritical.1
    rw [ensures_bind]
    refine (preserves_countClear_observed o σ hσ).mono ?_ fun _ _ _ => trivial
    rintro _ σ₁ ⟨hconfigured, hobservation⟩
    refine (preserves_maybeFinishRecoveryLocked_unasserted σ₁ (.inr ⟨hconfigured, fun _ => ?_⟩)).mono
      (fun _ _ h => h) fun _ _ _ => trivial
    rw [hobservation, hexternal]

/-- An observation that is taken in closes the gate if a workload needs the machine. -/
theorem ensures_observePriorityLocked_unasserted (modelResident : Bool) (hσ : Unasserted o₀ σ) :
    Ensures (observePriorityLocked env o modelResident) σ (fun _ => Unasserted o₀) (fun _ _ => True) := by
  rw [observePriorityLocked, ensures_bind, ensures_ofExcept]
  refine ⟨fun _ _ => ?_, fun _ _ => trivial⟩
  rw [ensures_bind, ensures_self, ensures_ite, ensures_ite, ensures_throw, ensures_pure, ensures_ite,
    ensures_throw]
  refine ⟨fun _ => ⟨fun _ => trivial, fun _ => hσ⟩, fun hconfigured => ⟨fun _ => trivial, fun _ => ?_⟩⟩
  rw [takePriority, ensures_bind, ensures_self, ensures_bind, take, ensures_modify, ensures_bind,
    ensures_now, ensures_bind, ensures_update, ensures_bind]
  refine (preserves_priorityTransitionLocked_observed o _ _ ?_).mono ?_ fun _ _ _ => trivial
  · exact ⟨Bool.eq_true_of_not_eq_false hconfigured, rfl⟩
  rintro _ σ₁ hσ₁
  rw [ensures_bind]
  refine (preserves_resetPriorityRecovery_observed o σ₁ hσ₁).mono ?_ fun _ _ _ => trivial
  rintro _ σ₂ hσ₂
  rw [ensures_bind, ensures_update]
  exact ensures_applyPriority_unasserted o modelResident hσ₂

end

/-! ## The parts of a call -/

/-- A poll with a signal configured, up to its snapshot, with whether it took in an observation. -/
def observeConfigured (env : PressureEnvironment W) (modelResident : Bool)
    (observation : Option PriorityObservation) (force : Bool) : PressureM W Bool := do
  let c ← self
  let time ← now env
  match observation with
  | some o => observeAt time o
  | none =>
    if force = false ∧
        c.lastPriorityPollAt.any (time - · < c.config.priorityIntervalSeconds) = true then
      pure false
    else do
      let o ← callback env.readPriority
      observeAt time o
where
  observeAt (time : ℚ) (o : PriorityObservation) : PressureM W Bool := do
    update ({ · with lastPriorityPollAt := some time })
    observePriorityLocked env o modelResident
    pure true

/-- `_poll_priority_locked` up to its snapshot: the part of a call that takes in an observation, the one
    it is given or, where one is due, the one the reader returns. -/
def observeDue (env : PressureEnvironment W) (modelResident : Bool)
    (observation : Option PriorityObservation) (force : Bool) : PressureM W Bool := do
  let c ← self
  if c.config.priorityConfigured then
    observeConfigured env modelResident observation force
  else
    match observation with
    | none => pure false
    | some o => do
      observePriorityLocked env o modelResident
      pure true

/-- The snapshot of a poll that took in an observation. -/
def snapshotOf (env : PressureEnvironment W) (taken : Bool) : PressureM W (Option GateSnapshot) :=
  if taken then some <$> gatePrioritySnapshotLocked env else pure none

/-- A poll takes in the observation first, and then takes the snapshot. -/
theorem takePolled_eq (time : ℚ) (o : PriorityObservation) (modelResident : Bool) :
    takePolled env time o modelResident =
      observeConfigured.observeAt env modelResident time o >>= snapshotOf env := by
  simp only [takePolled, observeConfigured.observeAt, snapshotOf, bind_assoc, pure_bind, if_true]

/-- So does a poll that is due or not. -/
theorem pollPriorityLocked_eq (modelResident : Bool) (observation : Option PriorityObservation)
    (force : Bool) : pollPriorityLocked env modelResident observation force =
      observeDue env modelResident observation force >>= snapshotOf env := by
  rw [pollPriorityLocked.eq_def, observeDue.eq_def, bind_assoc]
  congr 1
  funext c
  split
  · rw [pollConfigured.eq_def, observeConfigured.eq_def, bind_assoc]
    congr 1
    funext c
    rw [bind_assoc]
    congr 1
    funext time
    cases observation with
    | some o => exact takePolled_eq time o modelResident
    | none =>
      dsimp only
      split
      · rfl
      · rw [bind_assoc]
        congr 1
        funext o
        exact takePolled_eq time o modelResident
  · cases observation with
    | none => rfl
    | some o => simp only [snapshotOf, bind_assoc, pure_bind, if_true]

/-- What holds of the gate between two parts of a call. -/
structure GateSound (o₀ : PriorityObservation) (σ : PressureSession W) : Prop where
  gated : Gated σ
  unasserted : Unasserted o₀ σ

/-- The world and the clock do not bear on the soundness of the gate. -/
theorem stable_sound : Stable (GateSound (W := W) o₀) where
  world _ _ h := ⟨h.gated, h.unasserted⟩
  sample _ _ _ _ h := ⟨h.gated, h.unasserted⟩
  oomCounts _ _ h := ⟨h.gated, h.unasserted⟩
  reasons _ _ _ h := ⟨h.gated, h.unasserted⟩
  observedToken _ _ h := ⟨h.gated, h.unasserted⟩
  polled _ _ h := ⟨h.gated, h.unasserted⟩

/-- What a part leaves behind that raises in a state with this gate. -/
def Refused (core : GateCore) (e : Exc) (σ' : PressureSession W) : Prop :=
  LateError e ∨ σ'.controller.admissionOpen = false ∨ σ'.controller.core = core

/-- A part that leaves the controller as it was has refused. -/
theorem Refused.of_core {core : GateCore} {e : Exc} (h : σ'.controller.core = core) :
    Refused core e σ' := .inr (.inr h)

/-- The world and the clock are no part of the core. -/
theorem stable_core (core : GateCore) :
    Stable fun σ : PressureSession W => σ.controller.core = core where
  world _ _ h := h
  sample _ _ _ _ h := h
  oomCounts _ _ h := h
  reasons _ _ _ h := h
  observedToken _ _ h := h
  polled _ _ h := h

section

/-- A sample is taken in, or refused with the controller as it was. -/
theorem ensures_observeLocked_sound (sample : PressureSample) (modelResident inferenceActive : Bool)
    (hσ : GateSound o₀ σ) : Ensures (observeLocked env sample modelResident inferenceActive) σ
      (fun _ => GateSound o₀) (Refused σ.controller.core) := by
  have hensures := (ensures_observeLocked_gated env sample modelResident inferenceActive
    hσ.gated).and (preserves_observeLocked_unasserted sample modelResident inferenceActive σ hσ.unasserted)
  exact hensures.mono (fun _ _ h => ⟨h.1, h.2⟩) fun _ _ h => .inr h.1

/-- So is an observation of the signal. -/
theorem ensures_observePriorityLocked_sound (o : PriorityObservation) (modelResident : Bool)
    (hσ : GateSound o₀ σ) : Ensures (observePriorityLocked env o modelResident) σ
      (fun _ => GateSound o₀) (Refused σ.controller.core) := by
  have hensures := (ensures_observePriorityLocked_gated env o modelResident hσ.gated).and
    (ensures_observePriorityLocked_unasserted o modelResident hσ.unasserted)
  exact hensures.mono (fun _ _ h => ⟨h.1, h.2⟩) fun _ _ h => h.1.imp_left And.right

/-- The part of a poll that takes in an observation. -/
theorem ensures_observeDue_sound (modelResident : Bool) (observation : Option PriorityObservation)
    (force : Bool) (hσ : GateSound o₀ σ) : Ensures (observeDue env modelResident observation force) σ
      (fun _ => GateSound o₀) (Refused σ.controller.core) := by
  have hobserve : ∀ time o σ₁, GateSound o₀ σ₁ → σ₁.controller.core = σ.controller.core →
      Ensures (observeConfigured.observeAt env modelResident time o) σ₁ (fun _ => GateSound o₀)
        (Refused σ.controller.core) := by
    intro time o σ₁ hσ₁ hcore
    rw [observeConfigured.observeAt, ensures_bind, ensures_update, ensures_bind]
    have hensures : Ensures (observePriorityLocked env o modelResident) _ _ _ :=
      ensures_observePriorityLocked_sound o modelResident (stable_sound.polled σ₁ (some time) hσ₁)
    rw [show (σ₁.update ({ · with lastPriorityPollAt := some time })).controller.core =
      σ.controller.core from hcore] at hensures
    exact hensures
  rw [observeDue.eq_def, ensures_bind, ensures_self, ensures_ite]
  refine ⟨fun _ => ?_, fun _ => ?_⟩
  · rw [observeConfigured.eq_def, ensures_bind, ensures_self, ensures_bind, ensures_now]
    cases observation with
    | some o => exact hobserve _ o _ (stable_sound.world σ _ hσ) rfl
    | none =>
      refine ensures_ite.2 ⟨fun _ => stable_sound.world σ _ hσ, fun _ => ?_⟩
      rw [ensures_bind]
      have hread := (stable_sound.preserves_callback env.readPriority _
        (stable_sound.world σ (env.clock σ.world).2 hσ)).and
        ((stable_core σ.controller.core).preserves_callback env.readPriority _ rfl)
      exact hread.mono (fun o σ₁ hσ₁ => hobserve _ o σ₁ hσ₁.1 hσ₁.2) fun _ _ h => .of_core h.2
  · cases observation with
    | none => exact hσ
    | some o => exact ensures_bind.2 (ensures_observePriorityLocked_sound o modelResident hσ)

end

/-! ## Calls -/

/-- A receipt that cannot be made leaves the gate closed. -/
theorem ensures_publishTransitionLocked_closed (previous : PressureController) (force : Bool) :
    Ensures (publishTransitionLocked env previous force) σ (fun _ _ => True)
      (fun _ σ' => σ'.controller.admissionOpen = false) := by
  rw [publishTransitionLocked, ensures_bind, ensures_self, ensures_ite, publishReceipt, ensures_tryCatch]
  refine ⟨fun _ => ensures_of_forall (fun _ _ => trivial) fun e σ' => ?_, fun _ => trivial⟩
  rw [ensures_bind, latchReceiptFailureLocked, ensures_bind, ensures_update, ensures_bind, ensures_record,
    ensures_bind, ensures_self, ensures_ite, ensures_enter]
  exact ⟨fun _ => rfl, fun _ => rfl⟩

/-- A call that takes something in and makes a receipt of it. -/
inductive GateCall (W : Type)
  | observe (sample : PressureSample) (modelResident : Bool)
  | pollPriority (modelResident force : Bool)
  | poll (modelResident forcePriority inferenceActive : Bool)
  | immediateLoadAdmission (requirement : Option ModelLoadRequirement)
      (sampleReader : Option (EStateM Exc W PressureSample))

/-- The sample of a poll, up to the observation that the sample carries. -/
def observeSampled (env : PressureEnvironment W) (modelResident inferenceActive : Bool) :
    PressureM W (Option PriorityObservation) := do
  let c ← self
  if c.state = .yielding then
    pure none
  else do
    let sample ← sample env
    let c ← self
    if c.observedToken = c.sampleToken then
      pure none
    else do
      observeLocked env sample modelResident inferenceActive
      update fun c => { c with observedToken := c.sampleToken }
      pure sample.priorityObservation

/-- The observation that the sample of a poll carries. -/
def observeCarried (env : PressureEnvironment W) (modelResident : Bool) :
    Option PriorityObservation → PressureM W Bool
  | none => pure false
  | some o => observeDue env modelResident (some o) false

/-- The observation of a load. -/
def observeForLoad (env : PressureEnvironment W) (sample : PressureSample) : PressureM W Bool := do
  let c ← self
  if sample.priorityObservation.isSome = true ∨ c.config.priorityConfigured = true then
    observeDue env false sample.priorityObservation sample.priorityObservation.isNone
  else
    pure false

namespace GateCall

/-- The call as an operation of the controller. -/
def operation : GateCall W → Operation W
  | observe sample modelResident => .observe sample modelResident
  | pollPriority modelResident force => .pollPriority modelResident force
  | poll modelResident forcePriority inferenceActive => .poll modelResident forcePriority inferenceActive
  | immediateLoadAdmission requirement sampleReader => .immediateLoadAdmission requirement sampleReader

/-- The call cut off behind each of its parts, first of all before the first one. Every beginning runs
    with the arguments of the call, its clock and its readers. -/
def beginnings (env : PressureEnvironment W) : GateCall W → List (PressureM W Unit)
  | observe sample modelResident => [
      pure (),
      observeLocked env sample modelResident false,
      do
        observeLocked env sample modelResident false
        (fun _ => ()) <$> observeDue env modelResident sample.priorityObservation false]
  | pollPriority modelResident force => [
      pure (),
      (fun _ => ()) <$> observeDue env modelResident none force]
  | poll modelResident forcePriority inferenceActive => [
      pure (),
      (fun _ => ()) <$> observeDue env modelResident none forcePriority,
      do
        let _ ← pollPriorityLocked env modelResident none forcePriority
        (fun _ => ()) <$> observeSampled env modelResident inferenceActive,
      do
        let _ ← pollPriorityLocked env modelResident none forcePriority
        let carried ← observeSampled env modelResident inferenceActive
        (fun _ => ()) <$> observeCarried env modelResident carried]
  | immediateLoadAdmission _ sampleReader => [
      pure (),
      do
        let sample ← callback (sampleReader.getD env.readSample)
        (fun _ => ()) <$> observeForLoad env sample]

end GateCall

/-- The state that a beginning of a call leads to, with a gate that is sound. -/
structure CutOff (m : PressureM W Unit) (σ₀ σ : PressureSession W) : Prop where
  run : m σ₀ = .ok () σ
  sound : GateSound σ₀.controller.priorityObservation σ

/-- The gate is as a beginning of the call leaves it. -/
def Reaches (m : PressureM W Unit) (σ₀ σ : PressureSession W) : Prop :=
  ∃ σ₁, CutOff m σ₀ σ₁ ∧ σ.controller.core = σ₁.controller.core

/-- What a call leaves behind that raises. -/
def Raised (beginnings : List (PressureM W Unit)) (σ₀ : PressureSession W) (e : Exc)
    (σ' : PressureSession W) : Prop :=
  LateError e ∨ σ'.controller.admissionOpen = false ∨ ∃ m ∈ beginnings, Reaches m σ₀ σ'

/-- The world and the clock may go on behind a part. -/
theorem stable_reaches (m : PressureM W Unit) (σ₀ : PressureSession W) : Stable (Reaches m σ₀) where
  world _ _ h := h
  sample _ _ _ _ h := h
  oomCounts _ _ h := h
  reasons _ _ _ h := h
  observedToken _ _ h := h
  polled _ _ h := h

section

variable {m n : PressureM W Unit} {beginnings : List (PressureM W Unit)} {e : Exc}

/-- What is cut off at a part is behind it. -/
theorem CutOff.reaches (h : CutOff m σ₀ σ) : Reaches m σ₀ σ := ⟨σ, h, rfl⟩

/-- At first a call is behind its empty beginning. -/
theorem reaches_start (hσ : Gated σ) : Reaches (pure ()) σ σ := CutOff.reaches ⟨rfl, hσ, .inl rfl⟩

/-- A call that raises behind a beginning has raised there. -/
theorem Reaches.raised (h : Reaches m σ₀ σ) (hm : m ∈ beginnings) : Raised beginnings σ₀ e σ :=
  .inr (.inr ⟨m, hm, h⟩)

/-- A part that raises behind a beginning. -/
theorem Reaches.refused (h : Reaches m σ₀ σ) (hm : m ∈ beginnings)
    (hrefused : Refused σ.controller.core e σ') : Raised beginnings σ₀ e σ' :=
  hrefused.imp_right fun hrefused => hrefused.imp_right fun hcore =>
    let ⟨σ₁, hσ₁, hcore₁⟩ := h
    ⟨m, hm, σ₁, hσ₁, hcore.trans hcore₁⟩

/-- The snapshot leaves a call behind the same beginning. -/
theorem Reaches.snapshot (h : Reaches m σ₀ σ) (hm : m ∈ beginnings) (taken : Bool) :
    Ensures (snapshotOf env taken) σ (fun _ => Reaches m σ₀) (Raised beginnings σ₀) := by
  refine (ensures_ite (p := taken = true)).2 ⟨fun _ => ensures_map.2 ?_, fun _ => h⟩
  exact (((stable_reaches m σ₀).timed env).preserves_gatePrioritySnapshotLocked σ h).mono
    (fun _ _ h => h) fun _ _ h => h.raised hm

/-- A poll behind the beginning `m` of a call, which is behind `n` when it has taken in its
    observation. -/
theorem Reaches.poll (h : Reaches m σ₀ σ) (hm : m ∈ beginnings) (hn : n ∈ beginnings)
    (hσ : GateSound σ₀.controller.priorityObservation σ) (modelResident : Bool)
    (observation : Option PriorityObservation) (force : Bool)
    (hrun : ∀ taken σ', observeDue env modelResident observation force σ = .ok taken σ' →
      n σ₀ = .ok () σ') :
    Ensures (pollPriorityLocked env modelResident observation force) σ
      (fun _ σ' => Reaches n σ₀ σ' ∧ GateSound σ₀.controller.priorityObservation σ')
      (Raised beginnings σ₀) := by
  rw [pollPriorityLocked_eq, ensures_bind]
  refine ((ensures_observeDue_sound modelResident observation force hσ).and ensures_run).mono ?_
    fun _ _ hrefused => h.refused hm hrefused.1
  rintro taken σ₁ ⟨hσ₁, htaken⟩
  have hreaches : Reaches n σ₀ σ₁ := CutOff.reaches ⟨hrun taken σ₁ htaken, hσ₁⟩
  have hsound : Ensures (snapshotOf env taken) σ₁
      (fun _ => GateSound σ₀.controller.priorityObservation) (fun _ _ => True) := by
    refine (ensures_ite (p := taken = true)).2 ⟨fun _ => ensures_map.2 ?_, fun _ => hσ₁⟩
    exact ((stable_sound.timed env).preserves_gatePrioritySnapshotLocked σ₁ hσ₁).mono
      (fun _ _ h => h) fun _ _ _ => trivial
  exact ((hreaches.snapshot hn taken).and hsound).mono (fun _ _ h => h) fun _ _ h => h.1

end

/-- An observation raises behind one of its beginnings. -/
theorem ensures_observe_raised (sample : PressureSample) (modelResident : Bool) (hσ : Gated σ) :
    Ensures (observe env sample modelResident) σ (fun _ _ => True)
      (Raised ((GateCall.observe sample modelResident).beginnings env) σ) := by
  have hstart : GateSound σ.controller.priorityObservation σ := ⟨hσ, .inl rfl⟩
  rw [observe, ensures_bind, ensures_self, ensures_bind]
  refine ((ensures_observeLocked_sound sample modelResident false hstart).and ensures_run).mono ?_
    fun _ _ hrefused => (reaches_start hσ).refused (by simp [GateCall.beginnings]) hrefused.1
  rintro _ σ₁ ⟨hσ₁, hobserved⟩
  have hreaches : Reaches (observeLocked env sample modelResident false) σ σ₁ :=
    CutOff.reaches ⟨hobserved, hσ₁⟩
  rw [ensures_bind]
  refine (hreaches.poll (n := do
      observeLocked env sample modelResident false
      (fun _ => ()) <$> observeDue env modelResident sample.priorityObservation false)
    (by simp [GateCall.beginnings]) (by simp [GateCall.beginnings]) hσ₁ modelResident _ false ?_).mono ?_
    fun _ _ h => h
  · intro taken σ₂ hdue
    rw [run_bind_of_ok hobserved, run_map_of_ok hdue]
  · rintro snapshot σ₂ -
    rw [ensures_bind]
    exact (ensures_publishTransitionLocked_closed _ _).mono
      (fun _ _ _ => ensures_map.2 (ensures_self.2 trivial)) fun _ _ h => .inr (.inl h)

/-- So does a poll of the signal. -/
theorem ensures_pollPriority_raised (modelResident force : Bool) (hσ : Gated σ) :
    Ensures (pollPriority env modelResident force) σ (fun _ _ => True)
      (Raised ((GateCall.pollPriority modelResident force).beginnings env) σ) := by
  rw [pollPriority, ensures_bind, ensures_self, ensures_bind]
  refine ((reaches_start hσ).poll (n := (fun _ => ()) <$> observeDue env modelResident none force)
    (by simp [GateCall.beginnings]) (by simp [GateCall.beginnings]) ⟨hσ, .inl rfl⟩ modelResident none
    force fun taken σ₁ hdue => run_map_of_ok hdue).mono ?_ fun _ _ h => h
  rintro snapshot σ₁ -
  rw [ensures_bind]
  exact (ensures_publishTransitionLocked_closed _ _).mono
    (fun _ _ _ => ensures_map.2 (ensures_self.2 trivial)) fun _ _ h => .inr (.inl h)

/-- The part of a poll that samples takes the sample in first. -/
theorem pollSample_eq (modelResident inferenceActive : Bool) :
    pollSample env modelResident inferenceActive =
      observeSampled env modelResident inferenceActive >>= fun carried =>
        carried.elim (pure false) fun o =>
          Option.isSome <$> pollPriorityLocked env modelResident (some o) false := by
  rw [pollSample, observeSampled, bind_assoc]
  congr 1
  funext c
  split
  · rfl
  · rw [bind_assoc]
    congr 1
    funext sample
    rw [bind_assoc]
    congr 1
    funext c
    split
    · rfl
    · simp only [bind_assoc, pure_bind]
      congr 1
      funext _
      congr 1
      funext _
      rw [pollCarried.eq_def]
      cases sample.priorityObservation <;> rfl

/-- The part of a poll that takes in a sample. -/
theorem ensures_observeSampled_sound (modelResident inferenceActive : Bool) (hσ : GateSound o₀ σ) :
    Ensures (observeSampled env modelResident inferenceActive) σ (fun _ => GateSound o₀)
      (Refused σ.controller.core) := by
  rw [observeSampled, ensures_bind, ensures_self, ensures_ite]
  refine ⟨fun _ => hσ, fun _ => ?_⟩
  rw [ensures_bind]
  have hread := (stable_sound.preserves_sample env σ hσ).and
    ((stable_core σ.controller.core).preserves_sample env σ rfl)
  refine hread.mono ?_ fun _ _ h => .of_core h.2
  rintro sample σ₁ ⟨hσ₁, hcore⟩
  rw [ensures_bind, ensures_self, ensures_ite]
  refine ⟨fun _ => hσ₁, fun _ => ?_⟩
  rw [ensures_bind]
  refine (ensures_observeLocked_sound sample modelResident inferenceActive hσ₁).mono ?_
    fun _ _ h => hcore ▸ h
  exact fun _ σ₂ hσ₂ => stable_sound.observedToken σ₂ _ hσ₂

/-- A poll raises behind one of its beginnings. -/
theorem ensures_poll_raised (modelResident forcePriority inferenceActive : Bool) (hσ : Gated σ) :
    Ensures (poll env modelResident forcePriority inferenceActive) σ (fun _ _ => True)
      (Raised ((GateCall.poll modelResident forcePriority inferenceActive).beginnings env) σ) := by
  have hstart : Reaches (pure ()) σ σ := reaches_start hσ
  rw [poll, ensures_ite, ensures_throw]
  refine ⟨fun _ => hstart.raised (by simp [GateCall.beginnings]), fun _ => ?_⟩
  rw [ensures_bind, ensures_self, ensures_bind]
  refine ((hstart.poll (n := (fun _ => ()) <$> observeDue env modelResident none forcePriority)
    (by simp [GateCall.beginnings]) (by simp [GateCall.beginnings]) ⟨hσ, .inl rfl⟩ modelResident none
    forcePriority fun taken σ₁ hdue => run_map_of_ok hdue).and ensures_run).mono ?_ fun _ _ h => h.1
  rintro snapshot σ₁ ⟨⟨hreaches₁, hσ₁⟩, hpolled⟩
  rw [ensures_bind, pollSample_eq, ensures_bind]
  refine ((ensures_observeSampled_sound modelResident inferenceActive hσ₁).and ensures_run).mono ?_
    fun _ _ hrefused => hreaches₁.refused (by simp [GateCall.beginnings]) hrefused.1
  rintro carried σ₂ ⟨hσ₂, hsampled⟩
  -- behind the sample only the observation it carries is left, and then the receipt
  have hpublished : ∀ carried σ₃, Ensures (publishTransitionLocked env σ.controller carried >>= fun _ =>
      PressureController.state <$> self) σ₃ (fun _ _ => True)
      (Raised ((GateCall.poll modelResident forcePriority inferenceActive).beginnings env) σ) :=
    fun _ _ => ensures_bind.2 ((ensures_publishTransitionLocked_closed _ _).mono
      (fun _ _ _ => ensures_map.2 (ensures_self.2 trivial)) fun _ _ h => .inr (.inl h))
  cases carried with
  | none => exact hpublished _ σ₂
  | some o =>
    have hreaches₂ : Reaches (do
        let _ ← pollPriorityLocked env modelResident none forcePriority
        (fun _ => ()) <$> observeSampled env modelResident inferenceActive) σ σ₂ :=
      CutOff.reaches ⟨by rw [run_bind_of_ok hpolled, run_map_of_ok hsampled], hσ₂⟩
    refine ensures_map.2 ((hreaches₂.poll (n := do
        let _ ← pollPriorityLocked env modelResident none forcePriority
        let carried ← observeSampled env modelResident inferenceActive
        (fun _ => ()) <$> observeCarried env modelResident carried)
      (by simp [GateCall.beginnings]) (by simp [GateCall.beginnings]) hσ₂ modelResident (some o) false
      ?_).mono (fun _ σ₃ _ => hpublished _ σ₃) fun _ _ h => h)
    intro taken σ₃ hdue
    rw [run_bind_of_ok hpolled, run_bind_of_ok hsampled, observeCarried, run_map_of_ok hdue]

/-- The poll before a load takes in the sample and the signal first. -/
theorem pollForLoad_eq (sample : PressureSample) :
    pollForLoad env sample = observeForLoad env sample >>= snapshotOf env := by
  rw [pollForLoad, observeForLoad, bind_assoc]
  congr 1
  funext c
  split
  · exact pollPriorityLocked_eq _ _ _
  · rfl

/-- Both are taken in, or refused with the controller as it was. -/
theorem ensures_observeForLoad_sound (sample : PressureSample) (hσ : GateSound o₀ σ) :
    Ensures (observeForLoad env sample) σ (fun _ => GateSound o₀) (Refused σ.controller.core) := by
  rw [observeForLoad, ensures_bind, ensures_self, ensures_ite]
  exact ⟨fun _ => ensures_observeDue_sound _ _ _ hσ, fun _ => hσ⟩

/-- The decision of a load, behind the observation. -/
theorem ensures_decideAfterPoll_core (selected : ModelLoadRequirement) (sample : PressureSample) :
    Ensures (decideAfterPoll env selected sample) σ (fun _ _ => True)
      (fun _ σ' => σ'.controller.core = σ.controller.core) := by
  rw [decideAfterPoll, ensures_bind, ensures_self, ensures_ite, denied, ensures_bind, ensures_self,
    ensures_bind, ensures_update, ensures_pure]
  refine ⟨fun _ => trivial, fun _ => ?_⟩
  rw [decideLoad, ensures_bind]
  refine (((stable_core σ.controller.core).timed env).preserves_evaluate sample selected σ rfl).mono ?_
    fun _ _ h => h
  rintro decision σ₁ -
  rw [ensures_bind, ensures_update, ensures_ite, ensures_pure, ensures_bind, markReleasedLocked,
    ensures_bind, ensures_update, ensures_bind, ensures_record, ensures_enter]
  exact ⟨fun _ => trivial, fun _ => trivial⟩

/-- The part of a load that may raise. -/
theorem ensures_immediateLoadAdmissionLocked_raised (requirement : Option ModelLoadRequirement)
    (selected : ModelLoadRequirement) (sampleReader : Option (EStateM Exc W PressureSample))
    (hσ : Gated σ) :
    Ensures (immediateLoadAdmissionLocked env selected sampleReader) σ (fun _ _ => True)
      (Raised ((GateCall.immediateLoadAdmission requirement sampleReader).beginnings env) σ) := by
  rw [immediateLoadAdmissionLocked, ensures_bind, ensures_self, ensures_ite, ensures_bind, denied,
    ensures_bind, ensures_self, ensures_bind, ensures_update, ensures_pure, ensures_pure]
  refine ⟨fun _ => trivial, fun _ => ?_⟩
  rw [ensures_bind]
  have hstart : Reaches (pure ()) σ σ := reaches_start hσ
  have hread := (((stable_reaches _ σ).preserves_callback (sampleReader.getD env.readSample) σ hstart).and
    (stable_sound.preserves_callback (sampleReader.getD env.readSample) σ ⟨hσ, .inl rfl⟩)).and ensures_run
  refine hread.mono ?_ fun _ _ h => h.1.1.raised (by simp [GateCall.beginnings])
  rintro sample σ₁ ⟨⟨hreaches, hσ₁⟩, hsample⟩
  rw [ensures_bind, pollForLoad_eq, ensures_bind]
  refine ((ensures_observeForLoad_sound sample hσ₁).and ensures_run).mono ?_ fun _ _ hrefused =>
    hreaches.refused (by simp [GateCall.beginnings]) hrefused.1
  rintro taken σ₂ ⟨hσ₂, hobserved⟩
  have hreaches₂ : Reaches (do
      let sample ← callback (sampleReader.getD env.readSample)
      (fun _ => ()) <$> observeForLoad env sample) σ σ₂ :=
    CutOff.reaches ⟨by rw [run_bind_of_ok hsample, run_map_of_ok hobserved], hσ₂⟩
  refine (hreaches₂.snapshot (by simp [GateCall.beginnings]) taken).mono ?_ fun _ _ h => h
  rintro snapshot σ₃ hσ₃
  rw [ensures_bind]
  exact (ensures_decideAfterPoll_core selected sample).mono (fun _ _ _ => trivial) fun _ _ hcore =>
    hσ₃.refused (by simp [GateCall.beginnings]) (.of_core hcore)

/-- An admission raises behind one of its beginnings. -/
theorem ensures_immediateLoadAdmission_raised (requirement : Option ModelLoadRequirement)
    (sampleReader : Option (EStateM Exc W PressureSample)) (hσ : Gated σ) :
    Ensures (immediateLoadAdmission env requirement sampleReader) σ (fun _ _ => True)
      (Raised ((GateCall.immediateLoadAdmission requirement sampleReader).beginnings env) σ) := by
  rw [immediateLoadAdmission, ensures_bind, ensures_self, ensures_bind, ensures_ofExcept]
  refine ⟨fun selected _ => ?_, fun _ _ => (reaches_start hσ).raised (by simp [GateCall.beginnings])⟩
  rw [ensures_bind]
  refine (ensures_immediateLoadAdmissionLocked_raised requirement selected sampleReader hσ).mono ?_
    fun _ _ h => h
  rintro decision σ₁ -
  rw [ensures_bind]
  exact (ensures_publishTransitionLocked_closed _ _).mono (fun _ _ _ => trivial) fun _ _ h => .inr (.inl h)

/-- A call that raises leaves behind what one of its beginnings did. -/
theorem ensures_call_raised (env : PressureEnvironment W) (call : GateCall W) (hσ : Gated σ) :
    Ensures (perform env call.operation) σ (fun _ _ => True) (Raised (call.beginnings env) σ) := by
  cases call with
  | observe sample resident =>
    exact ensures_map.2 (ensures_observe_raised sample resident hσ)
  | pollPriority resident force =>
    exact ensures_map.2 (ensures_pollPriority_raised resident force hσ)
  | poll resident force active =>
    exact ensures_map.2 (ensures_poll_raised resident force active hσ)
  | immediateLoadAdmission requirement reader =>
    exact ensures_map.2 (ensures_immediateLoadAdmission_raised requirement reader hσ)

/-- A call that raises leaves the gate closed, or exactly as one of the beginnings of this very call
    leaves it, run to its end from the state before the call: the parts that were complete. An observation
    of a workload that needs the machine is then not new behind the open gate. The exceptions are left out
    that are raised about an observation that is recorded already. -/
theorem closed_or_behind_parts (env : PressureEnvironment W) (config : ControllerConfig)
    (requirements : List ModelLoadRequirement) (world : W) (operations : List (Operation W))
    (call : GateCall W) {σ σ' : PressureSession W} {e : Exc}
    (hσ : σ = PressureSession.run env (PressureSession.start config requirements world) operations)
    (hraised : perform env call.operation σ = .error e σ') (hlate : ¬ LateError e) :
    σ'.controller.admissionOpen = false ∨
      (∃ m ∈ call.beginnings env, ∃ σ₁, m σ = .ok () σ₁ ∧ σ'.controller.core = σ₁.controller.core) ∧
      (σ'.controller.priorityObservation = σ.controller.priorityObservation ∨
        σ'.controller.priorityObservation.external = false) := by
  have hgated : Gated σ := hσ ▸ gated_run env config requirements world operations
  have h := (ensures_of_error hraised).1 (ensures_call_raised env call hgated)
  rcases h.resolve_left hlate with hclosed | ⟨m, hm, σ₁, hσ₁, hcore⟩
  · exact .inl hclosed
  -- The gate is the one behind the part that was done, and so is the observation.
  cases hopen : σ'.controller.admissionOpen with
  | false => exact .inl rfl
  | true =>
    have hobservation : σ'.controller.priorityObservation = σ₁.controller.priorityObservation :=
      congrArg GateCore.priorityObservation hcore
    have hopen₁ : σ₁.controller.admissionOpen = true :=
      (congrArg GateCore.admissionOpen hcore).symm.trans hopen
    refine .inr ⟨⟨m, hm, σ₁, hσ₁.run, hcore⟩, ?_⟩
    rw [hobservation]
    exact hσ₁.sound.unasserted.imp_right fun h => h.2 hopen₁

/-- A controller of a host, without a signal. -/
def signallessConfig : ControllerConfig :=
  { hostConfig with priorityConfigured := false }

/-- A sample under pressure that carries an observation of a signal. -/
def strainedSample : PressureSample :=
  { healthySample with
    psiFullAvg10 := some 1
    priorityObservation := some (.bare .unavailable true) }

/-- What the sample leaves behind, which raises when its observation is taken in. -/
theorem observe_strainedSample :
    perform (signalEnvironment 0) (.observe strainedSample false) (.start signallessConfig [small] 0) =
      .error (.valueError "Disabled priority control received configured input")
        (after (perform (signalEnvironment 0) (.observe strainedSample false))
          (.start signallessConfig [small] 0)) := by
  rfl

/-- The sample has been counted, behind a gate that is open: of the beginnings of the call, it is the one
    behind the sample. -/
theorem closed_or_behind_parts_strainedSample :
    ∃ m ∈ (GateCall.observe strainedSample false).beginnings (signalEnvironment 0), ∃ σ,
      m (.start signallessConfig [small] 0) = .ok () σ ∧
      σ.controller.admissionOpen = true ∧ σ.controller.consecutivePressure = 1 := by
  have hopen : (after (perform (signalEnvironment 0) (.observe strainedSample false))
      (.start signallessConfig [small] 0)).controller.admissionOpen = true := by decide +kernel
  have hcounted : (after (perform (signalEnvironment 0) (.observe strainedSample false))
      (.start signallessConfig [small] 0)).controller.consecutivePressure = 1 := by decide +kernel
  rcases closed_or_behind_parts (signalEnvironment 0) signallessConfig [small] 0 []
    (.observe strainedSample false) rfl observe_strainedSample (by simp [LateError]) with
    hclosed | ⟨⟨m, hm, σ, hrun, hcore⟩, -⟩
  · exact absurd (hclosed.symm.trans hopen) Bool.false_ne_true
  · exact ⟨m, hm, σ, hrun, (congrArg GateCore.admissionOpen hcore).symm.trans hopen,
      (congrArg GateCore.consecutivePressure hcore).symm.trans hcounted⟩

/-- A call that raises may leave the gate open and the counters changed. -/
theorem not_closed_or_unchanged : ¬ ∀ (W : Type) (env : PressureEnvironment W) (config : ControllerConfig)
    (requirements : List ModelLoadRequirement) (world : W) (operations : List (Operation W))
    (call : GateCall W) (σ' : PressureSession W) (e : Exc),
    let σ := PressureSession.run env (.start config requirements world) operations
    perform env call.operation σ = .error e σ' →
      σ'.controller.admissionOpen = false ∨ σ'.controller.core = σ.controller.core := by
  intro h
  rcases h ℕ (signalEnvironment 0) signallessConfig [small] 0 [] (.observe strainedSample false) _ _
    observe_strainedSample with hclosed | hcore
  · exact absurd hclosed (by decide +kernel)
  · exact absurd (congrArg GateCore.consecutivePressure hcore) (by decide +kernel)

end Subgen

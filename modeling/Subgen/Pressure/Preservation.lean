import Subgen.Pressure.Closure
import Subgen.Pressure.Invariant

/-!
# Samples and operations keep the invariant

A sample is noted before it is processed, so in between it is ahead of every sample that
counts (`Ahead`). Every operation preserves `Inv`, whether it returns or raises.

The invariant says of each bookkeeping field of the controller what it is in terms of the history
(`Kept`). What an operation may do to the gate is a latch, a release, an observation or a sample; each of
these has a lemma here, and the rest is bookkeeping that the invariant does not look at. So the invariant is
durable (`durable_inv`), and it holds along every run, with raising clocks, readers and observers
among its calls (`inv_run`).

* `Ahead`: the invariant while a sample is noted and not yet processed;
* `ensures_processSample`: what becomes of a sample in each state of the controller;
* `durable_inv`, `inv_run`: every operation, and every run.
-/

namespace Subgen

open Procedure Recent PressureController

variable {W : Type} {config : ControllerConfig} {σ : PressureSession W} {c : PressureController} {h : History}
  {e : ControllerEvent}

/-! ## Fields -/

theorem Kept.closed (hk : Kept config c h) : Kept config { c with admissionOpen := false } h :=
  { hk with gate := ⟨fun ho => absurd ho Bool.false_ne_true, hk.gate.clear_of_normal⟩ }

theorem Kept.rested (hk : Kept config c h) : Kept config { c with consecutiveHealthy := 0 } h :=
  { hk with
    samples := ⟨Nat.zero_le _, fun _ => rfl, hk.samples.increasing, hk.samples.le_last⟩ }

theorem Kept.settled (hk : Kept config c h) : Kept config c.settled h :=
  { hk with
    gate := ⟨fun ho => hk.gate.normal_of_open (Bool.and_eq_true _ _ ▸ ho).1,
      hk.gate.clear_of_normal⟩ }

/-- Another state, with the gate closed behind it. -/
theorem Kept.settled_entered (hk : Kept config c h) {s : ControllerState} (hs : s ≠ .normal)
    (hhealthy : c.consecutiveHealthy = 0) :
    Kept config (PressureController.settled { c with state := s }) (.entered s :: h) := by
  have hopen : ¬ (c.admissionOpen && decide (s = .normal)) = true := by simp [hs]
  have hentered := hk.closed.entered hs rfl hhealthy
  exact { hentered with gate := ⟨fun ho => absurd ho hopen, hentered.gate.clear_of_normal⟩ }

/-- A release or a latch. -/
theorem Kept.halted (hk : Kept config c h) (hobservation : e.observation? = none)
    (hqualified : e.qualifiedAt = none) (hincrease : e.isIncrease = false)
    (hstate : e.state? = none) :
    Kept config { c with admissionOpen := false, consecutiveHealthy := 0 } (e :: h) where
  config_eq := hk.config_eq
  samples := hk.samples.none_counted hqualified
  clears := hk.clears.pass hobservation
  episode := hk.episode.pass hobservation hincrease
  signal := hk.signal.pass hobservation
  state := hk.state.pass hstate
  gate := ⟨fun ho => absurd ho Bool.false_ne_true, hk.gate.clear_of_normal⟩

/-- A controller in the normal state is ready for a load. -/
theorem Kept.ready_of_normal (hk : Kept config c h) (hnormal : c.state = .normal) :
    c.priorityRecoveryReady = true := by
  rw [priorityRecoveryReady]
  cases hconfigured : c.config.priorityConfigured with
  | false => rfl
  | true =>
    obtain ⟨hclear, hcount⟩ := hk.gate.clear_of_normal hconfigured hnormal
    simp [hclear, hcount]

/-! ## Latches, releases and receipts -/

theorem preserves_latchReceiptFailureLocked :
    Preserves (Inv config) (latchReceiptFailureLocked (W := W)) := by
  intro σ hσ
  have hlatched : Inv config ((σ.update (latched "receipt_unavailable")).record .latched) := fun hr =>
    { (hσ hr.of_cons).halted rfl rfl rfl rfl with }
  rw [latchReceiptFailureLocked, ensures_bind, ensures_update, ensures_bind, ensures_record,
    ensures_bind, ensures_self, ensures_ite, ensures_enter]
  exact ⟨fun _ => hlatched, fun _ hr => (hlatched hr.of_cons).entered (by decide) rfl rfl⟩

theorem preserves_latchReleaseFailureLocked (modelResident : Bool) :
    Preserves (Inv config) (latchReleaseFailureLocked (W := W) modelResident) := by
  intro σ hσ
  have hlatched : Inv config ((σ.update (latched "model_release_failed")).record .latched) := fun hr =>
    { (hσ hr.of_cons).halted rfl rfl rfl rfl with }
  rw [latchReleaseFailureLocked, ensures_bind, ensures_update, ensures_bind, ensures_record,
    ensures_enter]
  exact fun hr => (hlatched hr.of_cons).entered (retreat_ne_normal modelResident) rfl rfl

theorem preserves_markReleasedLocked (reason : Option String) :
    Preserves (Inv config) (markReleasedLocked (W := W) reason) := by
  intro σ hσ
  have hreleased : Inv config ((σ.update (released reason)).record .released) := fun hr =>
    { (hσ hr.of_cons).halted rfl rfl rfl rfl with }
  rw [markReleasedLocked, ensures_bind, ensures_update, ensures_bind, ensures_record, ensures_enter]
  exact fun hr => (hreleased hr.of_cons).entered (by decide) rfl rfl

/-! ## Samples -/

/-- The sample of time `t` is the last one seen, and ahead of those that count. -/
def Ahead (config : ControllerConfig) (t : ℚ) (σ : PressureSession W) : Prop :=
  Regular σ.history → Kept config σ.controller σ.history ∧ σ.controller.lastObservedAt = some t ∧
    ∀ t' ∈ History.qualified σ.history, t' < t

theorem Ahead.inv {t : ℚ} (hσ : Ahead config t σ) : Inv config σ := fun hr => (hσ hr).1

theorem stable_ahead (config : ControllerConfig) (t : ℚ) (s : ControllerState) :
    Stable fun σ : PressureSession W => Ahead config t σ ∧ σ.controller.state = s where
  world _ _ hσ := hσ
  sample _ _ _ _ hσ := ⟨fun hr => ⟨{ (hσ.1 hr).1 with }, (hσ.1 hr).2⟩, hσ.2⟩
  oomCounts _ _ hσ := ⟨fun hr => ⟨{ (hσ.1 hr).1 with }, (hσ.1 hr).2⟩, hσ.2⟩
  reasons _ _ _ hσ := ⟨fun hr => ⟨{ (hσ.1 hr).1 with }, (hσ.1 hr).2⟩, hσ.2⟩
  observedToken _ _ hσ := ⟨fun hr => ⟨{ (hσ.1 hr).1 with }, (hσ.1 hr).2⟩, hσ.2⟩
  polled _ _ hσ := ⟨fun hr => ⟨{ (hσ.1 hr).1 with }, (hσ.1 hr).2⟩, hσ.2⟩

/-- A sample that is newer than the last one is ahead of those that count. -/
theorem Inv.ahead {t : ℚ} {sample : Option PressureSample} (hσ : Inv config σ)
    (hnew : ¬ σ.controller.lastObservedAt.any (t ≤ ·) = true) :
    Ahead config t (σ.update ({ · with lastObservedAt := some t, lastObservedSample := sample })) := by
  intro hr
  have hk := hσ hr
  have hlt : ∀ t' ∈ History.qualified σ.history, t' < t := fun t' ht' => by
    obtain ⟨last, hlast, hle⟩ := hk.samples.le_last t' ht'
    rw [Option.mem_def] at hlast
    rw [hlast, Option.any_some, decide_eq_true_eq, not_le] at hnew
    exact hle.trans_lt hnew
  refine ⟨{ hk with samples := ⟨hk.samples.healthy_le, hk.samples.healthy_eq_zero,
    hk.samples.increasing, fun t' ht' => ⟨t, rfl, (hlt t' ht').le⟩⟩ }, rfl, hlt⟩

theorem preserves_checkTelemetry (t : ℚ) (fresh modelResident : Bool) :
    Preserves (Ahead config t) (checkTelemetry (W := W) fresh modelResident) := by
  intro σ hσ
  rw [checkTelemetry, ensures_bind, ensures_self, ensures_ite, ensures_ite, ensures_update,
    ensures_bind, ensures_update, ensures_ite, ensures_bind, ensures_update, ensures_enter]
  refine ⟨fun _ => ⟨fun _ hr => ?_, fun _ => ⟨fun _ hr => ?_, fun _ hr => ?_⟩⟩, fun _ => hσ⟩
  · exact ⟨{ (hσ hr).1 with }, (hσ hr).2⟩
  · -- The second reading in a row that is not fresh.
    have hk : Kept config _ _ := (hσ hr.of_cons).1.closed.rested.entered
      (retreat_ne_normal modelResident) rfl rfl
    exact ⟨{ hk with }, (hσ hr.of_cons).2⟩
  · exact ⟨{ (hσ hr).1.closed with }, (hσ hr).2⟩

/-- A sample in the normal state leaves the gate to be closed behind it. -/
theorem ensures_normalSample (pressure critical : List String) (fresh modelResident : Bool)
    (hσ : Inv config σ) (hstate : σ.controller.state = .normal) :
    Ensures (normalSample pressure critical fresh modelResident) σ
      (fun _ σ' => Inv config (σ'.update PressureController.settled)) (fun _ => Inv config) := by
  have hs := retreat_ne_normal modelResident
  rw [normalSample, ensures_bind, ensures_update, ensures_bind, ensures_self, ensures_ite,
    ensures_bind, ensures_update, ensures_enter, ensures_ite, ensures_ite, ensures_bind,
    ensures_update, ensures_enter, ensures_update, ensures_update]
  refine ⟨fun _ hr => ?_, fun _ => ⟨fun _ => ⟨fun _ hr => ?_, fun _ hr => ?_⟩, fun _ hr => ?_⟩⟩
  · exact { (hσ hr.of_cons).rested.settled_entered hs rfl with }
  · exact { (hσ hr.of_cons).rested.settled_entered hs rfl with }
  · exact { (hσ hr).rested.settled with }
  · exact { (hσ hr).rested with gate := ⟨fun _ => hstate, (hσ hr).gate.clear_of_normal⟩ }

theorem ensures_unqualifiedSample {t : ℚ} (pressured modelResident inferenceActive : Bool)
    (hσ : Inv config σ) (hstate : σ.controller.state = .recovering) :
    Ensures (record (.sampled t pressured false) >>= fun _ =>
      unqualifiedSample pressured modelResident inferenceActive) σ
      (fun _ => Inv config) (fun _ => Inv config) := by
  have hrested : Inv config ((σ.record (.sampled t pressured false)).update
      ({ · with consecutiveHealthy := 0 })) := fun hr => {
    config_eq := (hσ hr.of_cons).config_eq
    samples := (hσ hr.of_cons).samples.none_counted (by cases pressured <;> rfl)
    clears := (hσ hr.of_cons).clears.pass rfl
    episode := (hσ hr.of_cons).episode.pass rfl rfl
    signal := (hσ hr.of_cons).signal.pass rfl
    state := (hσ hr.of_cons).state.pass rfl
    gate := (hσ hr.of_cons).gate }
  have hyield : Inv config (((σ.record (.sampled t pressured false)).update
      ({ · with consecutiveHealthy := 0 })).update ({ · with state := .yielding })
      |>.record (.entered .yielding)) := fun hr => by
    have hclosed := (hrested hr.of_cons).closed_of_ne (by simp [PressureSession.update,
      PressureSession.record, hstate])
    exact (hrested hr.of_cons).entered (by decide) hclosed rfl
  rw [ensures_bind, ensures_record, unqualifiedSample, ensures_bind, ensures_update, ensures_bind,
    ensures_self, ensures_ite, ensures_enter, ensures_ite, ensures_enter]
  exact ⟨fun _ => hyield, fun _ => ⟨fun _ => hyield, fun _ => hrested⟩⟩

theorem ensures_qualifiedSample {t : ℚ} (hσ : Ahead config t σ)
    (hstate : σ.controller.state = .recovering) :
    Ensures (qualifiedSample t) σ (fun _ => Inv config) (fun _ => Inv config) := by
  rw [qualifiedSample, ensures_bind, ensures_modify]
  refine preserves_maybeFinishRecoveryLocked _ fun hr => ?_
  obtain ⟨hk, hlast, hlt⟩ := hσ hr.of_cons
  have hsamples := hk.samples
  rw [hlast, hstate] at hsamples
  refine { hk with
    samples := ?_
    clears := hk.clears.pass rfl
    episode := hk.episode.pass rfl rfl
    signal := hk.signal.pass rfl
    state := hk.state.pass rfl }
  change SamplesKept σ.controller.state _ σ.controller.lastObservedAt _
  rw [hlast, hstate]
  exact hsamples.sampled hlt

theorem ensures_recoveringSample {t : ℚ} (env : PressureEnvironment W) (sample : PressureSample)
    (pressured modelResident inferenceActive : Bool) (hσ : Ahead config t σ)
    (hstate : σ.controller.state = .recovering) :
    Ensures (recoveringSample env sample t pressured modelResident inferenceActive) σ
      (fun _ => Inv config) (fun _ => Inv config) := by
  have hstable := stable_ahead (W := W) config t .recovering
  have hadmits : Preserves (fun σ => Ahead config t σ ∧ σ.controller.state = .recovering)
      (sampleAdmits env sample pressured) :=
    preserves_ite (fun _ => preserves_pure _) fun _ => (hstable.timed env).preserves_recoveryQualified sample
  have hcalm : Ahead config t (σ.update ({ · with consecutivePressure := 0 })) := fun hr =>
    ⟨{ (hσ hr).1 with }, (hσ hr).2⟩
  rw [recoveringSample, ensures_bind, ensures_update, ensures_bind]
  refine (hadmits _ ⟨hcalm, hstate⟩).mono ?_ ?_
  · rintro admits σ' ⟨hahead, hrecovering⟩
    refine ensures_ite.2 ⟨fun _ => ensures_qualifiedSample hahead hrecovering, fun _ => ?_⟩
    exact ensures_unqualifiedSample pressured modelResident inferenceActive hahead.inv hrecovering
  · exact fun _ σ' hahead => hahead.1.inv

/-- A sample, with the gate closed behind it. -/
theorem ensures_processSample {t : ℚ} (env : PressureEnvironment W) (sample : PressureSample)
    (pressure critical : List String) (fresh modelResident inferenceActive : Bool)
    (hσ : Ahead config t σ) :
    Ensures (processSample env sample t pressure critical fresh modelResident inferenceActive) σ
      (fun _ σ' => Inv config (σ'.update PressureController.settled)) (fun _ => Inv config) := by
  have hsettled : ∀ σ' : PressureSession W, Inv config σ' →
      Inv config (σ'.update PressureController.settled) := fun σ' hσ' hr => (hσ' hr).settled
  rw [processSample, ensures_bind, ensures_self, ensures_ite, ensures_ite, ensures_pure]
  refine ⟨fun hnormal => ?_, fun _ => ⟨fun hrecovering => ?_, fun _ => hsettled σ hσ.inv⟩⟩
  · exact ensures_normalSample pressure critical fresh modelResident hσ.inv hnormal
  · exact (ensures_recoveringSample env sample _ modelResident inferenceActive hσ hrecovering).mono
      (fun _ σ' hσ' => hsettled σ' hσ') fun _ _ hσ' => hσ'

theorem ensures_processNewSample {t : ℚ} (env : PressureEnvironment W) (sample : PressureSample)
    (modelResident inferenceActive : Bool) (hσ : Inv config σ)
    (hnew : ¬ σ.controller.lastObservedAt.any (t ≤ ·) = true) :
    Ensures (processNewSample env sample t modelResident inferenceActive) σ
      (fun _ => Inv config) (fun _ => Inv config) := by
  -- The classification changes nothing that matters; `checkTelemetry` may enter another state.
  have hstable := stable_ahead (W := W) config t
  rw [processNewSample, ensures_bind, ensures_update, ensures_bind]
  refine (((hstable σ.controller.state).timed env).preserves_classify sample _
    ⟨hσ.ahead hnew, rfl⟩).mono ?_ fun _ _ hσ' => hσ'.1.inv
  rintro reasons σ₁ hσ₁
  rw [ensures_bind, ensures_update, ensures_bind]
  refine (((hstable σ.controller.state).timed env).preserves_gpuFresh sample _
    ((hstable _).reasons σ₁ reasons.1 reasons.2 hσ₁)).mono ?_ fun _ _ hσ' => hσ'.1.inv
  rintro fresh σ₂ hσ₂
  rw [ensures_bind]
  refine (preserves_checkTelemetry t fresh modelResident σ₂ hσ₂.1).mono ?_ fun _ _ hσ' => hσ'.inv
  rintro _ σ₃ hσ₃
  rw [ensures_bind]
  exact ensures_processSample env sample reasons.1 reasons.2 fresh modelResident inferenceActive hσ₃

theorem preserves_observeLocked (env : PressureEnvironment W) (sample : PressureSample)
    (modelResident inferenceActive : Bool) :
    Preserves (Inv config) (observeLocked env sample modelResident inferenceActive) := by
  refine preserves_bind (preserves_ofExcept _) fun observedAt σ hσ => ?_
  rw [ensures_bind, ensures_self, ensures_ite]
  exact ⟨fun _ => hσ, fun hnew =>
    ensures_processNewSample env sample modelResident inferenceActive hσ hnew⟩

/-! ## Operations -/

theorem durable_inv (env : PressureEnvironment W) : Durable env (Inv (W := W) config) where
  stable := stable_inv
  observeLocked := preserves_observeLocked env
  observePriorityLocked := preserves_observePriorityLocked env
  latchReceiptFailureLocked := preserves_latchReceiptFailureLocked
  latchReleaseFailureLocked := preserves_latchReleaseFailureLocked
  markReleasedLocked := preserves_markReleasedLocked
  recoveryRequirements _ _ hσ hr := { hσ hr with }
  admissionOpen _ _ hσ hnormal hr := { hσ hr with gate := ⟨hnormal, (hσ hr).gate.clear_of_normal⟩ }

/-- The invariant holds after any operations, in any order. -/
theorem inv_run (env : PressureEnvironment W) (operations : List (Operation W)) (hσ : Inv config σ) :
    Inv config (PressureSession.run env σ operations) :=
  (durable_inv env).run operations hσ

theorem inv_start (requirements : List ModelLoadRequirement) (world : W) :
    Inv config (PressureSession.start config requirements world) := fun _ => kept_new config requirements

end Subgen

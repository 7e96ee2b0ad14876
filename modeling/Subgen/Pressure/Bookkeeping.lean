import Subgen.Pressure.History

/-!
# Bookkeeping of the controller

Most of what a procedure of the controller does changes nothing that a property of the gate
is about: it reads the clock, evaluates a sample, or notes what it has seen. A property that
does not look at these notes (`Stable`) survives all of it, so the proofs below it only meet
the procedures that change the gate.

The first rules are those of the monad: what holds behind reading the controller, behind an assignment, behind
an event that is recorded. They are simp lemmas, so that a procedure of the source is executed symbolically.
Some procedures only need the clock, and preserve every property that a reading of the clock preserves
(`Timed`); the others call back as well, and for those the property must not depend on the world.
-/

namespace Subgen

open Procedure

namespace PressureController

variable {W : Type} {α β : Type} {σ : PressureSession W} {E : Exc → PressureSession W → Prop}

/-! ## Rules -/

/-- What holds after reading the controller. -/
@[simp] theorem ensures_self {Q : PressureController → PressureSession W → Prop} :
    Ensures self σ Q E ↔ Q σ.controller σ := by
  rw [self, ensures_map, ensures_get]

/-- What holds after an update of the controller. -/
@[simp] theorem ensures_update {Q : Unit → PressureSession W → Prop}
    (f : PressureController → PressureController) :
    Ensures (update f) σ Q E ↔ Q () (σ.update f) := Iff.rfl

/-- What holds after an event is recorded. -/
@[simp] theorem ensures_record {Q : Unit → PressureSession W → Prop} (e : ControllerEvent) :
    Ensures (record e) σ Q E ↔ Q () (σ.record e) := Iff.rfl

/-- What holds after a state is entered. -/
@[simp] theorem ensures_enter {Q : Unit → PressureSession W → Prop} (s : ControllerState) :
    Ensures (enter s) σ Q E ↔
      Q () ((σ.update ({ · with state := s })).record (.entered s)) := Iff.rfl

/-- What holds after the clock is read. -/
@[simp] theorem ensures_now {Q : ℚ → PressureSession W → Prop} (env : PressureEnvironment W) :
    Ensures (now env) σ Q E ↔
      Q (env.clock σ.world).1 { σ with world := (env.clock σ.world).2 } := Iff.rfl

/-! ## Stable properties -/

/-- A property that does not look at the world, nor at what is only noted. -/
structure Stable (I : PressureSession W → Prop) : Prop where
  world : ∀ σ w, I σ → I { σ with world := w }
  sample : ∀ σ s t n, I σ → I (σ.update ({ · with
    lastSample := s, lastSampleAt := t, sampleToken := n }))
  oomCounts : ∀ σ counts, I σ → I (σ.update ({ · with lastOomCounts := counts }))
  reasons : ∀ σ p q, I σ → I (σ.update ({ · with
    lastPressureReasons := p, lastCriticalReasons := q }))
  observedToken : ∀ σ n, I σ → I (σ.update ({ · with observedToken := n }))
  polled : ∀ σ t, I σ → I (σ.update ({ · with lastPriorityPollAt := t }))

variable {I : PressureSession W → Prop}

/-- A step that first reads the controller preserves what its continuation preserves. -/
theorem preserves_self_bind {f : PressureController → PressureM W β} (hf : ∀ c, Preserves I (f c)) :
    Preserves I (self >>= f) := fun σ hσ =>
  ensures_bind.2 (ensures_self.2 (hf σ.controller σ hσ))

/-- A property that does not look at the counters of the cgroup, and survives a reading of the
    clock. -/
structure Timed (env : PressureEnvironment W) (I : PressureSession W → Prop) : Prop where
  now : Preserves I (now env)
  oomCounts : ∀ σ counts, I σ → I (σ.update ({ · with lastOomCounts := counts }))

section

variable {env : PressureEnvironment W} (hI : Timed env I) (sample : PressureSample)
include hI

/-- The check of the device telemetry only reads the clock. -/
theorem Timed.preserves_gpuTelemetryFresh : Preserves I (gpuTelemetryFresh env sample) := by
  refine preserves_self_bind fun c => preserves_ite (fun _ => preserves_pure _) fun _ => ?_
  exact preserves_bind (hI.now) fun _ => preserves_pure _

/-- The freshness of a sample only needs the clock. -/
theorem Timed.preserves_gpuFresh : Preserves I (gpuFresh env sample) :=
  preserves_bind (hI.preserves_gpuTelemetryFresh sample) fun _ =>
    preserves_self_bind fun _ => preserves_pure _

/-- The device part of the classification only needs the clock. -/
theorem Timed.preserves_classifyDevice : Preserves I (classifyDevice env sample) := by
  refine preserves_self_bind fun c => preserves_ite (fun _ => ?_) fun _ => preserves_pure _
  exact preserves_bind (hI.preserves_gpuTelemetryFresh sample) fun _ => preserves_pure _

/-- Classifying a sample only needs the clock. -/
theorem Timed.preserves_classify : Preserves I (classify env sample) := by
  refine preserves_self_bind fun c => ?_
  refine preserves_bind (preserves_ofExcept _) fun _ => ?_
  refine preserves_bind (preserves_ofExcept _) fun _ => ?_
  refine preserves_bind (hI.preserves_classifyDevice sample) fun _ => ?_
  refine preserves_bind (preserves_ofExcept _) fun oom => ?_
  exact preserves_bind (fun σ hσ => hI.oomCounts σ oom.2 hσ) fun _ => preserves_pure _

/-- Evaluating a requirement only needs the clock. -/
theorem Timed.preserves_evaluate (requirement : ModelLoadRequirement) :
    Preserves I (evaluate env requirement sample) := by
  refine preserves_self_bind fun c => preserves_bind (preserves_ofExcept _) fun _ => ?_
  exact preserves_bind (hI.now) fun _ => preserves_ofExcept _

/-- Trying all requirements only needs the clock. -/
theorem Timed.preserves_anyAdmitted (requirements : List ModelLoadRequirement) :
    Preserves I (anyAdmitted env sample requirements) := by
  induction requirements with
  | nil => exact preserves_pure _
  | cons requirement requirements ih =>
    refine preserves_self_bind fun c => preserves_ite (fun _ => ?_) fun _ => ih
    refine preserves_bind (hI.preserves_evaluate sample requirement) fun decision => ?_
    exact preserves_ite (fun _ => preserves_pure _) fun _ => ih

/-- The known reserve only needs the clock. -/
theorem Timed.preserves_reserveKnown : Preserves I (reserveKnown env sample) :=
  preserves_self_bind fun _ =>
    preserves_ite (fun _ => hI.preserves_gpuFresh sample) fun _ => preserves_pure _

/-- Qualifying a sample for recovery only needs the clock. -/
theorem Timed.preserves_recoveryQualified : Preserves I (recoveryQualified env sample) := by
  refine preserves_self_bind fun c => preserves_ite (fun _ => preserves_pure _) fun _ => ?_
  refine preserves_bind (hI.preserves_reserveKnown sample) fun known => ?_
  exact preserves_ite (fun _ => hI.preserves_anyAdmitted sample _) fun _ => preserves_pure _

/-- The gate's look at the signal only needs the clock. -/
theorem Timed.preserves_gatePrioritySnapshotLocked :
    Preserves I (gatePrioritySnapshotLocked env) := by
  refine preserves_self_bind fun c => preserves_bind (hI.now) fun _ => ?_
  refine preserves_bind (preserves_ofExcept _) fun _ => ?_
  exact preserves_bind (preserves_ofExcept _) fun _ => preserves_pure _

/-- The shared device check only needs the clock. -/
theorem Timed.preserves_sharedCudaFresh : Preserves I (sharedCudaFresh env) := by
  refine preserves_self_bind fun c => ?_
  split
  · exact preserves_pure _
  · exact preserves_ite (fun _ => hI.preserves_gpuFresh _) fun _ => preserves_pure _

/-- The refusal for want of capacity only needs the clock. -/
theorem Timed.preserves_capacityRefusal : Preserves I (capacityRefusal env sample) := by
  refine preserves_bind (hI.preserves_gpuFresh sample) fun fresh =>
    preserves_self_bind fun c => ?_
  split
  · exact preserves_pure _
  · exact preserves_throw _
  · exact preserves_bind (hI.preserves_evaluate sample _) fun _ => preserves_pure _

end

section

variable (hI : Stable I) (env : PressureEnvironment W)
include hI

/-- A callback changes the world alone. -/
theorem Stable.preserves_callback (m : EStateM Exc W α) : Preserves I (callback m) := by
  intro σ hσ
  rw [callback, ensures_zoom]
  exact ensures_of_forall (fun _ w => hI.world σ w hσ) fun _ w => hI.world σ w hσ

/-- Reading the clock changes the world alone. -/
theorem Stable.preserves_now : Preserves I (now env) := hI.preserves_callback _

/-- What does not depend on the world is kept by the clock. -/
theorem Stable.timed : Timed env I := ⟨hI.preserves_now env, hI.oomCounts⟩

/-- Taking a sample changes the world alone. -/
theorem Stable.preserves_sample : Preserves I (PressureController.sample env) := by
  have hnew : ∀ time, Preserves I (sample.readNew env time) := fun time =>
    preserves_bind (hI.preserves_callback _) fun s =>
      preserves_bind (fun σ hσ => hI.sample σ (some s) (some time) _ hσ) fun _ => preserves_pure _
  refine preserves_self_bind fun c => preserves_bind (hI.preserves_now env) fun time => ?_
  split
  · exact preserves_ite (fun _ => preserves_pure _) fun _ => hnew time
  · exact hnew time

/-! ## Procedures around the gate -/

/-- What an observation makes of a property holds behind a poll, whether it returns or raises. -/
theorem Stable.ensures_pollPriorityLocked {J : PressureSession W → Prop} (hJ : Stable J)
    (hIJ : ∀ σ, I σ → J σ) (hobserve : ∀ o resident σ, I σ →
      Ensures (observePriorityLocked env o resident) σ (fun _ => J) (fun _ => J))
    (resident : Bool) (observation : Option PriorityObservation) (force : Bool) (hσ : I σ) :
    Ensures (pollPriorityLocked env resident observation force) σ (fun _ => J) (fun _ => J) := by
  have hsnapshot : ∀ o σ, I σ → Ensures (observePriorityLocked env o resident >>= fun _ =>
      some <$> gatePrioritySnapshotLocked env) σ (fun _ => J) (fun _ => J) := by
    intro o σ hσ
    rw [ensures_bind]
    refine (hobserve o resident σ hσ).mono (fun _ σ' hσ' => ?_) fun _ _ hσ' => hσ'
    exact ensures_map.2 ((hJ.timed env).preserves_gatePrioritySnapshotLocked σ' hσ')
  have htake : ∀ time o σ, I σ →
      Ensures (takePolled env time o resident) σ (fun _ => J) (fun _ => J) := by
    intro time o σ hσ
    rw [takePolled, ensures_bind, ensures_update]
    exact hsnapshot o _ (hI.polled σ (some time) hσ)
  refine ensures_bind.2 (ensures_self.2 (ensures_ite.2 ⟨fun _ => ?_, fun _ => ?_⟩))
  · refine ensures_bind.2 (ensures_self.2 (ensures_bind.2 ?_))
    refine (hI.preserves_now env σ hσ).mono (fun time σ' hσ' => ?_) fun _ => hIJ
    split
    · exact htake time _ σ' hσ'
    · refine ensures_ite.2 ⟨fun _ => hIJ σ' hσ', fun _ => ?_⟩
      rw [ensures_bind]
      exact (hI.preserves_callback _ σ' hσ').mono (fun o σ'' hσ'' => htake time o σ'' hσ'') fun _ => hIJ
  · split
    · exact hIJ σ hσ
    · exact hsnapshot _ σ hσ

/-- A poll preserves what the observation does. -/
theorem Stable.preserves_pollPriorityLocked
    (hobserve : ∀ o resident, Preserves I (observePriorityLocked env o resident))
    (resident : Bool) (observation : Option PriorityObservation) (force : Bool) :
    Preserves I (pollPriorityLocked env resident observation force) := fun _ hσ =>
  hI.ensures_pollPriorityLocked env hI (fun _ h => h) (fun o resident => hobserve o resident)
    resident observation force hσ

/-- A receipt preserves what the latch does, which follows a receipt that cannot be made. -/
theorem Stable.preserves_publishTransitionLocked
    (hlatch : Preserves I (latchReceiptFailureLocked (W := W))) (previous : PressureController)
    (force : Bool) : Preserves I (publishTransitionLocked env previous force) := by
  refine preserves_self_bind fun c => preserves_ite (fun _ => ?_) fun _ => preserves_pure _
  refine preserves_tryCatch ?_ fun e => preserves_bind hlatch fun _ => preserves_throw e
  exact preserves_bind ((hI.timed env).preserves_gatePrioritySnapshotLocked) fun _ =>
    hI.preserves_callback _

end

end PressureController

end Subgen

import Subgen.Pressure.Bookkeeping

/-!
# What survives the operations

An operation is made of a few parts that change the gate: a sample or an observation that is taken in,
a latch, a release, and the assignment of the gate itself. A property that survives these parts
(`Durable`) survives every operation, whether it returns or raises, and so every run.

Between the parts an operation reads the clock and calls back: the sample reader, the priority reader and
the observer of receipts may do and raise anything. The parts are fields of `Durable`, so that an invariant is
proved by giving them, and each operation of the source has one lemma that goes through its lines
(`observe`, `pollPriority`, `immediateLoadAdmission` and so on). `perform` and `run` close the property
under single operations and under runs of any length.
-/

namespace Subgen

open Procedure

variable {W : Type}

namespace PressureController

/-- A property that survives the parts of the operations. The gate is opened in the normal state only. -/
structure Durable (env : PressureEnvironment W) (I : PressureSession W → Prop) : Prop where
  stable : Stable I
  observeLocked : ∀ sample resident active, Preserves I (observeLocked env sample resident active)
  observePriorityLocked : ∀ o resident, Preserves I (observePriorityLocked env o resident)
  latchReceiptFailureLocked : Preserves I (latchReceiptFailureLocked (W := W))
  latchReleaseFailureLocked : ∀ resident, Preserves I (latchReleaseFailureLocked (W := W) resident)
  markReleasedLocked : ∀ reason, Preserves I (markReleasedLocked (W := W) reason)
  recoveryRequirements : ∀ σ requirements, I σ →
    I (σ.update ({ · with recoveryRequirements := requirements }))
  admissionOpen : ∀ σ isOpen, I σ → (isOpen = true → σ.controller.state = .normal) →
    I (σ.update ({ · with admissionOpen := isOpen }))

namespace Durable

variable {env : PressureEnvironment W} {I : PressureSession W → Prop} (hI : Durable env I)
  {σ : PressureSession W}
include hI

theorem close (σ : PressureSession W) (hσ : I σ) : I (σ.update ({ · with admissionOpen := false })) :=
  hI.admissionOpen σ false hσ fun h => absurd h Bool.false_ne_true

theorem pollPriorityLocked (modelResident : Bool) (observation : Option PriorityObservation)
    (force : Bool) : Preserves I (pollPriorityLocked env modelResident observation force) :=
  hI.stable.preserves_pollPriorityLocked env hI.observePriorityLocked _ _ _

theorem publishTransitionLocked (previous : PressureController) (force : Bool) :
    Preserves I (publishTransitionLocked env previous force) :=
  hI.stable.preserves_publishTransitionLocked env hI.latchReceiptFailureLocked _ _

/-- What publishes and then returns the state. -/
theorem publish_state (previous : PressureController) (force : Bool) :
    Preserves I (PressureController.publishTransitionLocked env previous force >>= fun _ =>
      PressureController.state <$> self) :=
  preserves_bind (hI.publishTransitionLocked previous force) fun _ _ hσ =>
    ensures_map.2 (ensures_self.2 hσ)

theorem observe (sample : PressureSample) (modelResident : Bool) :
    Preserves I (observe env sample modelResident) := by
  refine preserves_self_bind fun previous => ?_
  refine preserves_bind (hI.observeLocked sample modelResident false) fun _ => ?_
  refine preserves_bind (hI.pollPriorityLocked modelResident _ _) fun snapshot => ?_
  exact hI.publish_state previous snapshot.isSome

theorem pollPriority (modelResident force : Bool) : Preserves I (pollPriority env modelResident force) := by
  refine preserves_self_bind fun previous => ?_
  refine preserves_bind (hI.pollPriorityLocked modelResident _ _) fun snapshot => ?_
  exact hI.publish_state previous snapshot.isSome

theorem pollCarried (sample : PressureSample) (modelResident : Bool) :
    Preserves I (pollCarried env sample modelResident) := by
  rw [PressureController.pollCarried]
  split
  · exact preserves_pure _
  · exact fun σ hσ => ensures_map.2 (hI.pollPriorityLocked modelResident _ _ σ hσ)

theorem pollSample (modelResident inferenceActive : Bool) :
    Preserves I (pollSample env modelResident inferenceActive) := by
  refine preserves_self_bind fun c => preserves_ite (fun _ => preserves_pure _) fun _ => ?_
  refine preserves_bind (hI.stable.preserves_sample env) fun s => preserves_self_bind fun c => ?_
  refine preserves_ite (fun _ => preserves_pure _) fun _ => ?_
  refine preserves_bind (hI.observeLocked s modelResident inferenceActive) fun _ => ?_
  refine preserves_bind (fun σ hσ => hI.stable.observedToken σ _ hσ) fun _ => ?_
  exact hI.pollCarried s modelResident

theorem poll (modelResident forcePriority inferenceActive : Bool) :
    Preserves I (poll env modelResident forcePriority inferenceActive) := by
  refine preserves_ite (fun _ => preserves_throw _) fun _ => preserves_self_bind fun previous => ?_
  refine preserves_bind (hI.pollPriorityLocked modelResident _ _) fun snapshot => ?_
  refine preserves_bind (hI.pollSample modelResident inferenceActive) fun carried => ?_
  exact hI.publish_state previous _

theorem checkOrRaise (forcePriority : Bool) : Preserves I (checkOrRaise env forcePriority) := by
  refine preserves_bind (hI.poll true forcePriority true) fun state => ?_
  refine preserves_ite (fun _ => ?_) fun _ => preserves_pure _
  exact preserves_self_bind fun c => preserves_throw _

theorem closeAdmission : Preserves I (closeAdmission env) := by
  refine preserves_self_bind fun previous => ?_
  refine preserves_bind (fun σ hσ => hI.close σ hσ) fun _ => ?_
  exact hI.publishTransitionLocked previous false

/-- The state that goes with the property is not looked at by what is only noted. -/
theorem stable_state (state : ControllerState) :
    Stable fun σ : PressureSession W => I σ ∧ σ.controller.state = state where
  world _ _ hσ := ⟨hI.stable.world _ _ hσ.1, hσ.2⟩
  sample _ _ _ _ hσ := ⟨hI.stable.sample _ _ _ _ hσ.1, hσ.2⟩
  oomCounts _ _ hσ := ⟨hI.stable.oomCounts _ _ hσ.1, hσ.2⟩
  reasons _ _ _ hσ := ⟨hI.stable.reasons _ _ _ hσ.1, hσ.2⟩
  observedToken _ _ hσ := ⟨hI.stable.observedToken _ _ hσ.1, hσ.2⟩
  polled _ _ hσ := ⟨hI.stable.polled _ _ hσ.1, hσ.2⟩

/-- Admission may be opened only in the normal state. -/
theorem ensures_mayOpen (hσ : I σ) : Ensures (mayOpen env) σ
    (fun opened σ' => I σ' ∧ (opened = true → σ'.controller.state = .normal)) (fun _ => I) := by
  rw [mayOpen, ensures_bind, ensures_self, ensures_ite, ensures_ite, ensures_pure, ensures_pure]
  refine ⟨fun ⟨hnormal, _⟩ => ⟨fun _ => ?_, fun _ => ⟨hσ, fun _ => hnormal⟩⟩, fun _ => ⟨hσ, by simp⟩⟩
  exact (((hI.stable_state .normal).timed env).preserves_sharedCudaFresh σ ⟨hσ, hnormal⟩).mono
    (fun _ σ' hσ' => ⟨hσ'.1, fun _ => hσ'.2⟩) fun _ _ hσ' => hσ'.1

theorem openAdmissionIfNormal : Preserves I (openAdmissionIfNormal env) := by
  intro σ hσ
  rw [PressureController.openAdmissionIfNormal, ensures_bind, ensures_self, ensures_bind]
  refine (hI.ensures_mayOpen hσ).mono ?_ fun _ _ hσ' => hσ'
  rintro opened σ' ⟨hσ', hnormal⟩
  have hopened := hI.admissionOpen σ' opened hσ' hnormal
  rw [ensures_bind, ensures_update, ensures_bind]
  exact (hI.publishTransitionLocked σ.controller false _ hopened).mono (fun _ _ hσ' => hσ') fun _ _ hσ' => hσ'

theorem markReleased (reason : Option String) : Preserves I (markReleased env reason) := by
  refine preserves_self_bind fun previous => ?_
  refine preserves_bind (hI.markReleasedLocked reason) fun _ => ?_
  exact preserves_bind (hI.publishTransitionLocked previous false) fun _ => preserves_pure _

theorem enterNoSafeModel (requirements : Option (List ModelLoadRequirement)) :
    Preserves I (enterNoSafeModel env requirements) := by
  have hreplace : Preserves I (replaceRequirements (W := W) requirements) := by
    refine preserves_self_bind fun c => ?_
    split
    · exact preserves_pure _
    · refine preserves_ite (fun _ => preserves_throw _) fun _ => ?_
      refine preserves_ite (fun _ => preserves_throw _) fun _ => ?_
      exact fun σ hσ => hI.recoveryRequirements σ _ hσ
  refine preserves_self_bind fun previous => preserves_bind hreplace fun _ => ?_
  refine preserves_bind (hI.markReleasedLocked _) fun _ => ?_
  exact preserves_bind (hI.publishTransitionLocked previous false) fun _ => preserves_pure _

theorem denied (selected : ModelLoadRequirement) : Preserves I (denied (W := W) selected) :=
  preserves_self_bind fun _ => preserves_bind (fun σ hσ => hI.close σ hσ) fun _ => preserves_pure _

theorem decideLoad (selected : ModelLoadRequirement) (sample : PressureSample) :
    Preserves I (decideLoad env selected sample) := by
  refine preserves_bind ((hI.stable.timed env).preserves_evaluate sample selected) fun decision => ?_
  refine preserves_bind (fun σ hσ => hI.admissionOpen σ _ hσ fun ho => ?_) fun _ => ?_
  · simp only [Bool.and_eq_true, decide_eq_true_eq] at ho
    exact ho.1.2
  · refine preserves_ite (fun _ => preserves_pure _) fun _ => ?_
    exact preserves_bind (hI.markReleasedLocked _) fun _ => preserves_pure _

theorem pollForLoad (sample : PressureSample) : Preserves I (pollForLoad env sample) :=
  preserves_self_bind fun _ =>
    preserves_ite (fun _ => hI.pollPriorityLocked _ _ _) fun _ => preserves_pure _

theorem immediateLoadAdmission (requirement : Option ModelLoadRequirement)
    (sampleReader : Option (EStateM Exc W PressureSample)) :
    Preserves I (immediateLoadAdmission env requirement sampleReader) := by
  refine preserves_self_bind fun previous => preserves_bind (preserves_ofExcept _) fun selected => ?_
  refine preserves_bind (preserves_self_bind fun c => preserves_ite (fun _ => ?_) fun _ => ?_)
    fun decision => ?_
  · exact preserves_bind (hI.denied selected) fun _ => preserves_pure _
  · refine preserves_bind (hI.stable.preserves_callback _) fun sample => ?_
    refine preserves_bind (hI.pollForLoad sample) fun snapshot => ?_
    refine preserves_bind (preserves_self_bind fun c => ?_) fun _ => preserves_pure _
    exact preserves_ite (fun _ => hI.denied selected) fun _ => hI.decideLoad selected sample
  · exact preserves_bind (hI.publishTransitionLocked previous decision.2) fun _ => preserves_pure _

theorem explicitCapacityRefusal : Preserves I (explicitCapacityRefusal env) := by
  refine preserves_self_bind fun previous => ?_
  refine preserves_bind (hI.stable.preserves_callback _) fun sample => ?_
  refine preserves_bind (preserves_ofExcept _) fun stale => ?_
  refine preserves_ite (fun _ => preserves_pure _) fun _ => ?_
  refine preserves_bind (hI.observeLocked sample false false) fun _ => ?_
  refine preserves_bind (hI.pollPriorityLocked false _ _) fun snapshot => ?_
  refine preserves_bind (preserves_self_bind fun c => ?_) fun refused => ?_
  · exact preserves_ite (fun _ => (hI.stable.timed env).preserves_capacityRefusal sample) fun _ =>
      preserves_pure _
  · exact preserves_bind (hI.publishTransitionLocked previous _) fun _ => preserves_pure _

theorem perform (operation : Operation W) : Preserves I (perform env operation) := by
  intro σ hσ
  cases operation with
  | sample => exact ensures_map.2 (hI.stable.preserves_sample env σ hσ)
  | observe s resident => exact ensures_map.2 (hI.observe s resident σ hσ)
  | pollPriority resident force => exact ensures_map.2 (hI.pollPriority resident force σ hσ)
  | poll resident force active => exact ensures_map.2 (hI.poll resident force active σ hσ)
  | pollIdleResident =>
    exact ensures_map.2 (preserves_bind (hI.poll true false false) (fun _ => preserves_pure _) σ hσ)
  | checkOrRaise force => exact ensures_map.2 (hI.checkOrRaise force σ hσ)
  | closeAdmission => exact hI.closeAdmission σ hσ
  | openAdmissionIfNormal => exact ensures_map.2 (hI.openAdmissionIfNormal σ hσ)
  | markReleased reason => exact ensures_map.2 (hI.markReleased reason σ hσ)
  | enterNoSafeModel requirements => exact ensures_map.2 (hI.enterNoSafeModel requirements σ hσ)
  | immediateLoadAdmission requirement reader =>
    exact ensures_map.2 (hI.immediateLoadAdmission requirement reader σ hσ)
  | latchReceiptFailureWithoutPublication => exact hI.latchReceiptFailureLocked σ hσ
  | latchReleaseFailureWithoutPublication resident => exact hI.latchReleaseFailureLocked resident σ hσ
  | explicitCapacityRefusal => exact ensures_map.2 (hI.explicitCapacityRefusal σ hσ)

/-- The property holds after any operations, in any order. -/
theorem run (operations : List (Operation W)) (hσ : I σ) : I (PressureSession.run env σ operations) := by
  induction operations generalizing σ with
  | nil => exact hσ
  | cons operation operations ih => exact ih ((hI.perform operation).after hσ)

end Durable

end PressureController

end Subgen

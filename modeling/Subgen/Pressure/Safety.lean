import Subgen.Pressure.Preservation

/-!
# The gate is safe

The gate of the controller is open only in the normal state, and in the normal state the
last observation was clear (`admission_gated`), in every run with a regular history. In a
run that is not, the gate can stay open: an observation is noted before the counter of the
transitions is found exhausted. `signalEnvironment` is a world that gets there
(`normal_under_assertion`): a signal that goes and comes back until the counter is full, is
then clear for long enough, and is asserted in the end.
-/

namespace Subgen

open Procedure Recent PressureController

variable {W : Type} {config : ControllerConfig} {σ : PressureSession W}

/-! ## Loads -/

/-- What holds of a gate that admits a load. -/
def Admits (σ : PressureSession W) : Prop :=
  Regular σ.history → σ.controller.state = .normal ∧ σ.controller.admissionOpen = true

/-- Whether a decision may admit does not depend on the clock or the priority reader. -/
theorem stable_admits : Stable (Admits (W := W)) where
  world _ _ hσ := hσ
  sample _ _ _ _ hσ := hσ
  oomCounts _ _ hσ := hσ
  reasons _ _ _ hσ := hσ
  observedToken _ _ hσ := hσ
  polled _ _ hσ := hσ

/-- A receipt that can be made changes nothing of the gate. -/
theorem ensures_publishTransitionLocked (env : PressureEnvironment W)
    (previous : PressureController) (force : Bool) (hσ : Admits σ) :
    Ensures (publishTransitionLocked env previous force) σ (fun _ => Admits)
      (fun _ _ => True) := by
  rw [publishTransitionLocked, ensures_bind, ensures_self, ensures_ite, ensures_pure]
  refine ⟨fun _ => ?_, fun _ => hσ⟩
  rw [publishReceipt, ensures_tryCatch, ensures_bind]
  refine ((stable_admits.timed env).preserves_gatePrioritySnapshotLocked σ hσ).mono ?_ ?_
  · intro snapshot σ' hσ'
    refine (stable_admits.preserves_callback (env.publish snapshot) σ' hσ').mono
      (fun _ _ hσ'' => hσ'') fun _ _ _ => ?_
    rw [ensures_bind]
    exact ensures_of_forall (fun _ _ => trivial) fun _ _ => trivial
  · intro _ _ _
    rw [ensures_bind]
    exact ensures_of_forall (fun _ _ => trivial) fun _ _ => trivial

/-- A decision taken in the normal state admits only as `Admits` says. -/
theorem ensures_decideLoad (env : PressureEnvironment W) (selected : ModelLoadRequirement)
    (sample : PressureSample) (hσ : Inv config σ) (hnormal : σ.controller.state = .normal) :
    Ensures (decideLoad env selected sample) σ
      (fun decision σ' => decision.admitted = true → Admits σ') (fun _ _ => True) := by
  rw [decideLoad, ensures_bind]
  have hstable : Stable fun σ : PressureSession W => Inv config σ ∧ σ.controller.state = .normal :=
    (durable_inv env).stable_state .normal
  refine ((hstable.timed env).preserves_evaluate sample selected σ ⟨hσ, hnormal⟩).mono ?_
    fun _ _ _ => trivial
  rintro decision σ' ⟨hσ', hnormal'⟩
  rw [ensures_bind, ensures_update, ensures_ite, ensures_pure]
  refine ⟨fun hadmitted _ hr => ⟨hnormal', ?_⟩, fun hdenied => ?_⟩
  · have hready := (hσ' hr).ready_of_normal hnormal'
    simp [PressureSession.update, hadmitted, hnormal', hready]
  · rw [ensures_bind]
    exact ensures_of_forall (fun _ _ hadmitted => absurd hadmitted hdenied) fun _ _ => trivial

/-- A denial admits nothing. -/
theorem ensures_denied (selected : ModelLoadRequirement) :
    Ensures (denied selected) σ (fun decision _ => decision.admitted = false)
      (fun _ _ => True) := by
  rw [denied, ensures_bind, ensures_self, ensures_bind, ensures_update, ensures_pure]

/-- A load that is admitted leaves the gate open, in the normal state. -/
theorem ensures_immediateLoadAdmission (env : PressureEnvironment W)
    (requirement : Option ModelLoadRequirement)
    (sampleReader : Option (EStateM Exc W PressureSample)) (hσ : Inv config σ) :
    Ensures (immediateLoadAdmission env requirement sampleReader) σ
      (fun decision σ' => decision.admitted = true → Admits σ') (fun _ _ => True) := by
  have hdenied : ∀ (selected : ModelLoadRequirement) (σ' : PressureSession W),
      Ensures (denied selected) σ' (fun decision σ'' => decision.admitted = true → Admits σ'')
        (fun _ _ => True) := fun selected σ' =>
    (ensures_denied selected).mono
      (fun _ _ hno hyes => absurd (hno.symm.trans hyes) Bool.false_ne_true) fun _ _ _ => trivial
  have hlocked : ∀ selected, Ensures (immediateLoadAdmissionLocked env selected sampleReader) σ
      (fun decision σ' => decision.1.admitted = true → Admits σ') (fun _ _ => True) := by
    intro selected
    rw [immediateLoadAdmissionLocked, ensures_bind, ensures_self, ensures_ite]
    refine ⟨fun _ => ensures_bind.2 (hdenied selected σ), fun _ => ?_⟩
    rw [ensures_bind]
    refine (stable_inv.preserves_callback (sampleReader.getD env.readSample) σ hσ).mono ?_
      fun _ _ _ => trivial
    rintro sample σ₁ hσ₁
    rw [ensures_bind]
    refine ((durable_inv env).pollForLoad sample σ₁ hσ₁).mono ?_ fun _ _ _ => trivial
    rintro snapshot σ₂ hσ₂
    rw [ensures_bind, decideAfterPoll, ensures_bind, ensures_self, ensures_ite]
    exact ⟨fun _ => hdenied selected σ₂,
      fun hnormal => ensures_decideLoad env selected sample hσ₂ (not_not.1 hnormal)⟩
  rw [immediateLoadAdmission, ensures_bind, ensures_self, ensures_bind, ensures_ofExcept]
  refine ⟨fun selected _ => ?_, fun _ _ => trivial⟩
  rw [ensures_bind]
  refine (hlocked selected).mono ?_ fun _ _ _ => trivial
  rintro ⟨decision, polled⟩ σ' hadmits
  rw [ensures_bind]
  by_cases hadmitted : decision.admitted = true
  · exact (ensures_publishTransitionLocked env σ.controller polled (hadmits hadmitted)).mono
      (fun _ _ hσ'' _ => hσ'') fun _ _ _ => trivial
  · exact ensures_of_forall (fun _ _ hyes => absurd hyes hadmitted) fun _ _ => trivial

/-- In every run with a regular history the gate is open only in the normal state, the signal
    is clear there, with three distinct clear generations counted, and a load is admitted
    only with the gate open in the normal state. -/
theorem admission_gated (env : PressureEnvironment W) (config : ControllerConfig)
    (requirements : List ModelLoadRequirement) (world : W) (operations : List (Operation W)) :
    let σ := PressureSession.run env (.start config requirements world) operations
    Regular σ.history →
      (σ.controller.admissionOpen = true → σ.controller.state = .normal) ∧
      (config.priorityConfigured = true → σ.controller.state = .normal →
        σ.controller.priorityObservation.state = .clear ∧
          σ.controller.priorityDistinctClearCount = priorityRecoveryClearCount) ∧
      ∀ requirement sampleReader decision σ',
        immediateLoadAdmission env requirement sampleReader σ = .ok decision σ' →
        Regular σ'.history → decision.admitted = true →
        σ'.controller.state = .normal ∧ σ'.controller.admissionOpen = true := by
  intro σ hr
  have hσ : Inv config σ := inv_run env operations (inv_start requirements world)
  have hk := hσ hr
  refine ⟨hk.gate.normal_of_open, fun hconfigured hnormal => ?_, ?_⟩
  · exact hk.gate.clear_of_normal (by rw [hk.config_eq, hconfigured]) hnormal
  · intro requirement sampleReader decision σ' hcall hr' hadmitted
    have hload := ensures_immediateLoadAdmission env requirement sampleReader hσ
    rw [ensures_of_ok hcall] at hload
    exact hload hadmitted hr'

/-! ## A counter that is exhausted -/

/-- A publication of a signal that needs the machine from time to time. -/
def publication (n : ℕ) (state : PriorityState)
    (hpublished : state = .clear ∨ state = .neutral ∨ state = .asserted) : Publication where
  state := state
  epoch := "host"
  sequence := n + 2
  observedNs := n
  sourceGeneration := n + 2
  sourceObservedNs := n
  heartbeatAgeMs := 0
  sourceAgeMs := 0
  policySha256 := "policy"
  observationDigest := "digest"
  reasonCodes := []
  payloadSha256 := "payload"
  published := hpublished
  generation_pos := by omega

/-- A publication that follows the one before it. -/
def published (n : ℕ) (state : PriorityState)
    (hpublished : state = .clear ∨ state = .neutral ∨ state = .asserted) : PriorityObservation :=
  PriorityPressureReader.observe (publication n state hpublished) false

/-- The priority reader can emit every published observation. -/
theorem canEmit_published (n : ℕ) (state : PriorityState)
    (hpublished : state = .clear ∨ state = .neutral ∨ state = .asserted) :
    PriorityPressureReader.CanEmit (published (n + 1) state hpublished) := by
  -- The reader starts behind a gap, at the publication before.
  refine ⟨[⟨some 0, none, some (publication n state hpublished)⟩,
    ⟨some 0, none, some (publication (n + 1) state hpublished)⟩], ?_⟩
  refine List.mem_cons_of_mem _ (List.mem_cons.2 (.inl ?_))
  have hgap : (n : ℤ) + 2 ≠ 1 := by omega
  have hnew : (n : ℤ) + 1 + 2 ≠ n + 2 := by omega
  have hbehind : ¬ (n : ℤ) + 1 + 2 < n + 2 := by omega
  have hnext : (n : ℤ) + 1 + 2 = n + 2 + 1 := by omega
  simp [PriorityPressureReader.read, PriorityPressureReader.new,
    PriorityPressureReader.readNewEpoch, PriorityPressureReader.readSameEpoch,
    PriorityPressureReader.accept, PriorityPressureReader.seen,
    PriorityPressureReader.unavailable, PriorityPressureReader.sourceRegressed, publication,
    published, maxTrackedProducerEpochs, hgap, hnew, hbehind, ← hnext]

theorem tiny_ne_empty : "tiny" ≠ "" := by decide

/-- A requirement that fits on any host. -/
def small : ModelLoadRequirement where
  model := "tiny"
  hostIncrementalBytes := 0
  cgroupIncrementalBytes := 0
  deviceIncrementalBytes := 0
  hostMarginBytes := 1
  deviceMarginBytes := 1
  provenance := .envelope
  evidence := "catalog"
  model_ne := tiny_ne_empty
  bytes_nonneg := by decide
  margins_pos := by decide
  derived_le := by decide

/-- A controller of a host without a GPU, with a priority signal. -/
def hostConfig : ControllerConfig where
  reserveBytes := some 0
  gpuReserveBytes := none
  expectedGpuDevice := none
  canonicalSharedCuda := false
  requireGpuTelemetry := false
  explicitModelAuthority := false
  selectedRequirement := none
  requireCgroup := false
  sampleIntervalSeconds := 5
  priorityIntervalSeconds := 1
  recoverySampleCount := 1
  maximumSampleAgeSeconds := 10
  priorityConfigured := true
  hasObserver := false
  recoverySampleCount_pos := by decide
  telemetry_reserve := by decide

/-- A sample of the host taken now. -/
def healthySample : PressureSample :=
  ⟨some 1, some (4 * gib), some (8 * gib), none, none, none, none, none, none, none, none, none,
    none, none, none, none, none, none⟩

theorem clear_usable : PriorityState.clear = .clear ∨ PriorityState.clear = .neutral ∨
    PriorityState.clear = .asserted := .inl rfl

theorem asserted_usable : PriorityState.asserted = .clear ∨ PriorityState.asserted = .neutral ∨
    PriorityState.asserted = .asserted := .inr (.inr rfl)

/-- A signal that is unavailable every other time, until it is clear three times in a row and
    then asserted. -/
def intermittent (pairs n : ℕ) : PriorityObservation :=
  if n < 2 * pairs ∧ n % 2 = 1 then .bare .unavailable true
  else if n < 2 * pairs + 3 then published (n + 1) .clear clear_usable
  else published (n + 1) .asserted asserted_usable

/-- The intermittent signal is one that the priority reader can emit. -/
theorem canEmit_intermittent (pairs n : ℕ) : PriorityPressureReader.CanEmit (intermittent pairs n) := by
  rw [intermittent]
  split_ifs
  · exact ⟨[⟨none, none, none⟩], List.mem_cons_self⟩
  · exact canEmit_published n _ _
  · exact canEmit_published n _ _

/-- A world in which time stands still, and the signal is read `n` times. -/
def signalEnvironment (pairs : ℕ) : PressureEnvironment ℕ where
  clock n := (1, n)
  readSample := pure healthySample
  readPriority := modifyGet fun n => (intermittent pairs n, n + 1)
  publish _ := pure ()

/-- A controller that recovers, after `n` readings of the signal. -/
structure Counting (last : Option ℚ) (n count sequence : ℕ) (state : PriorityState)
    (σ : PressureSession ℕ) : Prop where
  world : σ.world = n
  config : σ.controller.config = hostConfig
  recovering : σ.controller.state = .recovering
  requirements : σ.controller.recoveryRequirements = [small]
  signal : σ.controller.priorityObservation.state = state
  sequence : σ.controller.priorityTransitionSequence = sequence
  count : σ.controller.priorityDistinctClearCount = count
  below : ∀ w ∈ σ.controller.priorityRecoveryGenerationHighWater, w < n + 3
  healthy : σ.controller.consecutiveHealthy = 0
  generation : σ.controller.externalPressureRecoveryGeneration = 0
  polled : 0 < n → σ.controller.lastPriorityPollAt = some 1
  observed : σ.controller.lastObservedAt = last
  canEmit : ∀ o ∈ History.observations σ.history, PriorityPressureReader.CanEmit o

/-- The recovery starts with no clear counted. -/
theorem counting_start :
    Counting none 0 0 0 .unavailable (.start hostConfig [small] 0) := by
  refine ⟨rfl, rfl, rfl, rfl, rfl, rfl, rfl, ?_, rfl, rfl, by simp, rfl, ?_⟩
  · exact fun w hw => absurd hw (by simp [PressureSession.start, PressureController.new])
  · exact fun o ho => absurd ho List.not_mem_nil

section Signal

variable {last : Option ℚ} {pairs n count sequence : ℕ} {state : PriorityState} {σ : PressureSession ℕ}

/-- The intermittent signal passes the validation of observations. -/
theorem validate_intermittent (pairs n : ℕ) :
    validatePriorityObservation (intermittent pairs n) = .ok () ∧ (intermittent pairs n).configured = true ∧
      (intermittent pairs n).state ≠ .disabled := by
  rw [intermittent]
  split_ifs
  · exact ⟨rfl, rfl, by decide⟩
  · exact ⟨rfl, rfl, by simp [published, PriorityPressureReader.observe, publication]⟩
  · exact ⟨rfl, rfl, by simp [published, PriorityPressureReader.observe, publication]⟩

/-- A snapshot changes nothing, as time stands still. -/
theorem ensures_gatePrioritySnapshot_signal :
    Ensures (gatePrioritySnapshotLocked (signalEnvironment pairs)) σ (fun _ σ' => σ' = σ)
      (fun _ σ' => σ' = σ) := by
  rw [gatePrioritySnapshotLocked, ensures_bind, ensures_self, ensures_bind, ensures_now,
    ensures_bind, ensures_ofExcept]
  refine ⟨fun _ _ => ?_, fun _ _ => rfl⟩
  rw [ensures_bind, ensures_ofExcept]
  exact ⟨fun _ _ => rfl, fun _ _ => rfl⟩

/-- Without an observer nothing is published. -/
theorem ensures_publish_hostConfig {P : PressureSession ℕ → Prop} (previous : PressureController)
    (force : Bool) (hσ : σ.controller.config = hostConfig) (hP : P σ) :
    Ensures (publishTransitionLocked (signalEnvironment pairs) previous force) σ (fun _ => P)
      (fun _ => P) := by
  rw [publishTransitionLocked, ensures_bind, ensures_self, hσ]
  exact ensures_ite.2 ⟨fun h => absurd h.1 (by decide), fun _ => hP⟩

/-- A forced poll takes the next observation of the signal. -/
theorem poll_signal {P : PressureSession ℕ → Prop} (hσ : σ.controller.config = hostConfig)
    (htake : Ensures (takePriority (signalEnvironment pairs) (intermittent pairs σ.world) false)
      ⟨{ σ.controller with lastPriorityPollAt := some 1 }, σ.world + 1, σ.history⟩
      (fun _ σ' => σ'.controller.config = hostConfig ∧ P σ') (fun _ => P)) :
    P (after (perform (signalEnvironment pairs) (.pollPriority false true)) σ) := by
  obtain ⟨hvalid, hsignal, hdisabled⟩ := validate_intermittent pairs σ.world
  have hconfigured : σ.controller.config.priorityConfigured = true := by rw [hσ]; rfl
  refine ensures_iff_after.1 ?_
  rw [perform, ensures_map, pollPriority, ensures_bind, ensures_self, ensures_bind,
    pollPriorityLocked, ensures_bind, ensures_self, ensures_ite]
  refine ⟨fun _ => ?_, fun h => absurd hconfigured h⟩
  rw [pollConfigured, ensures_bind, ensures_self, ensures_bind, ensures_now, ensures_ite]
  refine ⟨fun h => absurd h.1 (by decide), fun _ => ?_⟩
  rw [ensures_bind, callback, ensures_zoom]
  change Ensures (takePolled (signalEnvironment pairs) 1 (intermittent pairs σ.world) false) _ _ _
  rw [takePolled, ensures_bind, ensures_update, ensures_bind, observePriorityLocked, ensures_bind,
    ensures_ofExcept]
  refine ⟨fun _ _ => ?_, fun e he => absurd (hvalid.symm.trans he) (by simp)⟩
  rw [ensures_bind, ensures_self, ensures_ite]
  refine ⟨fun h => absurd (hconfigured.symm.trans h) (by decide), fun _ => ensures_ite.2 ⟨?_, ?_⟩⟩
  · exact fun h => absurd h (by simp [hsignal, hdisabled])
  · intro _
    refine htake.mono ?_ fun _ _ hP => hP
    rintro _ σ' ⟨hconfig, hP⟩
    rw [ensures_map]
    refine ensures_gatePrioritySnapshot_signal.mono ?_ fun _ _ heq => heq ▸ hP
    rintro snapshot _ rfl
    rw [ensures_bind]
    exact (ensures_publish_hostConfig _ _ hconfig hP).mono
      (fun _ _ hP => ensures_map.2 (ensures_self.2 hP)) fun _ _ hP => hP

/-- What a poll does to a recovery without healthy samples is what it does to the counts. -/
theorem ensures_maybeFinish_of_unhealthy {Q : Unit → PressureSession ℕ → Prop}
    {E : Exc → PressureSession ℕ → Prop} (hσ : σ.controller.config = hostConfig)
    (hhealthy : σ.controller.consecutiveHealthy = 0) (hQ : Q () σ) :
    Ensures maybeFinishRecoveryLocked σ Q E := by
  rw [maybeFinishRecoveryLocked, ensures_bind, ensures_self, ensures_ite, hσ, hhealthy]
  exact ⟨fun h => absurd h.2.1 (by decide), fun _ => hQ⟩

/-- A published clear resets nothing and is not critical. -/
theorem published_clear (n : ℕ) : (published n .clear (by decide)).resets = false ∧
    (published n .clear (by decide)).critical = false ∧
    (published n .clear (by decide)).counts = true := ⟨rfl, rfl, rfl⟩

/-- A generation above the high water is counted. -/
theorem counted_of_below {c : PressureController} {g : ℤ}
    (hbelow : ∀ w ∈ c.priorityRecoveryGenerationHighWater, w < g) :
    c.counted g = { c with
      priorityRecoveryGenerationHighWater := some g
      priorityDistinctClearCount :=
        min priorityRecoveryClearCount (c.priorityDistinctClearCount + 1) } :=
  if_pos ((Option.all_eq_true _ _).2 fun w hw => decide_eq_true (hbelow w hw))

/-- A clear reading adds one to the count. -/
theorem Counting.clear (hσ : Counting last n count sequence state σ)
    (hsignal : intermittent pairs n = published (n + 1) .clear (by decide))
    (hsequence : state = .clear ∨ sequence ≠ maxGeneration) :
    Counting last (n + 1) (min 3 (count + 1)) (sequence + if state = .clear then 0 else 1) .clear
      (after (perform (signalEnvironment pairs) (.pollPriority false true)) σ) := by
  -- The reader may emit again at each of the readings.
  have hcan := canEmit_intermittent pairs n
  rw [hsignal] at hcan
  obtain ⟨hresets, hcritical, hcounts⟩ := published_clear (n + 1)
  refine poll_signal hσ.config ?_
  rw [hσ.world, hsignal]
  refine ensures_takePriority_of _ false ?_ ?_ ?_
  · rintro ⟨_, w, h⟩ time digest hcontroller rfl rfl
    rw [hresets, if_neg Bool.false_ne_true] at hcontroller
    obtain rfl := hcontroller
    rw [applyPriority, hcritical]
    refine ensures_ite.2 ⟨fun h => absurd h (by decide), fun _ => ?_⟩
    refine ensures_ite.2 ⟨fun h => absurd h (by simp [published, PriorityPressureReader.observe,
      publication]), fun _ => ?_⟩
    rw [ensures_bind]
    refine (ensures_countClear _).mono ?_ ?_
    · rintro _ _ (⟨hno, _⟩ | ⟨g, _, hg, rfl⟩)
      · exact absurd (hcounts.symm.trans hno) (by decide)
      · -- The generation of the reading is the one behind the last that was counted.
        obtain rfl : (n : ℤ) + 3 = g := by
          have hg' : ((n + 1 : ℕ) : ℤ) + 2 = g := Option.some.inj hg
          omega
        rw [PressureSession.update, counted_of_below]
        swap
        · exact hσ.below
        refine ensures_maybeFinish_of_unhealthy hσ.config hσ.healthy ⟨hσ.config, ?_⟩
        refine ⟨rfl, hσ.config, hσ.recovering, hσ.requirements, rfl, ?_, ?_, ?_, hσ.healthy,
          hσ.generation, fun _ => rfl, hσ.observed, ?_⟩
        · rw [← hσ.sequence, ← hσ.signal]
          simp [took, published, PriorityPressureReader.observe, publication, eq_comm]
        · rw [← hσ.count]
          rfl
        · rintro w ⟨⟩
          omega
        · exact List.forall_mem_cons.2 ⟨hcan, hσ.canEmit⟩
    · rintro _ _ ⟨_, hle⟩
      have hle' := hle (((n + 1 : ℕ) : ℤ) + 2) rfl
      omega
  · -- The sequence is not exhausted where the state changes.
    intro hchange hmax
    rcases hsequence with hclear | hne
    · exact absurd ⟨hclear ▸ hσ.signal.symm, rfl⟩ hchange
    · exact absurd (hσ.sequence.symm.trans hmax) hne
  · rintro g ⟨⟩ hle
    exact absurd hle (not_le.2 (publication (n + 1) .clear (by decide)).generation_pos)

/-- An unavailable reading starts the count afresh. -/
theorem Counting.unavailable (hσ : Counting last n count sequence .clear σ)
    (hsignal : intermittent pairs n = .bare .unavailable true) (hsequence : sequence ≠ maxGeneration) :
    Counting last (n + 1) 0 (sequence + 1) .unavailable
      (after (perform (signalEnvironment pairs) (.pollPriority false true)) σ) := by
  have hcan := canEmit_intermittent pairs n
  rw [hsignal] at hcan
  refine poll_signal hσ.config ?_
  rw [hσ.world, hsignal]
  refine ensures_takePriority_of _ false ?_ ?_ ?_
  · rintro ⟨_, w, h⟩ time digest hcontroller rfl rfl
    obtain rfl := hcontroller
    rw [applyPriority]
    refine ensures_ite.2 ⟨fun _ => ?_, fun h => absurd (by decide) h⟩
    rw [ensures_bind, ensures_update, ensures_enter]
    refine ⟨hσ.config, rfl, hσ.config, rfl, hσ.requirements, rfl, ?_, rfl, ?_, rfl, hσ.generation,
      fun _ => rfl, hσ.observed, List.forall_mem_cons.2 ⟨hcan, hσ.canEmit⟩⟩
    · rw [← hσ.sequence]
      refine congrArg (σ.controller.priorityTransitionSequence + ·) (if_neg ?_)
      rintro ⟨h, _⟩
      exact absurd (hσ.signal.symm.trans h.symm) (by decide)
    · intro w hw
      have hlt := hσ.below w hw
      omega
  · intro _ hmax
    exact absurd (hσ.sequence.symm.trans hmax) hsequence
  · rintro g ⟨⟩

/-- Some operations of the world of the signal lead here. -/
def Reached (pairs : ℕ) (P : PressureSession ℕ → Prop) : Prop :=
  ∃ operations, P (PressureSession.run (signalEnvironment pairs) (.start hostConfig [small] 0)
    operations)

/-- One more operation. -/
theorem Reached.perform {P R : PressureSession ℕ → Prop} (h : Reached pairs P)
    (operation : Operation ℕ)
    (hP : ∀ σ, P σ → R (after (PressureController.perform (signalEnvironment pairs) operation) σ)) :
    Reached pairs R := by
  obtain ⟨operations, hσ⟩ := h
  refine ⟨operations ++ [operation], ?_⟩
  rw [PressureSession.run, List.foldl_append]
  exact hP _ hσ

/-- A signal that goes and comes back makes two transitions. -/
theorem reached_pairs (hmax : 2 * pairs < maxGeneration) {k : ℕ} (hk : k ≤ pairs) :
    Reached pairs fun σ => ∃ count, 1 ≤ count ∧
      Counting none (2 * k + 1) count (2 * k + 1) .clear σ := by
  induction k with
  | zero =>
    refine ⟨[.pollPriority false true], 1, le_rfl, counting_start.clear ?_ (.inr ?_)⟩
    · rw [intermittent, if_neg (by simp), if_pos (by omega)]
    · omega
  | succ k ih =>
    refine ((ih (by omega)).perform (.pollPriority false true) ?_).perform
      (P := fun σ => Counting none (2 * k + 2) 0 (2 * k + 2) .unavailable σ)
      (.pollPriority false true) ?_
    · rintro σ ⟨count, _, hσ⟩
      exact hσ.unavailable (by rw [intermittent, if_pos (by omega)]) (by omega)
    · intro σ hσ
      refine ⟨_, le_rfl, hσ.clear ?_ (.inr (by omega))⟩
      rw [intermittent, if_neg (by omega), if_pos (by omega)]

/-- Two more clear publications after that, and the signal has recovered. -/
theorem reached_recovered (hmax : 2 * pairs < maxGeneration) :
    Reached pairs (Counting none (2 * pairs + 3) 3 (2 * pairs + 1) .clear) := by
  refine ((reached_pairs hmax le_rfl).perform (.pollPriority false true) ?_).perform
    (P := fun σ => ∃ count, 2 ≤ count ∧
      Counting none (2 * pairs + 2) count (2 * pairs + 1) .clear σ)
    (.pollPriority false true) ?_
  · rintro σ ⟨count, hcount, hσ⟩
    refine ⟨_, ?_, hσ.clear ?_ (.inl rfl)⟩
    · omega
    · rw [intermittent, if_neg (by omega), if_pos (by omega)]
  · rintro σ ⟨count, hcount, hσ⟩
    have hclear : Counting none _ (min 3 (count + 1)) _ _ (after (PressureController.perform
        (signalEnvironment pairs) (.pollPriority false true)) σ) :=
      hσ.clear (by rw [intermittent, if_neg (by omega), if_pos (by omega)]) (.inl rfl)
    rwa [show min 3 (count + 1) = 3 by omega] at hclear

/-- What is left of the counts when the controller is normal. -/
structure Recovered (n sequence : ℕ) (σ : PressureSession ℕ) : Prop where
  world : σ.world = n
  config : σ.controller.config = hostConfig
  normal : σ.controller.state = .normal
  signal : σ.controller.priorityObservation.state = .clear
  sequence : σ.controller.priorityTransitionSequence = sequence
  canEmit : ∀ o ∈ History.observations σ.history, PriorityPressureReader.CanEmit o

/-- The small model fits the healthy sample. -/
theorem small_admitted : ∃ decision, evaluateAdmission small healthySample 0 none false false none
    (some 1) 10 = .ok decision ∧ decision.admitted = true :=
  ⟨_, rfl, by decide +kernel⟩

section Sample

variable {Q : Bool → PressureSession ℕ → Prop} {E : Exc → PressureSession ℕ → Prop}

/-- The healthy sample shows no pressure. -/
theorem ensures_classify_healthy {Q : List String × List String → PressureSession ℕ → Prop}
    (hσ : σ.controller.config = hostConfig)
    (hQ : Q ([], []) (σ.update ({ · with lastOomCounts := σ.controller.lastOomCounts }))) :
    Ensures (classify (signalEnvironment pairs) healthySample) σ Q E := by
  have hhost : σ.controller.classifyHost healthySample = .ok [] := by
    rw [classifyHost, reserveFor, hσ]
    rfl
  have hpsi : classifyPsi healthySample = [] := by decide +kernel
  rw [classify, ensures_bind, ensures_self, hhost, ensures_bind, ensures_ofExcept]
  refine ⟨?_, by simp⟩
  rintro _ ⟨⟩
  rw [ensures_bind, ensures_ofExcept]
  refine ⟨?_, fun e he => by cases he⟩
  rintro _ ⟨⟩
  rw [ensures_bind, classifyDevice, ensures_bind, ensures_self, hσ, ensures_ite]
  refine ⟨fun h => absurd h (by decide), fun _ => ?_⟩
  rw [ensures_pure, ensures_bind, ensures_ofExcept]
  refine ⟨?_, fun e he => by cases he⟩
  rintro _ ⟨⟩
  rw [ensures_bind, ensures_update, ensures_pure, hpsi]
  exact hQ

/-- Without a device there is no telemetry that could be stale. -/
theorem ensures_gpuFresh_host (hσ : σ.controller.config = hostConfig) (hQ : Q true σ) :
    Ensures (gpuFresh (signalEnvironment pairs) healthySample) σ Q E := by
  have hfloor : σ.controller.gpuReserveFloorSatisfied healthySample = true := by
    rw [gpuReserveFloorSatisfied, hσ]
    rfl
  rw [gpuFresh, ensures_bind, gpuTelemetryFresh, ensures_bind, ensures_self, hσ, ensures_ite]
  refine ⟨fun _ => ?_, fun h => absurd rfl h⟩
  rw [ensures_pure, ensures_bind, ensures_self, ensures_pure, hfloor]
  exact hQ

/-- The healthy sample qualifies for recovery. -/
theorem ensures_recoveryQualified_host (hσ : σ.controller.config = hostConfig)
    (hrequirements : σ.controller.recoveryRequirements = [small]) (hQ : Q true σ) :
    Ensures (recoveryQualified (signalEnvironment pairs) healthySample) σ Q E := by
  obtain ⟨decision, hevaluate, hadmitted⟩ := small_admitted
  have hreserve : σ.controller.reserveFor healthySample = .ok 0 := by
    rw [reserveFor, hσ]
    rfl
  rw [recoveryQualified, ensures_bind, ensures_self, hrequirements, ensures_ite]
  refine ⟨fun h => absurd h (by decide), fun _ => ?_⟩
  rw [ensures_bind, reserveKnown, ensures_bind, ensures_self, hσ, ensures_ite]
  refine ⟨fun h => absurd h (by decide), fun _ => ?_⟩
  rw [ensures_pure, ensures_ite]
  refine ⟨fun _ => ?_, fun h => absurd rfl h⟩
  rw [anyAdmitted, ensures_bind, ensures_self, hσ, ensures_ite]
  refine ⟨fun _ => ?_, fun h => absurd rfl h⟩
  rw [ensures_bind, evaluate, ensures_bind, ensures_self, ensures_bind, hreserve, ensures_ofExcept]
  refine ⟨?_, by simp⟩
  rintro _ ⟨⟩
  rw [ensures_bind, ensures_now, hσ]
  refine ensures_ofExcept.2 ⟨?_, fun e he => absurd (hevaluate.symm.trans he) (by simp)⟩
  intro decision' hdecision
  obtain rfl := Except.ok.inj (hevaluate.symm.trans hdecision)
  exact ensures_ite.2 ⟨fun _ => hQ, fun h => absurd hadmitted h⟩

end Sample

/-- With three clears counted the sample starts the hold of the recovery. -/
theorem Counting.ensures_processSample {E : Exc → PressureSession ℕ → Prop}
    (hσ : Counting last n 3 sequence .clear σ) :
    Ensures (processSample (signalEnvironment pairs) healthySample 1 [] [] true false false) σ
      (fun _ σ' => Recovered n sequence σ' ∧
        σ'.controller.lastPriorityPollAt = σ.controller.lastPriorityPollAt) E := by
  have hready : σ.controller.priorityRecoveryReady = true := by
    rw [priorityRecoveryReady, hσ.signal, hσ.count, hσ.config]
    rfl
  have hhealthy : σ.controller.config.recoverySampleCount ≤
      min σ.controller.config.recoverySampleCount (σ.controller.consecutiveHealthy + 1) := by
    rw [hσ.healthy, show σ.controller.config.recoverySampleCount = 1 by rw [hσ.config]; rfl]
    decide
  rw [processSample, ensures_bind, ensures_self]
  refine ensures_ite.2 ⟨fun h => absurd (hσ.recovering.symm.trans h) (by decide), fun _ => ?_⟩
  refine ensures_ite.2 ⟨fun _ => ?_, fun h => absurd hσ.recovering h⟩
  rw [recoveringSample, ensures_bind, ensures_update, ensures_bind]
  refine ensures_recoveryQualified_host (by exact hσ.config) (by exact hσ.requirements) ?_
  refine ensures_ite.2 ⟨fun _ => ?_, fun h => absurd rfl h⟩
  rw [qualifiedSample, ensures_bind, ensures_modify, maybeFinishRecoveryLocked, ensures_bind,
    ensures_self]
  refine ensures_ite.2 ⟨fun _ => ?_, fun h => absurd ⟨hσ.recovering, hhealthy, hready⟩ h⟩
  refine ensures_ite.2 ⟨fun h => absurd (hσ.generation.symm.trans h.2) (by decide), fun _ => ?_⟩
  rw [ensures_modify]
  exact ⟨⟨hσ.world, hσ.config, rfl, hσ.signal, hσ.sequence, hσ.canEmit⟩, rfl⟩

/-- A healthy sample completes the recovery. -/
theorem Counting.ensures_observeLocked {E : Exc → PressureSession ℕ → Prop}
    (hσ : Counting none n 3 sequence .clear σ) (hn : 0 < n) :
    Ensures (observeLocked (signalEnvironment pairs) healthySample false false) σ
      (fun _ σ' => Recovered n sequence σ' ∧ σ'.controller.lastPriorityPollAt = some 1) E := by
  have htime : requireTime healthySample.observedAt "Sample observation time" = .ok 1 := by
    change requireTime (some 1) _ = _
    rw [requireTime, if_neg (by norm_num)]
  have htelemetry : σ.controller.config.requireGpuTelemetry = false := by rw [hσ.config]; rfl
  rw [observeLocked, ensures_bind, htime, ensures_ofExcept]
  refine ⟨?_, fun e he => by cases he⟩
  rintro _ ⟨⟩
  rw [ensures_bind, ensures_self, hσ.observed]
  refine ensures_ite.2 ⟨fun h => absurd h (by simp), fun _ => ?_⟩
  rw [processNewSample, ensures_bind, ensures_update, ensures_bind]
  refine ensures_classify_healthy (by exact hσ.config) ?_
  rw [ensures_bind, ensures_update, ensures_bind]
  refine ensures_gpuFresh_host (by exact hσ.config) ?_
  rw [ensures_bind, checkTelemetry, ensures_bind, ensures_self]
  refine ensures_ite.2 ⟨fun h => absurd (htelemetry.symm.trans h) (by decide), fun _ => ?_⟩
  rw [ensures_pure, ensures_bind]
  have hnoted : Counting (some 1) n 3 sequence .clear
      (((σ.update ({ · with lastObservedAt := some 1, lastObservedSample := some healthySample })).update
        ({ · with lastOomCounts := σ.controller.lastOomCounts })).update
          ({ · with lastPressureReasons := [], lastCriticalReasons := [] })) :=
    { hσ with observed := rfl }
  refine hnoted.ensures_processSample.mono ?_ fun _ _ hE => hE
  rintro _ σ' ⟨hσ', hpolled⟩
  exact ⟨{ hσ' with }, hpolled.trans (hσ.polled hn)⟩

/-- A poll within the poll interval reads no signal. -/
theorem Recovered.ensures_poll (hσ : Recovered n sequence σ)
    (hpolled : σ.controller.lastPriorityPollAt = some 1) :
    Ensures (pollPriorityLocked (signalEnvironment pairs) false none false) σ
      (fun _ => Recovered n sequence) (fun _ => Recovered n sequence) := by
  have hconfigured : σ.controller.config.priorityConfigured = true := by rw [hσ.config]; rfl
  rw [pollPriorityLocked, ensures_bind, ensures_self]
  refine ensures_ite.2 ⟨fun _ => ?_, fun h => absurd hconfigured h⟩
  rw [pollConfigured, ensures_bind, ensures_self, ensures_bind, ensures_now, hpolled, hσ.config]
  -- The signal was polled at this very time.
  refine ensures_ite.2 ⟨fun _ => hσ, fun h => absurd ⟨rfl, ?_⟩ h⟩
  change decide ((1 : ℚ) - 1 < 1) = true
  norm_num

/-- An observation after the hold ends the recovery. -/
theorem Counting.observe (hσ : Counting none n 3 sequence .clear σ) (hn : 0 < n) :
    Recovered n sequence
      (after (perform (signalEnvironment pairs) (.observe healthySample false)) σ) := by
  refine ensures_iff_after.1 ?_
  rw [perform, ensures_map, PressureController.observe, ensures_bind, ensures_self, ensures_bind]
  refine (hσ.ensures_observeLocked hn).mono ?_ fun _ _ hσ' => hσ'
  rintro _ σ₁ ⟨hσ₁, hpolled⟩
  rw [ensures_bind]
  refine (hσ₁.ensures_poll hpolled).mono ?_ fun _ _ hσ' => hσ'
  intro snapshot σ₂ hσ₂
  rw [ensures_bind]
  exact (ensures_publish_hostConfig _ _ hσ₂.config hσ₂).mono
    (fun _ _ hσ' => ensures_map.2 (ensures_self.2 hσ')) fun _ _ hσ' => hσ'

/-- The signal is asserted with the counter exhausted: the controller stays normal. -/
theorem Recovered.asserted (hσ : Recovered n maxGeneration σ)
    (hsignal : intermittent pairs n = published (n + 1) .asserted (by decide)) :
    (after (perform (signalEnvironment pairs) (.pollPriority false true)) σ |>.controller.state)
        = .normal ∧
      (after (perform (signalEnvironment pairs) (.pollPriority false true)) σ
        |>.controller.priorityObservation.state) = .asserted ∧
      ∀ o ∈ History.observations (after (perform (signalEnvironment pairs)
        (.pollPriority false true)) σ).history, PriorityPressureReader.CanEmit o := by
  have hcan := canEmit_intermittent pairs n
  rw [hsignal] at hcan
  refine poll_signal (P := fun σ' => σ'.controller.state = .normal ∧
    σ'.controller.priorityObservation.state = .asserted ∧
    ∀ o ∈ History.observations σ'.history, PriorityPressureReader.CanEmit o) hσ.config ?_
  rw [hσ.world, hsignal, takePriority, ensures_bind, ensures_self, ensures_bind, take,
    ensures_modify, ensures_bind, ensures_now, ensures_bind, ensures_update, ensures_bind,
    priorityTransitionLocked]
  refine ensures_ite.2 ⟨fun h => ?_, fun _ => ?_⟩
  · have hsame : PriorityState.asserted = .clear := h.1.trans hσ.signal
    cases hsame
  · rw [ensures_bind, ensures_self]
    refine ensures_ite.2 ⟨fun _ => ?_, fun h => absurd hσ.sequence h⟩
    rw [ensures_throw]
    exact ⟨hσ.normal, rfl, List.forall_mem_cons.2 ⟨hcan, hσ.canEmit⟩⟩

end Signal

/-- After the counter of the transitions is exhausted, the controller stays in the normal state
    under a signal that is asserted. -/
theorem normal_under_assertion : ¬ ∀ (W : Type) (env : PressureEnvironment W)
    (config : ControllerConfig) (requirements : List ModelLoadRequirement) (world : W)
    (operations : List (Operation W)),
    let σ := PressureSession.run env (.start config requirements world) operations
    (∀ o ∈ History.observations σ.history, PriorityPressureReader.CanEmit o) →
      config.priorityConfigured = true → σ.controller.state = .normal →
        σ.controller.priorityObservation.state = .clear := by
  intro h
  have hpairs : 2 * (2 ^ 62 - 1) + 1 = maxGeneration := by decide
  have hreached : Reached (2 ^ 62 - 1) fun σ => σ.controller.state = .normal ∧
      σ.controller.priorityObservation.state = .asserted ∧
      ∀ o ∈ History.observations σ.history, PriorityPressureReader.CanEmit o := by
    generalize 2 ^ 62 - 1 = pairs at hpairs
    refine ((reached_recovered (by omega)).perform (R := Recovered (2 * pairs + 3) maxGeneration)
      (.observe healthySample false) fun σ hσ => ?_).perform (.pollPriority false true)
      fun σ hσ => hσ.asserted ?_
    · rw [hpairs] at hσ
      exact hσ.observe (by omega)
    · rw [intermittent, if_neg (by omega), if_neg (by omega)]
  obtain ⟨operations, hnormal, hasserted, hcan⟩ := hreached
  have hclear := h ℕ (signalEnvironment (2 ^ 62 - 1)) hostConfig [small] 0 operations hcan rfl hnormal
  rw [hasserted] at hclear
  cases hclear

/-- Three clear publications and a healthy sample. -/
def recovery : List (Operation ℕ) :=
  [.pollPriority false true, .pollPriority false true, .pollPriority false true,
    .observe healthySample false]

/-- The recovery reaches the normal state. -/
theorem recovery_normal : (PressureSession.run (signalEnvironment 0)
    (.start hostConfig [small] 0) recovery).controller.state = .normal := by decide +kernel

/-- Every event of the recovery is one that a caller can cause. -/
theorem regular_recovery : Regular (PressureSession.run (signalEnvironment 0)
    (.start hostConfig [small] 0) recovery).history where
  canEmit := by
    refine Recovered.canEmit (Counting.observe (Counting.clear (Counting.clear (Counting.clear
      counting_start ?_ ?_) ?_ ?_) ?_ ?_) (by decide))
    · rfl
    · exact .inr (by decide)
    · rfl
    · exact .inl rfl
    · rfl
    · exact .inl rfl
  transitions_le := by decide +kernel

theorem admission_gated_recovered : (PressureSession.run (signalEnvironment 0)
    (.start hostConfig [small] 0) recovery).controller.priorityObservation.state = .clear :=
  ((admission_gated (signalEnvironment 0) hostConfig [small] 0 recovery regular_recovery).2.1 rfl
    recovery_normal).1
end Subgen

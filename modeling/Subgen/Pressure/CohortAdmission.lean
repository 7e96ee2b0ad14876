import Subgen.Pressure.Admission
import Subgen.Lib.Procedure
import Mathlib.Algebra.Order.BigOperators.Group.List
import Mathlib.Data.List.Perm.Basic

/-!
# Admission of a cohort

The workers of a cohort, one for each physical device, are admitted together against one
observation of the host. Each worker is evaluated as if it were alone, with the reading of its
own device, and what all of them take of the host is added up.

The loop of the code goes over the requests in their order and stops at the first that is inconsistent with
those before it. What it decides does not depend on that order: it is stated for the requests as a whole
(`Valid`, `Consistent`, `Fits`), and the loop is shown to compute it (`foldlM_admitWorker`).

* `evaluateAdmission_eq_ok`: the terms of a single decision;
* `evaluateCohortAdmission_ok_iff`, `evaluateCohortAdmission_of_ok`: when there is a decision, and what it
  says, in no order of the requests;
* `hostCovers_of_evaluates`, `deviceCovers_of_evaluates`: what no reason against a worker means for the
  bytes of the host and of its device;
* `verdict_perm`: the verdict is the same for every order;
* `cohort_admission_sound`: what an admitted cohort is given, and what else is admitted then.
-/

namespace Subgen

open Procedure

/-- The two backends of a worker. -/
inductive Backend
  | cuda
  | vulkan
  deriving DecidableEq, Repr

/-- Whether a device has memory of its own. -/
inductive MemoryTopology
  | shared
  | dedicated
  deriving DecidableEq, Repr

/-- The text of a backend. -/
def Backend.value : Backend → String
  | cuda => "cuda"
  | vulkan => "vulkan"

/-- `re.fullmatch(r"[0-9a-f]{32}", uuid)`, and not all zeros. -/
def normalizedUuid (uuid : String) : Bool :=
  uuid.toList.length = 32 && uuid.toList.all (fun c => c.isDigit || ('a' ≤ c && c ≤ 'f')) &&
    uuid.toList ≠ List.replicate 32 '0'

/-- A short nonempty name of printable characters. -/
def printableName (name : String) : Bool :=
  1 ≤ name.length && name.length ≤ 256 && name.toList.all (32 ≤ ·.toNat)

/-- One discovered adapter. Only values that pass `__post_init__` exist, so that the repeated
    check of the admission finds nothing. -/
structure ExecutionDevice where
  backend : Backend
  index : ℕ
  physicalUuid : String
  name : String
  memoryTopology : MemoryTopology
  index_lt : index < 32
  physicalUuid_normalized : normalizedUuid physicalUuid = true
  name_printable : printableName name = true

/-- `selector`. -/
def ExecutionDevice.selector (device : ExecutionDevice) : String :=
  device.backend.value ++ ":" ++ toString device.index

/-- The requirements of one cold worker. -/
structure WorkerAdmissionRequest where
  device : ExecutionDevice
  requirement : ModelLoadRequirement
  gpuSample : PressureSample
  deviceReserveBytes : ℤ

/-- `CohortAdmissionDecision`. -/
structure CohortAdmissionDecision where
  admitted : Bool
  reasons : List String
  requiredHostBytes : ℤ
  availableHostBytes : Option ℤ
  workers : List AdmissionDecision

/-- The observation of the host that the whole cohort is admitted against, and the settings. -/
structure CohortTerms where
  hostSample : PressureSample
  hostReserveBytes : ℤ
  requireCgroup : Bool
  now : Option ℚ
  maximumSampleAgeSeconds : ℚ

namespace WorkerAdmissionRequest

variable (request : WorkerAdmissionRequest)

/-- The worker's device has memory of its own. -/
def dedicated : Bool := request.device.memoryTopology = .dedicated

/-- What the worker takes of the host; a heap that is shared is counted once. -/
def charge : ℤ :=
  if request.dedicated then
    request.requirement.requiredHostBytes
  else
    max request.requirement.requiredHostBytes request.requirement.requiredDeviceBytes

/-- The observation of the host, with the reading of the device of the worker. -/
def sample (hostSample : PressureSample) : PressureSample :=
  { hostSample with
    gpuTotalBytes := request.gpuSample.gpuTotalBytes
    gpuFreeBytes := request.gpuSample.gpuFreeBytes
    gpuDeviceId := request.gpuSample.gpuDeviceId
    gpuObservedAt := request.gpuSample.gpuObservedAt }

/-- The worker on its own. -/
def decide (terms : CohortTerms) : Except Exc AdmissionDecision :=
  evaluateAdmission request.requirement (request.sample terms.hostSample) terms.hostReserveBytes
    (some request.deviceReserveBytes) terms.requireCgroup request.dedicated
    (some request.device.physicalUuid) terms.now terms.maximumSampleAgeSeconds

end WorkerAdmissionRequest

/-- The local variables of the loop over the requests. -/
structure CohortTally where
  identities : List String
  model : Option String
  decisions : List AdmissionDecision
  required : ℤ
  reasons : List String

/-- One round of the loop. -/
def admitWorker (terms : CohortTerms) (tally : CohortTally) (request : WorkerAdmissionRequest) :
    Except Exc CohortTally :=
  if request.device.physicalUuid ∈ tally.identities then
    .error (.valueError "A physical GPU cannot own two workers")
  else if request.device.backend = .vulkan ∧ request.requirement.provenance = .envelope then
    .error (.valueError "CUDA envelope evidence cannot admit a Vulkan worker")
  else if request.requirement.provenance = .nativeProfile ∧
      (request.device.backend ≠ .vulkan ∨ request.device.memoryTopology ≠ .shared) then
    .error (.valueError "Native shared-RAM evidence cannot admit a CUDA or dedicated worker")
  else if tally.model.any (· ≠ request.requirement.model) then
    .error (.valueError "Workers must use the same model")
  else do
    let _ ← requireBytes request.deviceReserveBytes "Device reserve" false
    let decision ← request.decide terms
    let required ← requireBytes (tally.required + request.charge) "Combined worker requirement" false
    .ok
      { identities := request.device.physicalUuid :: tally.identities
        model := some request.requirement.model
        decisions := tally.decisions ++ [decision]
        required := required
        reasons := tally.reasons ++
          decision.reasons.map (request.device.selector ++ ":" ++ ·) }

/-- `evaluate_cohort_admission`. -/
def evaluateCohortAdmission (requests : List WorkerAdmissionRequest) (terms : CohortTerms)
    (stagingReserveBytes : ℤ) : Except Exc CohortAdmissionDecision :=
  if ¬ (1 ≤ requests.length ∧ requests.length ≤ 32) then
    .error (.valueError "A worker cohort must contain between 1 and 32 requests")
  else do
    let required ← requireBytes stagingReserveBytes "Staging reserve" true
    let tally ← requests.foldlM (admitWorker terms) ⟨[], none, [], required, []⟩
    let available := tally.decisions.head?.bind AdmissionDecision.effectiveHostAdmissionBytes
    let reasons := tally.reasons ++
      (if available.any (· < tally.required) then ["insufficient_combined_host"] else [])
    .ok ⟨reasons.isEmpty, reasons, tally.required, available, tally.decisions⟩

/-! ## One decision -/

section Decision

variable {requirement : ModelLoadRequirement} {sample : PressureSample} {hostReserve : ℤ}
  {gpuReserve : Option ℤ} {requireCgroup requireGpu : Bool} {device : Option String}
  {now : Option ℚ} {age : ℚ} {decision : AdmissionDecision}

/-- More is available than there is. -/
def inconsistentHost (sample : PressureSample) : Bool :=
  sample.hostAvailableBytes.any fun available => sample.hostTotalBytes.any (· < available)

/-- A decision, from the terms of the host, the cgroup and the device. -/
theorem evaluateAdmission_eq_ok (h : evaluateAdmission requirement sample hostReserve gpuReserve
    requireCgroup requireGpu device now age = .ok decision) :
    ∃ time cgroup gpu below, timeReason sample.observedAt now age = .ok time ∧
      cgroupAdmission sample.cgroupLimitBytes sample.cgroupCurrentBytes time.isNone = .ok cgroup ∧
      requiredDevice requireGpu sample sample.gpuTotalBytes sample.gpuFreeBytes gpuReserve device
        time.isNone now age = .ok (gpu, below) ∧
      decision.effectiveHostAdmissionBytes = effectiveHost (hostAdmission sample.hostAvailableBytes
        (inconsistentHost sample) time.isNone hostReserve) cgroup requireCgroup ∧
      decision.reasons = hostReasons requirement time (inconsistentHost sample) requireCgroup
        (hostAdmission sample.hostAvailableBytes (inconsistentHost sample) time.isNone hostReserve)
        cgroup decision.effectiveHostAdmissionBytes ++
          (if requireGpu then deviceReasons requirement gpu below else []) := by
  rw [evaluateAdmission] at h
  obtain ⟨reserve, hreserve, h⟩ := bind_eq_ok.1 h
  rw [(requireBytes_eq_ok.1 hreserve).2] at h
  obtain ⟨_, -, h⟩ := bind_eq_ok.1 h
  obtain ⟨_, hhostAvailable, h⟩ := bind_eq_ok.1 h
  obtain ⟨_, hhostTotal, h⟩ := bind_eq_ok.1 h
  obtain ⟨_, hcgroupCurrent, h⟩ := bind_eq_ok.1 h
  obtain ⟨_, hcgroupLimit, h⟩ := bind_eq_ok.1 h
  obtain ⟨_, hgpuTotal, h⟩ := bind_eq_ok.1 h
  obtain ⟨_, hgpuFree, h⟩ := bind_eq_ok.1 h
  rw [← eq_of_optionalBytes_eq_ok hhostAvailable, ← eq_of_optionalBytes_eq_ok hhostTotal,
    ← eq_of_optionalBytes_eq_ok hcgroupCurrent, ← eq_of_optionalBytes_eq_ok hcgroupLimit,
    ← eq_of_optionalBytes_eq_ok hgpuTotal, ← eq_of_optionalBytes_eq_ok hgpuFree] at h
  obtain ⟨time, htime, h⟩ := bind_eq_ok.1 h
  obtain ⟨cgroup, hcgroup, h⟩ := bind_eq_ok.1 h
  obtain ⟨⟨gpu, below⟩, hgpu, h⟩ := bind_eq_ok.1 h
  obtain rfl := Except.ok.inj h
  exact ⟨time, cgroup, gpu, below, htime, hcgroup, hgpu, rfl, rfl⟩

end Decision

/-! ## The loop -/

namespace WorkerAdmissionRequest

/-- What is checked of a request on its own, and the decision on it. -/
def Evaluates (terms : CohortTerms) (request : WorkerAdmissionRequest)
    (decision : AdmissionDecision) : Prop :=
  ¬ (request.device.backend = .vulkan ∧ request.requirement.provenance = .envelope) ∧
    ¬ (request.requirement.provenance = .nativeProfile ∧
      (request.device.backend ≠ .vulkan ∨ request.device.memoryTopology ≠ .shared)) ∧
    (0 ≤ request.deviceReserveBytes ∧ request.deviceReserveBytes ≤ maxBytes) ∧
    request.decide terms = .ok decision

theorem charge_pos (request : WorkerAdmissionRequest) : 0 < request.charge := by
  have hhost : 0 < request.requirement.requiredHostBytes := by
    have hload : 0 ≤ max request.requirement.hostIncrementalBytes
        request.requirement.cgroupIncrementalBytes :=
      request.requirement.bytes_nonneg.1.trans (le_max_left _ _)
    exact add_pos_of_nonneg_of_pos hload request.requirement.margins_pos.1
  rw [charge]
  split_ifs
  · exact hhost
  · exact hhost.trans_le (le_max_left _ _)

theorem Evaluates.unique {terms : CohortTerms} {request : WorkerAdmissionRequest}
    {decision decision' : AdmissionDecision} (h : request.Evaluates terms decision)
    (h' : request.Evaluates terms decision') : decision = decision' :=
  Except.ok.inj (h.2.2.2.symm.trans h'.2.2.2)

end WorkerAdmissionRequest

open WorkerAdmissionRequest

variable {terms : CohortTerms} {requests : List WorkerAdmissionRequest} {tally tally' : CohortTally}

/-- The tally behind one more worker. -/
def CohortTally.with (tally : CohortTally) (request : WorkerAdmissionRequest)
    (decision : AdmissionDecision) : CohortTally where
  identities := request.device.physicalUuid :: tally.identities
  model := some request.requirement.model
  decisions := tally.decisions ++ [decision]
  required := tally.required + request.charge
  reasons := tally.reasons ++ decision.reasons.map (request.device.selector ++ ":" ++ ·)

theorem admitWorker_eq_ok {request : WorkerAdmissionRequest} :
    admitWorker terms tally request = .ok tally' ↔
      request.device.physicalUuid ∉ tally.identities ∧
      (∀ model ∈ tally.model, model = request.requirement.model) ∧
      (0 ≤ tally.required + request.charge ∧ tally.required + request.charge ≤ maxBytes) ∧
      ∃ decision, request.Evaluates terms decision ∧ tally' = tally.with request decision := by
  have hmodel : tally.model.any (· ≠ request.requirement.model) = true ↔
      ¬ ∀ model ∈ tally.model, model = request.requirement.model := by
    rcases tally.model with _ | model <;> simp
  rw [admitWorker]
  split_ifs with huuid hbackend hnative hany
  · exact ⟨nofun, fun h => absurd huuid h.1⟩
  · exact ⟨nofun, fun ⟨_, _, _, _, h, _⟩ => absurd hbackend h.1⟩
  · exact ⟨nofun, fun ⟨_, _, _, _, h, _⟩ => absurd hnative h.2.1⟩
  · exact ⟨nofun, fun h => absurd h.2.1 (hmodel.1 hany)⟩
  · constructor
    · intro h
      obtain ⟨_, hreserve, h⟩ := bind_eq_ok.1 h
      obtain ⟨decision, hdecision, h⟩ := bind_eq_ok.1 h
      obtain ⟨required, hrequired, h⟩ := bind_eq_ok.1 h
      obtain ⟨hbounds, rfl⟩ := requireBytes_eq_ok.1 hrequired
      exact ⟨huuid, not_not.1 (mt hmodel.2 hany), hbounds, decision,
        ⟨hbackend, hnative, (requireBytes_eq_ok.1 hreserve).1, hdecision⟩,
        (Except.ok.inj h).symm⟩
    · rintro ⟨-, -, hbounds, decision, ⟨-, -, hreserve, hdecision⟩, rfl⟩
      exact bind_eq_ok.2 ⟨_, requireBytes_eq_ok.2 ⟨hreserve, rfl⟩, bind_eq_ok.2 ⟨decision, hdecision,
        bind_eq_ok.2 ⟨_, requireBytes_eq_ok.2 ⟨hbounds, rfl⟩, rfl⟩⟩⟩

/-- All the texts are the same. -/
def Uniform (l : List String) : Prop := ∀ a ∈ l, ∀ b ∈ l, a = b

/-- What all workers together take of the host. -/
def charges (requests : List WorkerAdmissionRequest) : ℤ :=
  (requests.map WorkerAdmissionRequest.charge).sum

/-- What the loop checks of the requests, none of it in any order. -/
structure Consistent (terms : CohortTerms) (identities : List String) (model : Option String)
    (requests : List WorkerAdmissionRequest) : Prop where
  nodup : (requests.map (·.device.physicalUuid)).Nodup
  fresh : ∀ request ∈ requests, request.device.physicalUuid ∉ identities
  uniform : Uniform (model.toList ++ requests.map (·.requirement.model))
  evaluates : ∀ request ∈ requests, ∃ decision, request.Evaluates terms decision

theorem consistent_nil (terms : CohortTerms) (identities : List String) (model : Option String) :
    Consistent terms identities model [] := by
  refine ⟨List.nodup_nil, fun _ h => absurd h List.not_mem_nil, ?_,
    fun _ h => absurd h List.not_mem_nil⟩
  rcases model with _ | model
  · exact fun _ h => absurd h List.not_mem_nil
  · intro a ha b hb
    exact (List.mem_singleton.1 ha).trans (List.mem_singleton.1 hb).symm

theorem consistent_cons {identities : List String} {model : Option String}
    {request : WorkerAdmissionRequest} :
    Consistent terms identities model (request :: requests) ↔
      request.device.physicalUuid ∉ identities ∧
      (∀ m ∈ model, m = request.requirement.model) ∧
      (∃ decision, request.Evaluates terms decision) ∧
      Consistent terms (request.device.physicalUuid :: identities) (some request.requirement.model)
        requests := by
  have hmem : ∀ a, a ∈ (some request.requirement.model).toList ++
      requests.map (·.requirement.model) → a ∈ model.toList ++
        (request :: requests).map (·.requirement.model) :=
    fun a ha => List.mem_append_right _ ha
  constructor
  · rintro ⟨hnodup, hfresh, huniform, hevaluates⟩
    rw [List.map_cons, List.nodup_cons] at hnodup
    obtain ⟨hfirst, hrest⟩ := List.forall_mem_cons.1 hfresh
    obtain ⟨hdecision, hdecisions⟩ := List.forall_mem_cons.1 hevaluates
    refine ⟨hfirst, fun m hm => ?_, hdecision, hnodup.2, fun r hr => ?_, ?_, hdecisions⟩
    · exact huniform m (List.mem_append_left _ (Option.mem_toList.2 hm)) _
        (List.mem_append_right _ List.mem_cons_self)
    · rw [List.mem_cons, not_or]
      exact ⟨fun heq => hnodup.1 (heq ▸ List.mem_map_of_mem hr), hrest r hr⟩
    · exact fun a ha b hb => huniform a (hmem a ha) b (hmem b hb)
  · rintro ⟨hfirst, hmodel, hdecision, hnodup, hfresh, huniform, hevaluates⟩
    refine ⟨?_, ?_, ?_, List.forall_mem_cons.2 ⟨hdecision, hevaluates⟩⟩
    · rw [List.map_cons, List.nodup_cons]
      refine ⟨fun hin => ?_, hnodup⟩
      obtain ⟨r, hr, heq⟩ := List.mem_map.1 hin
      exact hfresh r hr (heq ▸ List.mem_cons_self)
    · exact List.forall_mem_cons.2
        ⟨hfirst, fun r hr hin => hfresh r hr (List.mem_cons_of_mem _ hin)⟩
    · -- Every model is that of the first request.
      have hall : ∀ a ∈ model.toList ++ (request :: requests).map (·.requirement.model),
          a = request.requirement.model := by
        intro a ha
        rcases List.mem_append.1 ha with ha | ha
        · exact hmodel a (Option.mem_toList.1 ha)
        · exact huniform a ha _ List.mem_cons_self
      exact fun a ha b hb => (hall a ha).trans (hall b hb).symm

@[simp] theorem charges_cons (request : WorkerAdmissionRequest)
    (requests : List WorkerAdmissionRequest) :
    charges (request :: requests) = request.charge + charges requests := List.sum_cons

theorem charges_nonneg (requests : List WorkerAdmissionRequest) : 0 ≤ charges requests :=
  List.sum_nonneg fun _ hcharge => by
    obtain ⟨request, -, rfl⟩ := List.mem_map.1 hcharge
    exact request.charge_pos.le

/-- What the loop leaves of a tally. -/
structure CohortTally.Extends (terms : CohortTerms) (requests : List WorkerAdmissionRequest)
    (tally tally' : CohortTally) : Prop where
  required : tally'.required = tally.required + charges requests
  decisions : ∃ decisions, List.Forall₂ (WorkerAdmissionRequest.Evaluates terms) requests decisions ∧
    tally'.decisions = tally.decisions ++ decisions
  reasons : tally'.reasons = [] ↔ tally.reasons = [] ∧
    ∀ request ∈ requests, ∀ decision, request.Evaluates terms decision → decision.reasons = []

theorem CohortTally.extends_cons {request : WorkerAdmissionRequest} {decision : AdmissionDecision}
    (hdecision : request.Evaluates terms decision)
    (h : (tally.with request decision).Extends terms requests tally') :
    tally.Extends terms (request :: requests) tally' := by
  obtain ⟨hrequired, ⟨decisions, hdecisions, heq⟩, hreasons⟩ := h
  refine ⟨?_, ⟨decision :: decisions, .cons hdecision hdecisions, ?_⟩, ?_⟩
  · rw [hrequired, charges_cons, ← add_assoc]
    rfl
  · rw [heq, CohortTally.with, List.append_assoc]
    rfl
  · rw [hreasons, CohortTally.with, List.append_eq_nil_iff, List.map_eq_nil_iff,
      List.forall_mem_cons, and_assoc]
    refine and_congr_right fun _ => and_congr_left fun _ => ⟨fun hnil decision' hdecision' => ?_,
      fun hall => hall decision hdecision⟩
    rwa [hdecision'.unique hdecision]

/-- The loop returns if all checks hold, and what it adds up does not depend on the order. -/
theorem foldlM_admitWorker (requests : List WorkerAdmissionRequest) (tally : CohortTally)
    (hrequired : 0 ≤ tally.required) (hbound : tally.required ≤ maxBytes) :
    ((∃ tally', requests.foldlM (admitWorker terms) tally = .ok tally') ↔
      Consistent terms tally.identities tally.model requests ∧
        tally.required + charges requests ≤ maxBytes) ∧
    ∀ tally', requests.foldlM (admitWorker terms) tally = .ok tally' →
      tally.Extends terms requests tally' := by
  induction requests generalizing tally with
  | nil =>
    refine ⟨⟨fun _ => ⟨consistent_nil _ _ _, by rwa [charges, List.map_nil, List.sum_nil, add_zero]⟩,
      fun _ => ⟨tally, rfl⟩⟩, ?_⟩
    rintro _ htally
    obtain rfl := Except.ok.inj htally
    refine ⟨(add_zero _).symm, ⟨[], .nil, (List.append_nil _).symm⟩, ?_⟩
    exact ⟨fun hnil => ⟨hnil, fun _ h => absurd h List.not_mem_nil⟩, And.left⟩
  | cons request requests ih =>
    have hsum := charges_nonneg requests
    have hcharge := request.charge_pos
    rw [List.foldlM_cons, charges_cons, consistent_cons]
    constructor
    · constructor
      · -- The first worker passes its own checks, the others those against the tally that it leaves.
        rintro ⟨tally', htally⟩
        obtain ⟨_, hfirst, hrest⟩ := bind_eq_ok.1 htally
        obtain ⟨huuid, hmodel, hbounds, decision, hdecision, rfl⟩ := admitWorker_eq_ok.1 hfirst
        obtain ⟨hconsistent, htotal⟩ :=
          (ih (tally.with request decision) hbounds.1 hbounds.2).1.1 ⟨tally', hrest⟩
        exact ⟨⟨huuid, hmodel, ⟨decision, hdecision⟩, hconsistent⟩, by rwa [← add_assoc]⟩
      · rintro ⟨⟨huuid, hmodel, ⟨decision, hdecision⟩, hconsistent⟩, htotal⟩
        have hbounds : 0 ≤ tally.required + request.charge ∧
            tally.required + request.charge ≤ maxBytes := by omega
        obtain ⟨tally', hrest⟩ := (ih (tally.with request decision) hbounds.1 hbounds.2).1.2
          ⟨hconsistent, by rwa [← add_assoc] at htotal⟩
        exact ⟨tally', bind_eq_ok.2 ⟨_, admitWorker_eq_ok.2
          ⟨huuid, hmodel, hbounds, decision, hdecision, rfl⟩, hrest⟩⟩
    · -- What the tally adds up is a sum over the workers, whatever their order is.
      intro tally' htally
      obtain ⟨_, hfirst, hrest⟩ := bind_eq_ok.1 htally
      obtain ⟨huuid, hmodel, hbounds, decision, hdecision, rfl⟩ := admitWorker_eq_ok.1 hfirst
      exact CohortTally.extends_cons hdecision
        ((ih (tally.with request decision) hbounds.1 hbounds.2).2 tally' hrest)

/-! ## The decision -/

/-- All workers have the same share of the host: their evaluations differ in the device only. -/
theorem effective_eq {request request' : WorkerAdmissionRequest}
    {decision decision' : AdmissionDecision} (h : request.Evaluates terms decision)
    (h' : request'.Evaluates terms decision') :
    decision.effectiveHostAdmissionBytes = decision'.effectiveHostAdmissionBytes := by
  obtain ⟨time, cgroup, -, -, htime, hcgroup, -, heffective, -⟩ := evaluateAdmission_eq_ok h.2.2.2
  obtain ⟨time', cgroup', -, -, htime', hcgroup', -, heffective', -⟩ :=
    evaluateAdmission_eq_ok h'.2.2.2
  obtain rfl : time = time' := Except.ok.inj (htime.symm.trans htime')
  obtain rfl : cgroup = cgroup' := Except.ok.inj (hcgroup.symm.trans hcgroup')
  exact heffective.trans heffective'.symm

/-- The checks of a cohort. -/
structure Valid (terms : CohortTerms) (stagingReserveBytes : ℤ)
    (requests : List WorkerAdmissionRequest) : Prop where
  size : 1 ≤ requests.length ∧ requests.length ≤ 32
  staging : 1 ≤ stagingReserveBytes ∧ stagingReserveBytes ≤ maxBytes
  consistent : Consistent terms [] none requests
  total : stagingReserveBytes + charges requests ≤ maxBytes

/-- Nothing stands against any of the workers, nor against all of them together. -/
def Fits (terms : CohortTerms) (requests : List WorkerAdmissionRequest) (required : ℤ) : Prop :=
  ∀ request ∈ requests, ∀ decision, request.Evaluates terms decision →
    decision.reasons = [] ∧
      ∀ available ∈ decision.effectiveHostAdmissionBytes, required ≤ available

variable {stagingReserveBytes : ℤ}

theorem evaluateCohortAdmission_ok_iff :
    (∃ decision, evaluateCohortAdmission requests terms stagingReserveBytes = .ok decision) ↔
      Valid terms stagingReserveBytes requests := by
  rw [evaluateCohortAdmission]
  by_cases hsize : 1 ≤ requests.length ∧ requests.length ≤ 32
  swap
  · rw [if_pos hsize]
    exact ⟨fun ⟨_, h⟩ => (nomatch h), fun h => absurd h.size hsize⟩
  rw [if_neg (not_not.2 hsize)]
  constructor
  · rintro ⟨decision, h⟩
    obtain ⟨required, hstaging, h⟩ := bind_eq_ok.1 h
    obtain ⟨hbounds, hequal⟩ := requireBytes_eq_ok.1 hstaging
    rw [hequal] at h
    obtain ⟨tally, htally, -⟩ := bind_eq_ok.1 h
    obtain ⟨hconsistent, htotal⟩ := (foldlM_admitWorker requests
      ⟨[], none, [], stagingReserveBytes, []⟩
      (zero_le_one.trans hbounds.1) hbounds.2).1.1 ⟨tally, htally⟩
    exact ⟨hsize, hbounds, hconsistent, htotal⟩
  · rintro ⟨-, hbounds, hconsistent, htotal⟩
    obtain ⟨tally, htally⟩ := (foldlM_admitWorker requests ⟨[], none, [], stagingReserveBytes, []⟩
      (zero_le_one.trans hbounds.1) hbounds.2).1.2 ⟨hconsistent, htotal⟩
    exact ⟨_, bind_eq_ok.2 ⟨_, requireBytes_eq_ok.2 ⟨hbounds, rfl⟩, bind_eq_ok.2 ⟨tally, htally, rfl⟩⟩⟩

/-- What a decision says, in no order of the requests. -/
theorem evaluateCohortAdmission_of_ok {decision : CohortAdmissionDecision}
    (h : evaluateCohortAdmission requests terms stagingReserveBytes = .ok decision) :
    decision.requiredHostBytes = stagingReserveBytes + charges requests ∧
      (decision.admitted = true ↔
        Fits terms requests (stagingReserveBytes + charges requests)) := by
  rw [evaluateCohortAdmission] at h
  by_cases hsize : 1 ≤ requests.length ∧ requests.length ≤ 32
  swap
  · rw [if_pos hsize] at h
    cases h
  rw [if_neg (not_not.2 hsize)] at h
  obtain ⟨required, hstaging, h⟩ := bind_eq_ok.1 h
  obtain ⟨hbounds, hequal⟩ := requireBytes_eq_ok.1 hstaging
  rw [hequal] at h
  obtain ⟨tally, htally, h⟩ := bind_eq_ok.1 h
  obtain ⟨hrequired, ⟨decisions, hdecisions, hall⟩, hreasons⟩ :=
    (foldlM_admitWorker requests ⟨[], none, [], stagingReserveBytes, []⟩
      (zero_le_one.trans hbounds.1) hbounds.2).2 tally htally
  obtain rfl := Except.ok.inj h
  refine ⟨hrequired, ?_⟩
  -- What is available is read from the decision on the first request, but is the same for all.
  rcases requests with _ | ⟨first, requests⟩
  · exact absurd hsize.1 (by decide)
  obtain ⟨decision, decisions, hdecision, -, rfl⟩ := List.forall₂_cons_left_iff.1 hdecisions
  rw [List.nil_append] at hall
  dsimp only
  rw [List.isEmpty_iff, List.append_eq_nil_iff, hreasons, hall, List.head?_cons, Option.bind_some,
    hrequired]
  constructor
  · -- No reason of any request is left, and the sum is within what is available.
    rintro ⟨⟨-, hnil⟩, hcombined⟩ request hrequest decision' hdecision'
    refine ⟨hnil request hrequest decision' hdecision', fun available havailable => ?_⟩
    rw [effective_eq hdecision' hdecision] at havailable
    by_contra hless
    rw [Option.mem_def.1 havailable, Option.any_some, if_pos (decide_eq_true (not_le.1 hless))]
      at hcombined
    cases hcombined
  · intro hfits
    refine ⟨⟨rfl, fun request hrequest decision' h' => (hfits request hrequest decision' h').1⟩, ?_⟩
    refine if_neg fun hany => ?_
    rcases havailable : decision.effectiveHostAdmissionBytes with _ | available
    · rw [havailable] at hany
      cases hany
    · rw [havailable, Option.any_some, decide_eq_true_eq] at hany
      exact absurd ((hfits first List.mem_cons_self decision hdecision).2 available havailable)
        (not_le.2 hany)

/-! ## What an admitted cohort is given -/

/-- A reading of the device that is its own and fresh. -/
structure FreshReading (sample : PressureSample) (device : String) (now : Option ℚ) (age : ℚ)
    (free : ℤ) : Prop where
  free_eq : sample.gpuFreeBytes = some free
  free_le : ∃ total, sample.gpuTotalBytes = some total ∧ free ≤ total
  device_eq : sample.gpuDeviceId = some device
  fresh : ∃ time observed, now = some time ∧ sample.gpuObservedAt = some observed ∧
    0 ≤ time - observed ∧ time - observed ≤ age

theorem deviceTimeValid_eq_true {sample : PressureSample} {now : Option ℚ} {age : ℚ}
    (h : deviceTimeValid sample now age = .ok true) :
    ∃ time observed, now = some time ∧ sample.gpuObservedAt = some observed ∧
      0 ≤ time - observed ∧ time - observed ≤ age := by
  rw [deviceTimeValid] at h
  rcases hobserved : sample.gpuObservedAt with _ | observed <;> rw [hobserved] at h
  · cases h
  · obtain ⟨time, htime, h⟩ := bind_eq_ok.1 h
    obtain ⟨_, hvalue, h⟩ := bind_eq_ok.1 h
    rw [← Option.some.inj (requireTime_eq_ok.1 hvalue).1] at h
    have hfresh := of_decide_eq_true (Except.ok.inj h)
    exact ⟨time, observed, (requireTime_eq_ok.1 htime).1, rfl, hfresh.1, hfresh.2⟩

/-- The bytes that a device admits are those of its own fresh reading, less the reserve. -/
theorem requiredDevice_eq_some {sample : PressureSample} {reserve bytes : ℤ} {device : String}
    {timely below : Bool} {now : Option ℚ} {age : ℚ}
    (h : requiredDevice true sample sample.gpuTotalBytes sample.gpuFreeBytes (some reserve)
      (some device) timely now age = .ok (some bytes, below)) :
    ∃ free, FreshReading sample device now age free ∧ bytes = max 0 (free - reserve) := by
  rw [requiredDevice, if_pos rfl, deviceAdmission] at h
  split_ifs at h with hdevice
  obtain ⟨⟨reserved, below'⟩, hreserve, h⟩ := bind_eq_ok.1 h
  have hreserved : reserved = some reserve := by
    rw [deviceReserve] at hreserve
    obtain ⟨checked, hchecked, hreserve⟩ := bind_eq_ok.1 hreserve
    obtain ⟨_, hvalue, hfloor⟩ := bind_eq_ok.1 hchecked
    obtain ⟨floor, -, hfloor⟩ := bind_eq_ok.1 hfloor
    split_ifs at hfloor
    rw [← Except.ok.inj hfloor, (requireBytes_eq_ok.1 hvalue).2] at hreserve
    rcases htotal : sample.gpuTotalBytes with _ | total <;> rw [htotal] at hreserve
    · exact (Prod.mk.inj (Except.ok.inj hreserve)).1.symm
    · obtain ⟨floor', -, hreserve⟩ := bind_eq_ok.1 hreserve
      exact (Prod.mk.inj (Except.ok.inj hreserve)).1.symm
  subst hreserved
  rcases htotal : sample.gpuTotalBytes with _ | total <;> rw [htotal] at h
  · cases h
  rcases hfree : sample.gpuFreeBytes with _ | free <;> rw [hfree] at h
  · cases h
  dsimp only at h
  split_ifs at h with hvalid
  · obtain ⟨valid, htime, h⟩ := bind_eq_ok.1 h
    rcases valid with _ | _
    · cases h
    · rw [if_pos rfl] at h
      obtain ⟨hbytes, -⟩ := Prod.mk.inj (Except.ok.inj h)
      exact ⟨free, ⟨hfree, ⟨total, htotal, hvalid.2.2.2⟩, hvalid.2.2.1,
        deviceTimeValid_eq_true htime⟩, (Option.some.inj hbytes).symm⟩
  · cases h

/-- The share of the host of a timely and consistent observation covers what is required. -/
structure HostCovers (terms : CohortTerms) (required : ℤ) : Prop where
  host : ∃ available, terms.hostSample.hostAvailableBytes = some available ∧
    required ≤ available - terms.hostReserveBytes
  cgroup : ∀ limit current floor, terms.hostSample.cgroupLimitBytes = some limit →
    terms.hostSample.cgroupCurrentBytes = some current →
    cgroupHeadroomFloor (some limit) = .ok (some floor) → required ≤ limit - current - floor
  present : terms.requireCgroup = true → ∃ limit current floor,
    terms.hostSample.cgroupLimitBytes = some limit ∧
    terms.hostSample.cgroupCurrentBytes = some current ∧
    cgroupHeadroomFloor (some limit) = .ok (some floor)

theorem cgroupAdmission_eq_ok {limit current floor bytes : Option ℤ}
    (h : cgroupAdmission limit current true = .ok bytes) (limit' current' : ℤ)
    (hlimit : limit = some limit') (hcurrent : current = some current')
    (hfloor : cgroupHeadroomFloor (some limit') = .ok floor) :
    bytes = floor.map fun floor => max 0 (limit' - current' - floor) := by
  rw [hlimit, hcurrent, cgroupAdmission, if_pos rfl, hfloor] at h
  exact (Except.ok.inj h).symm

/-- A share of the cgroup is there only if its limit, its use and its floor are. -/
theorem cgroupAdmission_eq_some {limit current : Option ℤ} {bytes : ℤ}
    (h : cgroupAdmission limit current true = .ok (some bytes)) :
    ∃ limit' current' floor, limit = some limit' ∧ current = some current' ∧
      cgroupHeadroomFloor (some limit') = .ok (some floor) := by
  rcases limit with _ | limit
  · cases h
  rcases current with _ | current
  · cases h
  rw [cgroupAdmission, if_pos rfl] at h
  obtain ⟨floor, hfloor, h⟩ := bind_eq_ok.1 h
  obtain ⟨floor', rfl, -⟩ := Option.map_eq_some_iff.1 (Except.ok.inj h)
  exact ⟨limit, current, floor', rfl, rfl, hfloor⟩

theorem hostReasons_eq_nil {requirement : ModelLoadRequirement} {time : Option String}
    {inconsistent requireCgroup : Bool} {host cgroup effective : Option ℤ}
    (h : hostReasons requirement time inconsistent requireCgroup host cgroup effective = []) :
    time = none ∧ inconsistent = false ∧ host ≠ none ∧ (requireCgroup = true → cgroup ≠ none) := by
  simp only [hostReasons, List.append_eq_nil_iff] at h
  obtain ⟨⟨⟨htime, hhost⟩, hcgroup⟩, -⟩ := h
  refine ⟨Option.toList_eq_nil_iff.1 htime, ?_, ?_, fun hrequire hnone => ?_⟩
  · rcases inconsistent with _ | _
    · rfl
    · cases hhost
  · intro hnone
    rw [hnone, if_pos rfl] at hhost
    split_ifs at hhost
  · rw [if_pos ⟨hrequire, hnone⟩] at hcgroup
    cases hcgroup

/-- A worker that nothing stands against. -/
theorem hostCovers_of_evaluates {request : WorkerAdmissionRequest} {decision : AdmissionDecision}
    {required : ℤ} (hpos : 0 < required) (hdecision : request.Evaluates terms decision)
    (hreasons : decision.reasons = [])
    (havailable : ∀ available ∈ decision.effectiveHostAdmissionBytes, required ≤ available) :
    HostCovers terms required := by
  obtain ⟨time, cgroup, gpu, below, -, hcgroup, -, heffective, hall⟩ :=
    evaluateAdmission_eq_ok hdecision.2.2.2
  rw [hreasons] at hall
  obtain ⟨rfl, hinconsistent, hsome, hpresent⟩ :=
    hostReasons_eq_nil (List.append_eq_nil_iff.1 hall.symm).1
  -- What is admitted is cut off at zero, which is less than what is required.
  have hpositive : ∀ {bytes : ℤ}, required ≤ max 0 bytes → required ≤ bytes := by
    intro bytes hle
    exact (le_max_iff.1 hle).resolve_left (not_le.2 hpos)
  obtain ⟨available, hhost⟩ : ∃ available, terms.hostSample.hostAvailableBytes = some available := by
    refine Option.ne_none_iff_exists'.1 fun hnone => hsome ?_
    change (if _ then terms.hostSample.hostAvailableBytes.map _ else none) = none
    rw [hnone]
    split_ifs <;> rfl
  have hadmission : hostAdmission (request.sample terms.hostSample).hostAvailableBytes
      (inconsistentHost (request.sample terms.hostSample)) true terms.hostReserveBytes =
        some (max 0 (available - terms.hostReserveBytes)) := by
    rw [hinconsistent]
    change (if true = true ∧ ¬ false = true then terms.hostSample.hostAvailableBytes.map _ else none) = _
    rw [hhost]
    rfl
  rw [heffective, Option.isNone_none, hadmission] at havailable
  -- Without a figure of the cgroup none is required, and the host alone decides.
  rcases cgroup with _ | bytes
  · have hrequire : ¬ terms.requireCgroup = true := fun hrequire => hpresent hrequire rfl
    have hle := havailable _ (if_neg hrequire)
    refine ⟨⟨available, hhost, hpositive hle⟩, fun limit current floor hlimit hcurrent hfloor => ?_,
      fun h => absurd h hrequire⟩
    cases cgroupAdmission_eq_ok hcgroup limit current hlimit hcurrent hfloor
  · have hle := havailable _ rfl
    obtain ⟨limit', current', floor', hlimit', hcurrent', hfloor'⟩ := cgroupAdmission_eq_some hcgroup
    refine ⟨⟨available, hhost, hpositive (hle.trans (min_le_left _ _))⟩,
      fun limit current floor hlimit hcurrent hfloor => ?_,
      fun _ => ⟨limit', current', floor', hlimit', hcurrent', hfloor'⟩⟩
    have hbytes := cgroupAdmission_eq_ok hcgroup limit current hlimit hcurrent hfloor
    rw [Option.some.inj hbytes] at hle
    exact hpositive (hle.trans (min_le_right _ _))

/-- The device of a dedicated worker covers what the worker takes of it. -/
def DeviceCovers (terms : CohortTerms) (request : WorkerAdmissionRequest) : Prop :=
  ∃ free, FreshReading request.gpuSample request.device.physicalUuid terms.now
      terms.maximumSampleAgeSeconds free ∧
    request.requirement.requiredDeviceBytes ≤ free - request.deviceReserveBytes

theorem deviceCovers_of_evaluates {request : WorkerAdmissionRequest}
    {decision : AdmissionDecision} (hdedicated : request.dedicated = true)
    (hdecision : request.Evaluates terms decision) (hreasons : decision.reasons = []) :
    DeviceCovers terms request := by
  obtain ⟨time, cgroup, gpu, below, -, -, hgpu, -, hall⟩ :=
    evaluateAdmission_eq_ok hdecision.2.2.2
  rw [hreasons] at hall
  have hdevice := (List.append_eq_nil_iff.1 hall.symm).2
  rw [if_pos hdedicated] at hdevice
  unfold deviceReasons at hdevice
  rw [hdedicated] at hgpu
  have hpos : 0 < request.requirement.requiredDeviceBytes :=
    add_pos_of_nonneg_of_pos request.requirement.bytes_nonneg.2.2 request.requirement.margins_pos.2
  split_ifs at hdevice
  rcases gpu with _ | bytes
  · cases hdevice
  · dsimp only at hdevice
    split_ifs at hdevice with hless
    obtain ⟨free, hreading, rfl⟩ := requiredDevice_eq_some hgpu
    refine ⟨free, ⟨hreading.free_eq, hreading.free_le, hreading.device_eq, hreading.fresh⟩, ?_⟩
    exact (le_max_iff.1 (not_lt.1 hless)).resolve_left (not_le.2 hpos)

/-! ## Order, and parts of a cohort -/

theorem Consistent.sublist {identities : List String} {model : Option String}
    {part : List WorkerAdmissionRequest} (h : Consistent terms identities model requests)
    (hpart : part.Sublist requests) : Consistent terms identities model part := by
  have hmem : ∀ a, a ∈ model.toList ++ part.map (·.requirement.model) →
      a ∈ model.toList ++ requests.map (·.requirement.model) :=
    fun a ha => ((hpart.map _).append_left _).subset ha
  exact ⟨h.nodup.sublist (hpart.map _), fun r hr => h.fresh r (hpart.subset hr),
    fun a ha b hb => h.uniform a (hmem a ha) b (hmem b hb),
    fun r hr => h.evaluates r (hpart.subset hr)⟩

theorem charges_sublist {part : List WorkerAdmissionRequest} (hpart : part.Sublist requests) :
    charges part ≤ charges requests := by
  refine (hpart.map WorkerAdmissionRequest.charge).sum_le_sum fun charge hcharge => ?_
  obtain ⟨request, -, rfl⟩ := List.mem_map.1 hcharge
  exact request.charge_pos.le

theorem Valid.sublist {part : List WorkerAdmissionRequest}
    (h : Valid terms stagingReserveBytes requests) (hpart : part.Sublist requests)
    (hne : part ≠ []) : Valid terms stagingReserveBytes part where
  size := ⟨List.length_pos_iff.2 hne, hpart.length_le.trans h.size.2⟩
  staging := h.staging
  consistent := h.consistent.sublist hpart
  total := (add_le_add_right (charges_sublist hpart) _).trans h.total

theorem charges_perm {requests' : List WorkerAdmissionRequest} (hperm : requests.Perm requests') :
    charges requests = charges requests' := (hperm.map _).sum_eq

theorem Valid.perm {requests' : List WorkerAdmissionRequest}
    (h : Valid terms stagingReserveBytes requests) (hperm : requests.Perm requests') :
    Valid terms stagingReserveBytes requests' where
  size := hperm.length_eq ▸ h.size
  staging := h.staging
  consistent := by
    have hmem : ∀ a, a ∈ requests'.map (·.requirement.model) →
        a ∈ requests.map (·.requirement.model) := fun a ha => (hperm.map _).mem_iff.2 ha
    exact ⟨(hperm.map _).nodup_iff.1 h.consistent.nodup, fun r _ => List.not_mem_nil,
      fun a ha b hb => h.consistent.uniform a (hmem a ha) b (hmem b hb),
      fun r hr => h.consistent.evaluates r (hperm.mem_iff.2 hr)⟩
  total := charges_perm hperm ▸ h.total

/-- What is returned of a decision, if there is one: the verdict and what is required. -/
def verdict (requests : List WorkerAdmissionRequest) (terms : CohortTerms)
    (stagingReserveBytes : ℤ) : Option (Bool × ℤ) :=
  (evaluateCohortAdmission requests terms stagingReserveBytes).toOption.map fun decision =>
    (decision.admitted, decision.requiredHostBytes)

theorem verdict_eq_some {v : Bool × ℤ} :
    verdict requests terms stagingReserveBytes = some v ↔
      Valid terms stagingReserveBytes requests ∧ v.2 = stagingReserveBytes + charges requests ∧
        (v.1 = true ↔ Fits terms requests (stagingReserveBytes + charges requests)) := by
  rw [verdict, ← evaluateCohortAdmission_ok_iff]
  rcases h : evaluateCohortAdmission requests terms stagingReserveBytes with e | decision
  · exact ⟨nofun, fun ⟨⟨_, h⟩, _⟩ => (nomatch h)⟩
  · obtain ⟨hrequired, hadmitted⟩ := evaluateCohortAdmission_of_ok h
    constructor
    · rintro ⟨⟩
      exact ⟨⟨decision, rfl⟩, hrequired, hadmitted⟩
    · rintro ⟨-, hsecond, hfirst⟩
      refine congrArg some (Prod.ext ?_ (hrequired.trans hsecond.symm))
      exact Bool.eq_iff_iff.2 (hadmitted.trans hfirst.symm)

theorem verdict_perm {requests' : List WorkerAdmissionRequest} (hperm : requests.Perm requests')
    (terms : CohortTerms) (stagingReserveBytes : ℤ) :
    verdict requests' terms stagingReserveBytes = verdict requests terms stagingReserveBytes := by
  have hfits : ∀ required, Fits terms requests' required ↔ Fits terms requests required :=
    fun required => forall_congr' fun request => imp_congr_left hperm.mem_iff.symm
  ext v
  rw [verdict_eq_some, verdict_eq_some, charges_perm hperm, hfits]
  exact and_congr_left fun _ => ⟨fun h => h.perm hperm.symm, fun h => h.perm hperm⟩

/-- An admitted cohort fits into what the host and its cgroup have left, and each dedicated
    worker into what its own device has left. The order of the requests changes neither the
    verdict nor what is required, and each part of an admitted cohort is admitted, too. -/
theorem cohort_admission_sound (requests : List WorkerAdmissionRequest) (terms : CohortTerms)
    (stagingReserveBytes : ℤ) :
    (∀ decision, evaluateCohortAdmission requests terms stagingReserveBytes = .ok decision →
      decision.admitted = true →
        HostCovers terms (stagingReserveBytes + charges requests) ∧
        (∀ request ∈ requests, request.dedicated = true → DeviceCovers terms request) ∧
        ∀ part : List WorkerAdmissionRequest, part.Sublist requests → part ≠ [] →
          ∃ decision', evaluateCohortAdmission part terms stagingReserveBytes = .ok decision' ∧
            decision'.admitted = true) ∧
    ∀ requests', requests.Perm requests' →
      verdict requests' terms stagingReserveBytes = verdict requests terms stagingReserveBytes := by
  refine ⟨fun decision hdecision hadmitted => ?_, fun requests' hperm => verdict_perm hperm _ _⟩
  have hvalid := evaluateCohortAdmission_ok_iff.1 ⟨decision, hdecision⟩
  have hfits := (evaluateCohortAdmission_of_ok hdecision).2.1 hadmitted
  -- The reserve is positive, so that the sum is worth a comparison.
  have hpos : 0 < stagingReserveBytes + charges requests :=
    add_pos_of_pos_of_nonneg (zero_lt_one.trans_le hvalid.staging.1) (charges_nonneg requests)
  refine ⟨?_, fun request hrequest hdedicated => ?_, fun part hpart hne => ?_⟩
  · obtain ⟨request, hrequest⟩ := List.exists_mem_of_length_pos hvalid.size.1
    obtain ⟨decision', hdecision'⟩ := hvalid.consistent.evaluates request hrequest
    obtain ⟨hreasons, havailable⟩ := hfits request hrequest decision' hdecision'
    exact hostCovers_of_evaluates hpos hdecision' hreasons havailable
  · obtain ⟨decision', hdecision'⟩ := hvalid.consistent.evaluates request hrequest
    exact deviceCovers_of_evaluates hdedicated hdecision'
      (hfits request hrequest decision' hdecision').1
  · -- A part asks for less, and for nothing that the whole did not ask for.
    obtain ⟨decision', hdecision'⟩ := evaluateCohortAdmission_ok_iff.2 (hvalid.sublist hpart hne)
    refine ⟨decision', hdecision', (evaluateCohortAdmission_of_ok hdecision').2.2 ?_⟩
    intro request hrequest d hd
    obtain ⟨hreasons, havailable⟩ := hfits request (hpart.subset hrequest) d hd
    exact ⟨hreasons, fun available h =>
      (add_le_add_right (charges_sublist hpart) _).trans (havailable available h)⟩

/-- The generic bounds of the smallest model. -/
def tinyFallback : ModelLoadRequirement where
  model := "tiny"
  hostIncrementalBytes := 768 * mib
  cgroupIncrementalBytes := 768 * mib
  deviceIncrementalBytes := gib
  hostMarginBytes := 512 * mib
  deviceMarginBytes := gib
  provenance := .fallback
  evidence := "generic"
  model_ne := by decide
  bytes_nonneg := by decide
  margins_pos := by decide
  derived_le := by decide

/-- A sample without any reading. -/
def blankSample : PressureSample :=
  ⟨none, none, none, none, none, none, none, none, none, none, none, none, none, none, none, none,
    none, none⟩

/-- A worker on a device with memory of its own. -/
def dedicatedWorker : WorkerAdmissionRequest where
  device := ⟨.cuda, 0, "0123456789abcdef0123456789abcdef", "GPU 0", .dedicated, by decide,
    by decide +kernel, by decide +kernel⟩
  requirement := tinyFallback
  gpuSample :=
    { blankSample with
      gpuTotalBytes := some (8 * gib)
      gpuFreeBytes := some (6 * gib)
      gpuDeviceId := some "0123456789abcdef0123456789abcdef"
      gpuObservedAt := some 4 }
  deviceReserveBytes := gib

/-- A worker on a device that shares the memory of the host. -/
def sharedWorker : WorkerAdmissionRequest where
  device := ⟨.vulkan, 1, "fedcba9876543210fedcba9876543210", "GPU 1", .shared, by decide,
    by decide +kernel, by decide +kernel⟩
  requirement := tinyFallback
  gpuSample := blankSample
  deviceReserveBytes := 0

/-- Terms under which both fit. -/
def cohortTerms : CohortTerms where
  hostSample :=
    { blankSample with
      observedAt := some 4
      hostAvailableBytes := some (8 * gib)
      hostTotalBytes := some (16 * gib) }
  hostReserveBytes := gib
  requireCgroup := false
  now := some 5
  maximumSampleAgeSeconds := 10

/-- A worker with memory of its own and one that shares that of the host, with 4 GiB for both. -/
theorem cohort_admission_sound_two :
    (∃ decision, evaluateCohortAdmission [dedicatedWorker, sharedWorker] cohortTerms (768 * mib) =
        .ok decision ∧ decision.admitted = true ∧ decision.requiredHostBytes = 4 * gib) ∧
      HostCovers cohortTerms (4 * gib) ∧ DeviceCovers cohortTerms dedicatedWorker ∧
      verdict [sharedWorker, dedicatedWorker] cohortTerms (768 * mib) = some (true, 4 * gib) := by
  have hverdict : verdict [dedicatedWorker, sharedWorker] cohortTerms (768 * mib) =
      some (true, 4 * gib) := by decide +kernel
  rcases hdecision : evaluateCohortAdmission [dedicatedWorker, sharedWorker] cohortTerms
    (768 * mib) with e | decision
  · rw [verdict, hdecision] at hverdict
    cases hverdict
  have hequal := hverdict
  rw [verdict, hdecision] at hequal
  obtain ⟨hadmitted, hrequired⟩ := Prod.mk.inj (Option.some.inj hequal)
  obtain ⟨hsound, hperm⟩ := cohort_admission_sound [dedicatedWorker, sharedWorker] cohortTerms
    (768 * mib)
  obtain ⟨hhost, hdevices, -⟩ := hsound decision hdecision hadmitted
  refine ⟨⟨decision, rfl, hadmitted, hrequired⟩, hhost,
    hdevices dedicatedWorker List.mem_cons_self rfl, ?_⟩
  exact (hperm _ (.swap _ _ _)).trans hverdict

end Subgen

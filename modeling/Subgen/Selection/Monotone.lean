import Subgen.Pressure.CohortAdmission
import Subgen.Selection.Select

/-!
# Admission with more room

What is admitted by one sample is admitted by every one with more room (`admitted_mono`). Of two requests
that differ in nothing but the room that their readings leave (`SelectionRequest.Eases`), both can use the
stabilized reading or none of them, the ceiling of the second one is not lower, and a model that is not
passed over by the first one is not by the second.

More room means more free memory, of the host, of the cgroup and of the device; everything else of two readings
is the same, among it whether they are valid and fresh. Where a reading is missing in one of them it is missing
in both (`Option.Rel`). The admission is monotone in each of the three, which are treated one after the other;
the conflict between the stabilized capacity and the sample needs that the totals are the same.

* `admitted_mono`: one admission;
* `Eases.terms`, `Eases.eligible`: the terms of a selection, and the models that it does not pass over.
-/

namespace Subgen

open Procedure

/-! ## More room -/

/-- The other sample has more room, and is the same otherwise. -/
structure PressureSample.Eases (s s' : PressureSample) : Prop where
  rest : s' = { s with
    hostAvailableBytes := s'.hostAvailableBytes
    cgroupCurrentBytes := s'.cgroupCurrentBytes
    gpuFreeBytes := s'.gpuFreeBytes }
  host : Option.Rel (· ≤ ·) s.hostAvailableBytes s'.hostAvailableBytes
  cgroup : Option.Rel (· ≥ ·) s.cgroupCurrentBytes s'.cgroupCurrentBytes
  gpu : Option.Rel (· ≤ ·) s.gpuFreeBytes s'.gpuFreeBytes
  host_le : ∀ available total, s'.hostAvailableBytes = some available → s'.hostTotalBytes = some total →
    available ≤ total
  gpu_le : ∀ free total, s'.gpuFreeBytes = some free → s'.gpuTotalBytes = some total → free ≤ total

/-- The other reading has as much free memory or more, and is the same otherwise. -/
structure StabilizedGpuCapacity.Eases (g g' : StabilizedGpuCapacity) : Prop where
  device : g'.deviceId = g.deviceId
  total : g'.totalBytes = g.totalBytes
  observed : g'.observedAt = g.observedAt
  free : g.freeBytes ≤ g'.freeBytes

/-- The other request comes with more room, and is the same otherwise. -/
structure SelectionRequest.Eases (r r' : SelectionRequest) : Prop where
  rest : r' = { r with sample := r'.sample, stabilized := r'.stabilized }
  sample : Option.Rel PressureSample.Eases r.sample r'.sample
  stabilized : Option.Rel StabilizedGpuCapacity.Eases r.stabilized r'.stabilized

/-! ## One admission -/

section Admission

variable {requirement : ModelLoadRequirement} {sample sample' : PressureSample} {hostReserve : ℤ}
  {gpuReserve : Option ℤ} {requireCgroup requireGpu : Bool} {device : Option String}
  {now : Option ℚ} {age : ℚ} {decision decision' : AdmissionDecision}
  {host host' cgroup cgroup' effective effective' : Option ℤ}

theorem admitted_iff (h : evaluateAdmission requirement sample hostReserve gpuReserve requireCgroup requireGpu
    device now age = .ok decision) :
    (decision.admitted = true ↔ decision.reasons = []) ∧ decision.requirement = requirement := by
  rw [evaluateAdmission] at h
  -- Ten checks and terms come before the device.
  iterate 10 obtain ⟨_, -, h⟩ := bind_eq_ok.1 h
  obtain ⟨⟨_, _⟩, -, h⟩ := bind_eq_ok.1 h
  obtain rfl := Except.ok.inj h
  exact ⟨List.isEmpty_iff, rfl⟩

/-- What is left of the host grows with what is available. -/
theorem hostAdmission_mono (h : Option.Rel (· ≤ ·) host host') (reserve : ℤ) :
    Option.Rel (· ≤ ·) (hostAdmission host false true reserve) (hostAdmission host' false true reserve) := by
  rcases h with hle | _
  · exact .some (max_le_max le_rfl (sub_le_sub_right hle _))
  · exact .none

theorem cgroupAdmission_mono {limit current current' : Option ℤ} (h : Option.Rel (· ≥ ·) current current')
    (hok : cgroupAdmission limit current true = .ok cgroup)
    (hok' : cgroupAdmission limit current' true = .ok cgroup') : Option.Rel (· ≤ ·) cgroup cgroup' := by
  rcases limit with _ | limit
  · obtain rfl := Except.ok.inj hok
    obtain rfl := Except.ok.inj hok'
    exact .none
  rcases h with hle | _
  · rw [cgroupAdmission, if_pos rfl] at hok hok'
    obtain ⟨floor, hfloor, hok⟩ := bind_eq_ok.1 hok
    obtain ⟨floor', hfloor', hok'⟩ := bind_eq_ok.1 hok'
    obtain rfl := Except.ok.inj (hfloor.symm.trans hfloor')
    obtain rfl := Except.ok.inj hok
    obtain rfl := Except.ok.inj hok'
    rcases floor with _ | floor
    · exact .none
    · exact .some (max_le_max le_rfl (sub_le_sub_right (sub_le_sub_left hle _) _))
  · obtain rfl := Except.ok.inj hok
    obtain rfl := Except.ok.inj hok'
    exact .none

theorem effectiveHost_mono (hhost : Option.Rel (· ≤ ·) host host')
    (hcgroup : Option.Rel (· ≤ ·) cgroup cgroup') (requireCgroup : Bool) :
    Option.Rel (· ≤ ·) (effectiveHost host cgroup requireCgroup)
      (effectiveHost host' cgroup' requireCgroup) := by
  rcases hhost with hhost | _
  · rcases hcgroup with hcgroup | _
    · exact .some (min_le_min hhost hcgroup)
    · unfold effectiveHost
      dsimp only
      split
      · exact .none
      · exact .some hhost
  · exact .none

/-- Less stands against a host that has more room. -/
theorem hostReasons_mono (h : hostReasons requirement none false requireCgroup host cgroup effective = [])
    (hhost : Option.Rel (· ≤ ·) host host') (hcgroup : Option.Rel (· ≤ ·) cgroup cgroup')
    (heffective : Option.Rel (· ≤ ·) effective effective') :
    hostReasons requirement none false requireCgroup host' cgroup' effective' = [] := by
  have hnone : ∀ {a b : Option ℤ}, Option.Rel (· ≤ ·) a b → (b = none ↔ a = none) := by
    rintro a b (_ | _) <;> simp
  have hless : effective'.any (· < requirement.requiredHostBytes) = true →
      effective.any (· < requirement.requiredHostBytes) = true := by
    rcases heffective with hle | _
    · simp only [Option.any_some, decide_eq_true_eq]
      exact hle.trans_lt
    · exact id
  simp only [hostReasons, List.append_eq_nil_iff, hnone hhost, hnone hcgroup] at h ⊢
  refine ⟨h.1, if_neg fun hshort => ?_⟩
  rw [if_pos (hless hshort)] at h
  exact absurd h.2 (List.cons_ne_nil _ _)

/-- A device that is valid stays so, and admits as much or more. -/
theorem requiredDevice_mono {bytes : ℤ} {gpu : Option ℤ} {below below' : Bool} (h : sample.Eases sample')
    (hok : requiredDevice true sample sample.gpuTotalBytes sample.gpuFreeBytes gpuReserve device true now age =
      .ok (some bytes, below))
    (hok' : requiredDevice true sample' sample'.gpuTotalBytes sample'.gpuFreeBytes gpuReserve device true now
      age = .ok (gpu, below')) : ∃ bytes', gpu = some bytes' ∧ bytes ≤ bytes' ∧ below' = below := by
  have htotal : sample'.gpuTotalBytes = sample.gpuTotalBytes := by rw [h.rest]
  have hdevice : sample'.gpuDeviceId = sample.gpuDeviceId := by rw [h.rest]
  have htime : deviceTimeValid sample' now age = deviceTimeValid sample now age := by
    have hobserved : sample'.gpuObservedAt = sample.gpuObservedAt := by rw [h.rest]
    rw [deviceTimeValid, hobserved, deviceTimeValid]
  -- Only the free memory grows: the total, the device and the time of the sample are the same.
  have hle := h.gpu_le
  rw [htotal] at hle hok'
  rw [requiredDevice, if_pos rfl] at hok hok'
  unfold deviceAdmission at hok hok'
  rcases device with _ | device
  · cases hok
  dsimp only at hok hok'
  split_ifs at hok hok'
  obtain ⟨⟨reserve, below₀⟩, hreserve, hok⟩ := bind_eq_ok.1 hok
  obtain ⟨⟨reserve', below₀'⟩, hreserve', hok'⟩ := bind_eq_ok.1 hok'
  -- The reserve is a share of the total, and so it is the same one.
  obtain ⟨rfl, rfl⟩ := Prod.mk.inj (Except.ok.inj (hreserve.symm.trans hreserve'))
  rcases reserve with _ | reserve
  · cases hok
  rcases hsame : sample.gpuTotalBytes with _ | total <;> rw [hsame] at hok hok' hle
  · cases hok
  have hfree := h.gpu
  generalize sample.gpuFreeBytes = free at hok hfree
  generalize sample'.gpuFreeBytes = free' at hok' hfree hle
  rcases hfree with @⟨free, free', hmore⟩ | _
  swap
  · cases hok
  dsimp only at hok hok'
  split_ifs at hok with hvalid
  swap
  · cases hok
  -- What makes the device valid holds of the easier sample, too.
  have hvalid' : true = true ∧ ¬below₀ = true ∧ sample'.gpuDeviceId = some device ∧ free' ≤ total :=
    ⟨rfl, hvalid.2.1, hdevice.trans hvalid.2.2.1, hle free' total rfl rfl⟩
  rw [if_pos hvalid', htime] at hok'
  obtain ⟨valid, hvalidity, hok⟩ := bind_eq_ok.1 hok
  obtain ⟨valid', hvalidity', hok'⟩ := bind_eq_ok.1 hok'
  obtain rfl := Except.ok.inj (hvalidity.symm.trans hvalidity')
  rcases valid with _ | _
  · cases hok
  · obtain ⟨hbytes, rfl⟩ := Prod.mk.inj (Except.ok.inj hok)
    obtain ⟨hbytes', rfl⟩ := Prod.mk.inj (Except.ok.inj hok')
    obtain rfl := Option.some.inj hbytes
    exact ⟨_, hbytes'.symm, max_le_max le_rfl (sub_le_sub_right hmore _), rfl⟩

/-- What is admitted by a sample is admitted by one with more room. -/
theorem admitted_mono (h : sample.Eases sample')
    (hok : evaluateAdmission requirement sample hostReserve gpuReserve requireCgroup requireGpu device now age =
      .ok decision)
    (hok' : evaluateAdmission requirement sample' hostReserve gpuReserve requireCgroup requireGpu device now
      age = .ok decision') (hadmitted : decision.admitted = true) : decision'.admitted = true := by
  obtain ⟨time, cgroup, gpu, below, htime, hcgroup, hgpu, heffective, hreasons⟩ := evaluateAdmission_eq_ok hok
  obtain ⟨time', cgroup', gpu', below', htime', hcgroup', hgpu', heffective', hreasons'⟩ :=
    evaluateAdmission_eq_ok hok'
  rw [(admitted_iff hok).1.1 hadmitted] at hreasons
  obtain ⟨hhost, hdevice⟩ := List.append_eq_nil_iff.1 hreasons.symm
  obtain ⟨rfl, hconsistent, -, -⟩ := hostReasons_eq_nil hhost
  have hobserved : sample'.observedAt = sample.observedAt := by rw [h.rest]
  rw [hobserved] at htime'
  obtain rfl := Except.ok.inj (htime.symm.trans htime')
  have hlimit : sample'.cgroupLimitBytes = sample.cgroupLimitBytes := by rw [h.rest]
  -- More free memory, but no more than there is: the sample stays consistent.
  have hconsistent' : inconsistentHost sample' = false := by
    rw [← Bool.not_eq_true]
    intro hmore
    obtain ⟨available, havailable, hany⟩ := (Option.any_eq_true _ _).1 hmore
    obtain ⟨total, htotal, hless⟩ := (Option.any_eq_true _ _).1 hany
    exact absurd (h.host_le available total havailable htotal) (not_le.2 (of_decide_eq_true hless))
  refine (admitted_iff hok').1.2 ?_
  rw [hconsistent, Option.isNone_none] at hhost heffective
  rw [hlimit] at hcgroup'
  rw [hreasons', hconsistent', heffective', hconsistent']
  have hmore := hostAdmission_mono h.host hostReserve
  have hshare := cgroupAdmission_mono h.cgroup hcgroup hcgroup'
  rw [heffective] at hhost
  refine List.append_eq_nil_iff.2
    ⟨hostReasons_mono hhost hmore hshare (effectiveHost_mono hmore hshare requireCgroup), ?_⟩
  -- Without a device nothing is left to show; with one it is the same comparison again.
  rcases requireGpu with _ | _
  · rfl
  · rw [if_pos rfl] at hdevice ⊢
    unfold deviceReasons at hdevice
    split_ifs at hdevice with hbelow
    rcases gpu with _ | bytes
    · cases hdevice
    dsimp only at hdevice
    split_ifs at hdevice with hshort
    obtain ⟨bytes', rfl, hle, rfl⟩ := requiredDevice_mono h hgpu hgpu'
    rw [deviceReasons, if_neg hbelow]
    exact if_neg fun hless => hshort (hle.trans_lt hless)

end Admission

/-! ## The readings of the device -/

/-- A reading that is valid: no more is free than there is. -/
def ValidReading (sample : PressureSample) : Prop :=
  ∃ total free, sample.gpuTotalBytes = some total ∧ sample.gpuFreeBytes = some free ∧
    (1 ≤ total ∧ total ≤ maxBytes) ∧ 0 ≤ free ∧ free ≤ total

/-- A reading of the device that is expected, at a time that is not too long ago. -/
def TimelyReading (sample : PressureSample) (device : Option String) (now age : ℚ) : Prop :=
  ∃ observed, (sample.gpuObservedAt = some observed ∧ 0 ≤ observed) ∧ 0 ≤ now ∧
    sample.gpuDeviceId.any (· ≠ "") = true ∧ (device.all fun d => sample.gpuDeviceId = some d) = true ∧
    isFresh now observed age = true

theorem gpuSampleIsFresh_iff {sample : PressureSample} {device : Option String} {now age : ℚ} :
    gpuSampleIsFresh sample device now age = true ↔
      ValidReading sample ∧ TimelyReading sample device now age := by
  constructor
  · intro h
    unfold gpuSampleIsFresh at h
    split at h
    · cases h
    · cases h
    · next total free observed time hreading =>
      simp only [Bool.and_eq_true, decide_eq_true_eq] at h
      obtain ⟨⟨⟨hle, hdevice⟩, hexpected⟩, hfresh⟩ := h
      obtain ⟨hobserved, hpos, rfl, hnow, total', free', htotal, hfree, hboth⟩ := gpuReading_eq_ok.1 hreading
      obtain ⟨total, rfl, hmap⟩ := Option.bind_eq_some_iff.1 hboth.symm
      obtain ⟨free, rfl, hpair⟩ := Option.map_eq_some_iff.1 hmap
      obtain ⟨rfl, rfl⟩ := Prod.mk.inj hpair
      have hsome := eq_of_optionalBytes_eq_ok htotal
      have hsome' := eq_of_optionalBytes_eq_ok hfree
      rw [hsome] at htotal
      rw [hsome'] at hfree
      exact ⟨⟨total, free, hsome, hsome', (optionalBytes_some_eq_ok.1 htotal).1,
        (optionalBytes_some_eq_ok.1 hfree).1.1, hle⟩, observed, ⟨hobserved, hpos⟩, hnow, hdevice, hexpected, hfresh⟩
  · rintro ⟨⟨total, free, htotal, hfree, hbounds, hpos, hle⟩, observed, hobserved, hnow, hdevice, hexpected,
      hfresh⟩
    have hreading : gpuReading sample now = .ok (some (total, free), observed, now) := by
      refine gpuReading_eq_ok.2 ⟨hobserved.1, hobserved.2, rfl, hnow, some total, some free, ?_, ?_, rfl⟩
      · rw [htotal]
        exact optionalBytes_some_eq_ok.2 ⟨hbounds, rfl⟩
      · rw [hfree]
        exact optionalBytes_some_eq_ok.2 ⟨⟨hpos, hle.trans hbounds.2⟩, rfl⟩
    rw [gpuSampleIsFresh, hreading]
    simp only [Bool.and_eq_true, decide_eq_true_eq]
    exact ⟨⟨⟨hle, hdevice⟩, hexpected⟩, hfresh⟩

/-- A sample with more room can be read if the first one can. -/
theorem PressureSample.Eases.validReading_iff {s s' : PressureSample} (h : s.Eases s')
    (hpos : ∀ free, s.gpuFreeBytes = some free → 0 ≤ free) : ValidReading s' ↔ ValidReading s := by
  have htotal : s'.gpuTotalBytes = s.gpuTotalBytes := by rw [h.rest]
  have hle := h.gpu_le
  have hfree := h.gpu
  unfold ValidReading
  rw [htotal] at hle ⊢
  generalize s.gpuFreeBytes = free at hfree hpos ⊢
  generalize s'.gpuFreeBytes = free' at hfree hle ⊢
  rcases hfree with @⟨free, free', hmore⟩ | _
  · constructor
    · rintro ⟨total, _, hsame, heq, hbounds, -, hless⟩
      obtain rfl := Option.some.inj heq
      exact ⟨total, free, hsame, rfl, hbounds, hpos free rfl, hmore.trans hless⟩
    · rintro ⟨total, _, hsame, heq, hbounds, hnonneg, -⟩
      obtain rfl := Option.some.inj heq
      exact ⟨total, free', hsame, rfl, hbounds, hnonneg.trans hmore, hle free' total rfl hsame⟩
  · rfl

theorem StabilizedGpuCapacity.validReading (g : StabilizedGpuCapacity) : ValidReading g.sample :=
  ⟨g.totalBytes, g.freeBytes, rfl, rfl, g.total_valid, g.free_valid⟩

/-! ## Requests with more room -/

namespace SelectionRequest

/-- A model that is not passed over. -/
structure Eligible (r : SelectionRequest) (t : SelectionTerms) (model : ModelSize) : Prop where
  canonical : r.canonicalSharedCuda = true → (t.envelopes.get model).isSome = true
  ceiling : model.rank ≤ t.automaticCeiling.rank ∨
    (t.envelopes.get model).isSome = true ∧ (r.isGpu = true → r.stabilizedUsable = true)

variable {r r' : SelectionRequest} {t t' : SelectionTerms}

theorem isSkipped_eq_false_iff {model : ModelSize} : r.isSkipped t model = false ↔ r.Eligible t model := by
  have hiff : r.Eligible t model ↔ (r.canonicalSharedCuda = true → (t.envelopes.get model).isSome = true) ∧
      (model.rank ≤ t.automaticCeiling.rank ∨
        (t.envelopes.get model).isSome = true ∧ (r.isGpu = true → r.stabilizedUsable = true)) :=
    ⟨fun h => ⟨h.1, h.2⟩, fun h => ⟨h.1, h.2⟩⟩
  rw [hiff, ← not_lt, isSkipped, envelopeFor]
  generalize t.envelopes.get model = envelope
  by_cases hhigher : t.automaticCeiling.rank < model.rank <;> simp only [hhigher] <;>
    rcases r.canonicalSharedCuda with _ | _ <;> rcases r.isGpu with _ | _ <;>
    rcases r.stabilizedUsable with _ | _ <;> rcases envelope with _ | _ <;> simp

theorem conflictOf_eq {g g' : StabilizedGpuCapacity} {s s' : PressureSample} (hg : g.Eases g') (hs : s.Eases s') :
    conflictOf g' s' = conflictOf g s := by
  have htotal : s'.gpuTotalBytes = s.gpuTotalBytes := by rw [hs.rest]
  have hdevice : s'.gpuDeviceId = s.gpuDeviceId := by rw [hs.rest]
  rw [conflictOf, htotal, hdevice, hg.total, hg.device, conflictOf]

theorem Eases.isGpu (h : r.Eases r') : r'.isGpu = r.isGpu := by rw [h.rest]

theorem Eases.stabilizationConflict (h : r.Eases r') : r'.stabilizationConflict = r.stabilizationConflict := by
  have hsample := h.sample
  have hstabilized := h.stabilized
  unfold SelectionRequest.stabilizationConflict
  rw [h.isGpu]
  generalize r.sample = s at hsample ⊢
  generalize r'.sample = s' at hsample ⊢
  generalize r.stabilized = g at hstabilized ⊢
  generalize r'.stabilized = g' at hstabilized ⊢
  rcases r.isGpu with _ | _
  · rfl
  · rcases hstabilized with hg | _
    · rcases hsample with hs | _
      · exact conflictOf_eq hg hs
      · rfl
    · rfl

theorem Eases.readingIsFresh (h : r.Eases r') {s s' : PressureSample} (hvalid : ValidReading s' ↔ ValidReading s)
    (hdevice : s'.gpuDeviceId = s.gpuDeviceId) (hobserved : s'.gpuObservedAt = s.gpuObservedAt) :
    r'.readingIsFresh s' = r.readingIsFresh s := by
  have hnow : r'.now = r.now := by rw [h.rest]
  have hexpected : r'.expectedGpuDevice = r.expectedGpuDevice := by rw [h.rest]
  rw [SelectionRequest.readingIsFresh, hnow, hexpected, SelectionRequest.readingIsFresh]
  refine congrArg (Option.any · r.now) (funext fun now => ?_)
  rw [Bool.eq_iff_iff, gpuSampleIsFresh_iff, gpuSampleIsFresh_iff, hvalid]
  refine and_congr_right fun _ => ?_
  rw [TimelyReading, hobserved, hdevice, TimelyReading]

/-- The readings can be used in both requests or in none of them. -/
theorem Eases.stabilizedUsable (h : r.Eases r')
    (hpos : ∀ s free, r.sample = some s → s.gpuFreeBytes = some free → 0 ≤ free) :
    r'.stabilizedUsable = r.stabilizedUsable := by
  have hsample := h.sample
  have hstabilized := h.stabilized
  unfold SelectionRequest.stabilizedUsable
  rw [h.isGpu]
  generalize r.sample = s at hsample hpos ⊢
  generalize r'.sample = s' at hsample ⊢
  generalize r.stabilized = g at hstabilized ⊢
  generalize r'.stabilized = g' at hstabilized ⊢
  rcases r.isGpu with _ | _
  · rfl
  · rcases hstabilized with @⟨g, g', hg⟩ | _
    · rcases hsample with @⟨s, s', hs⟩ | _
      · have hvalid : ValidReading g'.sample ↔ ValidReading g.sample :=
          iff_of_true g'.validReading g.validReading
        have hfresh := h.readingIsFresh hvalid (congrArg some hg.device) (congrArg some hg.observed)
        have hdevice : s'.gpuDeviceId = s.gpuDeviceId := by rw [hs.rest]
        have hobserved : s'.gpuObservedAt = s.gpuObservedAt := by rw [hs.rest]
        have hfresh' := h.readingIsFresh (hs.validReading_iff fun free => hpos s free rfl) hdevice hobserved
        dsimp only
        rw [hfresh, hfresh', conflictOf_eq hg hs]
      · rfl
    · rfl

theorem Eases.gpuTotal (h : r.Eases r') : r'.gpuTotal = r.gpuTotal := by
  have hstabilized : r'.stabilized.map (·.totalBytes) = r.stabilized.map (·.totalBytes) := by
    have hboth := h.stabilized
    generalize r.stabilized = g at hboth ⊢
    generalize r'.stabilized = g' at hboth ⊢
    rcases hboth with hg | _
    · exact congrArg some hg.total
    · rfl
  have himmediate : r'.immediateGpuTotal = r.immediateGpuTotal := by
    rw [immediateGpuTotal, h.isGpu, immediateGpuTotal]
    have hboth := h.sample
    generalize r.sample = s at hboth ⊢
    generalize r'.sample = s' at hboth ⊢
    rcases hboth with hs | _
    · rw [Option.bind_some, Option.bind_some, hs.rest]
    · rfl
  rw [SelectionRequest.gpuTotal, hstabilized, himmediate, SelectionRequest.gpuTotal]

theorem Eases.effectiveGpuReserve (h : r.Eases r') : r'.effectiveGpuReserve = r.effectiveGpuReserve := by
  have hreserve : r'.gpuReserveBytes = r.gpuReserveBytes := by rw [h.rest]
  have hcanonical : r'.canonicalSharedCuda = r.canonicalSharedCuda := by rw [h.rest]
  rw [SelectionRequest.effectiveGpuReserve, hreserve, hcanonical, h.isGpu, h.gpuTotal,
    SelectionRequest.effectiveGpuReserve]

theorem Eases.effectiveHostReserve (h : r.Eases r') : r'.effectiveHostReserve = r.effectiveHostReserve := by
  have hreserve : r'.hostReserve = r.hostReserve := by rw [h.rest]
  have hcapacity : r'.capacity = r.capacity := by rw [h.rest]
  rw [SelectionRequest.effectiveHostReserve, hreserve, hcapacity, SelectionRequest.effectiveHostReserve]

theorem selectionTerms_eq_ok (hok : r.selectionTerms = .ok t) :
    validatedEnvelopesByModel r.envelopes = .ok t.envelopes ∧ r.effectiveGpuReserve = .ok t.gpuReserve ∧
      r.effectiveHostReserve = .ok t.hostReserve ∧
      nominalSystemModelCeiling r.capacity t.hostReserve = .ok t.systemCeiling ∧
      t.deviceCeiling = if r.isGpu then some (vramModelCeiling (r.allocatableVram t.gpuReserve)) else none := by
  unfold selectionTerms at hok
  dsimp only at hok
  by_cases hexpected : r.expectedGpuDevice = some ""
  · rw [if_pos hexpected] at hok
    cases hok
  rw [if_neg hexpected] at hok
  obtain ⟨_, -, hok⟩ := bind_eq_ok.1 hok
  obtain ⟨envelopes, henvelopes, hok⟩ := bind_eq_ok.1 hok
  obtain ⟨_, -, hok⟩ := bind_eq_ok.1 hok
  obtain ⟨gpuReserve, hgpu, hok⟩ := bind_eq_ok.1 hok
  obtain ⟨hostReserve, hhost, hok⟩ := bind_eq_ok.1 hok
  obtain ⟨ceiling, hceiling, hok⟩ := bind_eq_ok.1 hok
  obtain ⟨_, -, hok⟩ := bind_eq_ok.1 hok
  obtain rfl := Except.ok.inj hok
  exact ⟨henvelopes, hgpu, hhost, hceiling, rfl⟩

theorem combinedGpuFree_le {free : ℤ} {s : PressureSample} (h : r.combinedGpuFree = some free)
    (hs : r.sample = some s) : ∃ immediate, s.gpuFreeBytes = some immediate ∧ free ≤ immediate := by
  unfold SelectionRequest.combinedGpuFree at h
  split at h
  · obtain ⟨g, -, hg⟩ := Option.bind_eq_some_iff.1 h
    rw [hs, Option.bind_some] at hg
    obtain ⟨immediate, himmediate, rfl⟩ := Option.map_eq_some_iff.1 hg
    exact ⟨immediate, himmediate, min_le_right _ _⟩
  · cases h

section Usable

variable (h : r.Eases r') (husable : r'.stabilizedUsable = r.stabilizedUsable)
include h husable

theorem Eases.combinedGpuFree : Option.Rel (· ≤ ·) r.combinedGpuFree r'.combinedGpuFree := by
  have hsample := h.sample
  have hstabilized := h.stabilized
  unfold SelectionRequest.combinedGpuFree
  rw [husable]
  split
  · generalize r.sample = s at hsample ⊢
    generalize r'.sample = s' at hsample ⊢
    generalize r.stabilized = g at hstabilized ⊢
    generalize r'.stabilized = g' at hstabilized ⊢
    rcases hstabilized with @⟨g, g', hg⟩ | _
    · rcases hsample with @⟨s, s', hs⟩ | _
      · have hfree := hs.gpu
        rw [Option.bind_some, Option.bind_some, Option.bind_some, Option.bind_some]
        generalize s.gpuFreeBytes = free at hfree ⊢
        generalize s'.gpuFreeBytes = free' at hfree ⊢
        rcases hfree with hle | _
        · exact .some (min_le_min hg.free hle)
        · exact .none
      · exact .none
    · exact .none
  · exact .none

/-- The device has room for as large a model or a larger one. -/
theorem Eases.deviceCeiling (reserve : Option ℤ) :
    (vramModelCeiling (r.allocatableVram reserve)).rank ≤ (vramModelCeiling (r'.allocatableVram reserve)).rank := by
  have hfree := h.combinedGpuFree husable
  unfold allocatableVram
  generalize r.combinedGpuFree = free at hfree ⊢
  generalize r'.combinedGpuFree = free' at hfree ⊢
  rcases hfree with hle | _
  · rcases reserve with _ | reserve
    · exact le_rfl
    · exact vramModelCeiling_mono (max_le_max le_rfl (sub_le_sub_right hle _))
  · exact le_rfl

/-- What the requests have worked out differs in the ceiling of the device, which is not lower. -/
theorem Eases.terms (hok : r.selectionTerms = .ok t) (hok' : r'.selectionTerms = .ok t') :
    t'.envelopes = t.envelopes ∧ t'.gpuReserve = t.gpuReserve ∧ t'.hostReserve = t.hostReserve ∧
      t.automaticCeiling.rank ≤ t'.automaticCeiling.rank := by
  have hsame : r'.envelopes = r.envelopes := by rw [h.rest]
  have hcapacity : r'.capacity = r.capacity := by rw [h.rest]
  obtain ⟨henvelopes, hgpu, hhost, hsystem, hdevice⟩ := selectionTerms_eq_ok hok
  obtain ⟨henvelopes', hgpu', hhost', hsystem', hdevice'⟩ := selectionTerms_eq_ok hok'
  rw [hsame] at henvelopes'
  rw [h.effectiveGpuReserve] at hgpu'
  rw [h.effectiveHostReserve] at hhost'
  have hreserve : t'.gpuReserve = t.gpuReserve := Except.ok.inj (hgpu'.symm.trans hgpu)
  have hhostReserve : t'.hostReserve = t.hostReserve := Except.ok.inj (hhost'.symm.trans hhost)
  rw [hcapacity, hhostReserve] at hsystem'
  have hceiling : t'.systemCeiling = t.systemCeiling := Except.ok.inj (hsystem'.symm.trans hsystem)
  refine ⟨Except.ok.inj (henvelopes'.symm.trans henvelopes), hreserve, hhostReserve, ?_⟩
  rw [h.isGpu, hreserve] at hdevice'
  rw [SelectionTerms.automaticCeiling, SelectionTerms.automaticCeiling, hdevice, hdevice', hceiling]
  split_ifs
  · dsimp only
    rw [ModelSize.rank_smaller, ModelSize.rank_smaller]
    exact min_le_min le_rfl (h.deviceCeiling husable _)
  · exact le_rfl

theorem Eases.selectionSample : Option.Rel PressureSample.Eases r.selectionSample r'.selectionSample := by
  have hsample := h.sample
  have hfree := h.combinedGpuFree husable
  unfold SelectionRequest.selectionSample
  rw [husable]
  split
  · have hle : ∀ free s', r'.combinedGpuFree = some free → r'.sample = some s' →
        ∃ immediate, s'.gpuFreeBytes = some immediate ∧ free ≤ immediate := fun _ _ => combinedGpuFree_le
    generalize r.sample = s at hsample ⊢
    generalize r'.sample = s' at hsample hle ⊢
    rcases hsample with @⟨s, s', hs⟩ | _
    · refine .some ⟨?_, hs.host, hs.cgroup, hfree, hs.host_le, fun free total hsome htotal => ?_⟩
      · rw [hs.rest]
      · obtain ⟨immediate, himmediate, hless⟩ := hle free s' hsome rfl
        exact hless.trans (hs.gpu_le immediate total himmediate htotal)
    · exact .none
  · exact hsample

section Terms

variable (hgpu : t'.gpuReserve = t.gpuReserve) (henvelopes : t'.envelopes = t.envelopes)
include hgpu

theorem Eases.evaluableSample :
    Option.Rel PressureSample.Eases (r.evaluableSample t) (r'.evaluableSample t') := by
  have hcanonical : r'.canonicalSharedCuda = r.canonicalSharedCuda := by rw [h.rest]
  have hdevice : r'.expectedGpuDevice = r.expectedGpuDevice := by rw [h.rest]
  have hissue : r'.canonicalIssue t' = r.canonicalIssue t := by
    rw [canonicalIssue, hcanonical, h.isGpu, hgpu, hdevice, husable, canonicalIssue]
  rw [SelectionRequest.evaluableSample, SelectionRequest.evaluableSample, hissue, h.stabilizationConflict,
    h.isGpu, hdevice]
  split
  · exact .none
  · exact h.selectionSample husable

omit hgpu
include henvelopes

theorem Eases.envelopeFor (model : ModelSize) : r'.envelopeFor t' model = r.envelopeFor t model := by
  have hcanonical : r'.canonicalSharedCuda = r.canonicalSharedCuda := by rw [h.rest]
  rw [SelectionRequest.envelopeFor, h.isGpu, husable, hcanonical, henvelopes, SelectionRequest.envelopeFor]

/-- With more room no model is passed over that was not before. -/
theorem Eases.eligible (hceiling : t.automaticCeiling.rank ≤ t'.automaticCeiling.rank) {model : ModelSize}
    (hmodel : r.Eligible t model) : r'.Eligible t' model := by
  have hcanonical : r'.canonicalSharedCuda = r.canonicalSharedCuda := by rw [h.rest]
  constructor
  · rw [hcanonical, henvelopes]
    exact hmodel.canonical
  · rw [h.isGpu, husable, henvelopes]
    exact hmodel.ceiling.imp_left hceiling.trans'

end Terms

end Usable

end SelectionRequest

end Subgen

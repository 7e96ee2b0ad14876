import Subgen.Selection.Monotone

/-!
# The selected model is the best one

The models are tried from the largest to the smallest, so the one that is selected is the largest that may
be taken and is admitted, and a request with more room is never answered with a smaller one.

What the loop leaves behind is stated without it (`First`): the models before the selected one are refused,
each by its own requirement and the sample of the request, and if nothing is selected all of them are. That
more room does not hurt is then a matter of one model: what is admitted stays admitted if every amount of
free memory grows and all else is as it was (`Eases`), so the first one that is admitted does not come later.

A request may have no sample that can be evaluated. Then nothing is admitted, and nothing is refused either;
the largest one is the best only among the models that there is a sample for.

* `tryModels_eq_ok`: what the loop over the models has looked at (`First`);
* `selection_sound_maximal_monotone`: the selection;
* `admitted_beyond_minimum`: a stabilized reading that is too old is left out of account.
-/

namespace Subgen

open Procedure

/-- The place of a selection; none at all is the lowest. -/
def selectionRank : Option ModelSize → ℕ
  | none => 0
  | some model => model.rank + 1

namespace SelectionRequest

/-- The sample with the smaller one of the two free readings, if the stabilized one can be used, and as it is
    otherwise. -/
structure IsSmallerReading (r : SelectionRequest) (s : PressureSample) : Prop where
  of_usable : r.stabilizedUsable = true → ∃ g sample free, r.stabilized = some g ∧ r.sample = some sample ∧
    sample.gpuFreeBytes = some free ∧ s = { sample with gpuFreeBytes := some (min g.freeBytes free) }
  of_not_usable : r.stabilizedUsable = false → r.sample = some s

/-- The model is admitted. -/
structure Loads (r : SelectionRequest) (t : SelectionTerms) (model : ModelSize) (admission : AdmissionDecision) :
    Prop where
  eligible : r.Eligible t model
  requirement : modelLoadRequirement model (r.envelopeFor t model) = .ok admission.requirement
  decided : ∃ sample, r.evaluableSample t = some sample ∧
    r.evaluated t sample admission.requirement = .ok admission
  admitted : admission.admitted = true

/-- The model is not admitted, by any sample that it can be evaluated on. -/
def Refused (r : SelectionRequest) (t : SelectionTerms) (model : ModelSize) : Prop :=
  ∀ sample, r.evaluableSample t = some sample → ∃ requirement admission,
    modelLoadRequirement model (r.envelopeFor t model) = .ok requirement ∧
    r.evaluated t sample requirement = .ok admission ∧ admission.admitted = false

/-- The first one of the models that is admitted, if there is one. -/
def First (r : SelectionRequest) (t : SelectionTerms) (models : List ModelSize) :
    Option (ModelSize × AdmissionDecision) → Prop
  | none => ∀ model ∈ models, r.Eligible t model → r.Refused t model
  | some (model, admission) => r.Loads t model admission ∧ ∃ before after, models = before ++ model :: after ∧
      ∀ larger ∈ before, r.Eligible t larger → r.Refused t larger

variable {r r' : SelectionRequest} {t t' : SelectionTerms} {model : ModelSize} {models : List ModelSize}
  {selected : Option (ModelSize × AdmissionDecision)} {admission : AdmissionDecision}

theorem First.cons (hmodel : r.Eligible t model → r.Refused t model) (h : r.First t models selected) :
    r.First t (model :: models) selected := by
  rcases selected with _ | ⟨chosen, admission⟩
  · exact List.forall_mem_cons.2 ⟨hmodel, h⟩
  · obtain ⟨hloads, before, after, rfl, hbefore⟩ := h
    exact ⟨hloads, model :: before, after, rfl, List.forall_mem_cons.2 ⟨hmodel, hbefore⟩⟩

/-! ## The loop -/

/-- What the loop over the models has looked at. -/
theorem tryModels_eq_ok {recovery : List ModelLoadRequirement} {rejected : List AdmissionDecision}
    {o : SelectionOutcome} (h : r.tryModels t models recovery rejected = .ok o) :
    r.First t models o.selected := by
  induction models generalizing recovery rejected with
  | nil =>
    obtain rfl := Except.ok.inj h
    exact List.forall_mem_nil _
  | cons model models ih =>
    rw [tryModels] at h
    by_cases hskipped : r.isSkipped t model = true
    · rw [if_pos hskipped] at h
      refine (ih h).cons fun heligible => ?_
      rw [isSkipped_eq_false_iff.2 heligible] at hskipped
      cases hskipped
    rw [if_neg hskipped] at h
    obtain ⟨requirement, hrequirement, h⟩ := bind_eq_ok.1 h
    rcases hevaluable : r.evaluableSample t with _ | sample <;> rw [hevaluable] at h
    · refine (ih h).cons fun _ sample hsample => ?_
      rw [hevaluable] at hsample
      cases hsample
    obtain ⟨admission, hadmission, h⟩ := bind_eq_ok.1 h
    by_cases hadmitted : admission.admitted = true
    · rw [if_pos hadmitted] at h
      obtain rfl := Except.ok.inj h
      obtain rfl := (admitted_iff hadmission).2
      have heligible := isSkipped_eq_false_iff.1 (Bool.not_eq_true _ ▸ hskipped)
      exact ⟨⟨heligible, hrequirement, ⟨sample, hevaluable, hadmission⟩, hadmitted⟩, [], models, rfl,
        List.forall_mem_nil _⟩
    · rw [if_neg hadmitted] at h
      refine (ih h).cons fun _ sample' hsample => ?_
      obtain rfl := Option.some.inj (hevaluable.symm.trans hsample)
      exact ⟨requirement, admission, hrequirement, hadmission, Bool.not_eq_true _ ▸ hadmitted⟩

/-- Every model above the selection is refused. -/
theorem First.refused (h : r.First t descendingModels selected) (heligible : r.Eligible t model)
    (hhigher : selectionRank (selected.map (·.1)) < selectionRank (some model)) : r.Refused t model := by
  have hmem := mem_descendingModels model
  rcases selected with _ | ⟨chosen, admission⟩
  · exact h model hmem heligible
  · obtain ⟨-, before, after, hmodels, hbefore⟩ := h
    have hsorted := descendingModels_sorted
    rw [hmodels] at hmem hsorted
    rcases List.mem_append.1 hmem with hmem | hmem
    · exact hbefore model hmem heligible
    -- What comes after the selection is no larger.
    · have hle : model.rank ≤ chosen.rank := by
        rcases List.mem_cons.1 hmem with rfl | hmem
        · exact le_rfl
        · exact ((List.pairwise_cons.1 (List.pairwise_append.1 hsorted).2.1).1 model hmem).le
      exact absurd (Nat.lt_of_succ_lt_succ hhigher) (not_lt.2 hle)

theorem selectModel_eq_ok {d : ModelDecision} (h : r.selectModel = .ok d) :
    ∃ t o, r.selectionTerms = .ok t ∧ r.First t descendingModels o.selected ∧ d = r.decision t o := by
  rw [selectModel] at h
  obtain ⟨t, hterms, h⟩ := bind_eq_ok.1 h
  obtain ⟨o, houtcome, h⟩ := bind_eq_ok.1 h
  exact ⟨t, o, hterms, tryModels_eq_ok houtcome, (Except.ok.inj h).symm⟩

theorem decision_selectedModel (o : SelectionOutcome) :
    (r.decision t o).selectedModel = o.selected.map (·.1) := by
  rcases hselected : o.selected with _ | ⟨model, admission⟩ <;> rw [decision, hselected] <;> rfl

/-! ## Soundness -/

theorem evaluableSample_eq_some {sample : PressureSample} (h : r.evaluableSample t = some sample) :
    r.selectionSample = some sample := by
  rw [evaluableSample] at h
  split at h
  · cases h
  · exact h

theorem stabilizedUsable_eq_true (h : r.stabilizedUsable = true) :
    ∃ g sample, r.stabilized = some g ∧ r.sample = some sample ∧ ValidReading sample := by
  unfold stabilizedUsable at h
  split at h
  · next g sample _ hg hsample =>
    rw [Bool.and_eq_true, Bool.and_eq_true] at h
    obtain ⟨now, -, hnow⟩ := (Option.any_eq_true _ _).1 h.1.2
    exact ⟨g, sample, hg, hsample, (gpuSampleIsFresh_iff.1 hnow).1⟩
  · cases h

theorem isSmallerReading {sample : PressureSample} (h : r.selectionSample = some sample) :
    r.IsSmallerReading sample := by
  rw [selectionSample] at h
  constructor
  · intro husable
    obtain ⟨g, s, hg, hs, total, free, -, hfree, -⟩ := stabilizedUsable_eq_true husable
    rw [if_pos husable, combinedGpuFree, if_pos husable, hg, hs, Option.bind_some, Option.bind_some, hfree] at h
    exact ⟨g, s, free, hg, hs, hfree, (Option.some.inj h).symm⟩
  · intro hnot
    rwa [hnot, if_neg Bool.false_ne_true] at h

/-! ## More room -/

/-- The reading of the device that something was admitted by is not negative. -/
theorem Loads.free_nonneg (h : r.Loads t model admission) :
    ∀ s free, r.sample = some s → s.gpuFreeBytes = some free → 0 ≤ free := by
  intro s free hs hfree
  by_cases husable : r.stabilizedUsable = true
  · obtain ⟨g, s', -, hs', total, free', -, hfree', -, hpos, -⟩ := stabilizedUsable_eq_true husable
    obtain rfl := Option.some.inj (hs.symm.trans hs')
    obtain rfl := Option.some.inj (hfree.symm.trans hfree')
    exact hpos
  · obtain ⟨sample, hsample, heval⟩ := h.decided
    have hsame := (isSmallerReading (evaluableSample_eq_some hsample)).of_not_usable (Bool.not_eq_true _ ▸ husable)
    obtain rfl := Option.some.inj (hs.symm.trans hsame)
    rw [evaluated, evaluateAdmission] at heval
    -- The free memory of the device is the eighth value to be checked.
    iterate 7 obtain ⟨_, -, heval⟩ := bind_eq_ok.1 heval
    obtain ⟨checked, hchecked, -⟩ := bind_eq_ok.1 heval
    rw [hfree] at hchecked
    exact (optionalBytes_some_eq_ok.1 hchecked).1.1

/-- What one request admits is not refused by a request with more room. -/
theorem Loads.not_refused (h : r.Eases r') (hterms : r.selectionTerms = .ok t) (hterms' : r'.selectionTerms = .ok t')
    (hloads : r.Loads t model admission) : r'.Eligible t' model ∧ ¬r'.Refused t' model := by
  have husable := h.stabilizedUsable hloads.free_nonneg
  obtain ⟨henvelopes, hgpu, hhost, hceiling⟩ := h.terms husable hterms hterms'
  refine ⟨h.eligible husable henvelopes hceiling hloads.eligible, fun hrefused => ?_⟩
  obtain ⟨sample, hsample, hevaluated⟩ := hloads.decided
  have hmore := h.evaluableSample husable hgpu
  rw [hsample] at hmore
  rcases hevaluable : r'.evaluableSample t' with _ | sample' <;> rw [hevaluable] at hmore
  · cases hmore
  rcases hmore with ⟨hmore⟩
  obtain ⟨requirement, admission', hrequirement, hevaluated', hnot⟩ := hrefused sample' hevaluable
  rw [h.envelopeFor husable henvelopes, hloads.requirement] at hrequirement
  obtain rfl := Except.ok.inj hrequirement
  have hsame : r'.evaluated t' = r.evaluated t := by
    funext sample requirement
    rw [evaluated, hgpu, hhost, h.rest, evaluated]
  rw [hsame] at hevaluated'
  rw [admitted_mono hmore hevaluated hevaluated' hloads.admitted] at hnot
  cases hnot

theorem First.selectionRank_le {selected' : Option (ModelSize × AdmissionDecision)} (h : r.Eases r')
    (hterms : r.selectionTerms = .ok t) (hterms' : r'.selectionTerms = .ok t')
    (hfirst : r.First t descendingModels selected) (hfirst' : r'.First t' descendingModels selected') :
    selectionRank (selected.map (·.1)) ≤ selectionRank (selected'.map (·.1)) := by
  rcases selected with _ | ⟨model, admission⟩
  · exact Nat.zero_le _
  · obtain ⟨heligible, hnot⟩ := hfirst.1.not_refused h hterms hterms'
    exact not_lt.1 fun hhigher => hnot (hfirst'.refused heligible hhigher)

/-! ## The selection -/

/-- What is selected may be selected, and is admitted with its own requirement by the smaller one of the
    readings that can be used; no larger model would be; and with more room no smaller model is selected. -/
theorem selection_sound_maximal_monotone (r : SelectionRequest) (d : ModelDecision) (h : r.selectModel = .ok d) :
    ∃ t, r.selectionTerms = .ok t ∧
      (d.admitted = true → ∃ model sample requirement admission, d.selectedModel = some model ∧ r.Eligible t model ∧
        modelLoadRequirement model (r.envelopeFor t model) = .ok requirement ∧
        r.evaluableSample t = some sample ∧ r.IsSmallerReading sample ∧ d.requirement = some requirement ∧
        r.evaluated t sample requirement = .ok admission ∧ admission.admitted = true) ∧
      (∀ model, r.Eligible t model → selectionRank d.selectedModel < selectionRank (some model) →
        r.Refused t model) ∧
      ∀ r' d', r.Eases r' → r'.selectModel = .ok d' →
        selectionRank d.selectedModel ≤ selectionRank d'.selectedModel := by
  obtain ⟨t, o, hterms, hfirst, rfl⟩ := selectModel_eq_ok h
  refine ⟨t, hterms, ?_, ?_, ?_⟩
  · -- The selected model is the first that was admitted, so its own decision is known.
    intro hadmitted
    rcases hselected : o.selected with _ | ⟨model, admission⟩ <;> rw [hselected] at hfirst <;>
      rw [decision, hselected] at hadmitted ⊢
    · cases hadmitted
    · obtain ⟨sample, hsample, hevaluated⟩ := hfirst.1.decided
      exact ⟨model, sample, admission.requirement, admission, rfl, hfirst.1.eligible, hfirst.1.requirement, hsample,
        isSmallerReading (evaluableSample_eq_some hsample), rfl, hevaluated, hfirst.1.admitted⟩
  · -- A larger model was tried before it, and refused.
    intro model heligible hhigher
    rw [decision_selectedModel] at hhigher
    exact hfirst.refused heligible hhigher
  · intro r' d' hmore h'
    obtain ⟨t', o', hterms', hfirst', rfl⟩ := selectModel_eq_ok h'
    rw [decision_selectedModel, decision_selectedModel]
    exact hfirst.selectionRank_le hmore hterms hterms' hfirst'

/-! ## A stabilized reading that is too old -/

/-- A sample of a host with 64 GB and of a device with 24 GB, of which 20 GB are free. -/
def roomySample : PressureSample where
  observedAt := some 100
  hostAvailableBytes := some (48 * gib)
  hostTotalBytes := some (64 * gib)
  cgroupCurrentBytes := none
  cgroupLimitBytes := none
  psiSomeAvg10 := none
  psiFullAvg10 := none
  cgroupOomEvents := none
  cgroupOomKillEvents := none
  hostPsiSomeAvg10 := none
  hostPsiFullAvg10 := none
  cgroupPsiSomeAvg10 := none
  cgroupPsiFullAvg10 := none
  gpuTotalBytes := some (24 * gib)
  gpuFreeBytes := some (20 * gib)
  gpuDeviceId := some "gpu-0"
  gpuObservedAt := some 100
  priorityObservation := none

/-- A reading of now, with 8 GB that are free. -/
def recentReading : StabilizedGpuCapacity where
  deviceId := "gpu-0"
  totalBytes := 24 * gib
  freeBytes := 8 * gib
  observedAt := 100
  device_ne := by decide
  total_valid := by decide
  free_valid := by decide
  observed_nonneg := by decide

/-- A reading of 25 seconds ago, when no memory was free. -/
def earlierReading : StabilizedGpuCapacity :=
  { recentReading with
    freeBytes := 0
    observedAt := 80
    free_valid := by decide
    observed_nonneg := by decide }

/-- A request on a host with room for every model. -/
def roomyRequest (stabilized : StabilizedGpuCapacity) : SelectionRequest where
  capacity := .bytes (some (64 * gib))
  isGpu := true
  sample := some roomySample
  stabilized := some stabilized
  hostReserve := none
  gpuReserveBytes := none
  expectedGpuDevice := some "gpu-0"
  envelopes := []
  canonicalSharedCuda := false
  requireCgroup := false
  now := some 105

theorem selection_sound_maximal_monotone_recent : ∃ d, (roomyRequest recentReading).selectModel = .ok d ∧
    d.selectedModel = some .small ∧ ∀ r' d', (roomyRequest recentReading).Eases r' → r'.selectModel = .ok d' →
      selectionRank (some .small) ≤ selectionRank d'.selectedModel := by
  have hselected : (roomyRequest recentReading).selectModel.map (·.selectedModel) = .ok (some .small) := by
    decide +kernel
  rcases hd : (roomyRequest recentReading).selectModel with e | d <;> rw [hd] at hselected
  · cases hselected
  · have hsmall : d.selectedModel = some .small := Except.ok.inj hselected
    obtain ⟨-, -, -, -, hmore⟩ := selection_sound_maximal_monotone _ d hd
    rw [hsmall] at hmore
    exact ⟨d, rfl, hsmall, hmore⟩

/-- With the smaller one of the two readings the model would not be admitted. -/
theorem admitted_beyond_minimum :
    (roomyRequest earlierReading).selectModel.map (fun d => (d.admitted, d.requirement)) =
        .ok (true, some (fallbackRequirement .small)) ∧
      ((roomyRequest earlierReading).selectionTerms >>= fun t => (roomyRequest earlierReading).evaluated t
        { roomySample with gpuFreeBytes := some (min earlierReading.freeBytes (20 * gib)) }
        (fallbackRequirement .small)).map (·.admitted) = .ok false := by
  constructor <;> decide +kernel

end SelectionRequest

end Subgen

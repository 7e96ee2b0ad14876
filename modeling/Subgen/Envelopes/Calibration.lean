import Subgen.Envelopes.Profiler
import Subgen.Lib.Occurrences

/-!
# Calibration

What a run of the profiler has done, however it ends and whatever the adapter and the controller do
(`Disciplined`):

* a cold cycle comes right behind the admission of the load, and on a cycle follows at once the release of the
  model and, if that returns, the assertion that it is released;
* a catalog is written at most once, after the requested number of cycles with a measurement, and is the one
  that was loaded with the new envelope in the place of the old one.
-/

namespace Subgen

namespace Envelopes

open Procedure Occurrences

variable {sha256 : Sha256}

/-! ## Histories -/

namespace ProfilerEvent

/-- A cold cycle was measured. -/
def isCycle (e : ProfilerEvent sha256) : Bool :=
  match e.call with
  | .measureColdCycle _ _ => true
  | _ => false

/-- A catalog was written. -/
def isWrite (e : ProfilerEvent sha256) : Bool :=
  match e.call with
  | .writeCatalog _ => true
  | _ => false

/-- The measurement that a cycle returned. -/
def measured : ProfilerEvent sha256 → Option ColdCycleMeasurement
  | ⟨.measureColdCycle _ _, .ok (some measurement)⟩ => some measurement
  | _ => none

end ProfilerEvent

/-- The measurements that were returned, in their order. -/
def returned (history : List (ProfilerEvent sha256)) : List ColdCycleMeasurement :=
  (history.filterMap ProfilerEvent.measured).reverse

/-- At first the model is released, and if that returned it is asserted next. -/
def Followed (later : List (ProfilerEvent sha256)) : Prop :=
  ∃ rest released, later = rest ++ [⟨.releaseModel, released⟩] ∧
    ∀ u, released = .ok u → ∃ rest' asserted, rest = rest' ++ [⟨.assertReleased, asserted⟩]

/-- At last the load was admitted. -/
def AdmittedLast (before : List (ProfilerEvent sha256)) : Prop :=
  ∃ sample decision rest, before = ⟨.immediateLoadAdmission sample, .ok decision⟩ :: rest ∧
    decision.admitted = true

/-- The entries of a catalog with a new one, instead of the one for the same key. -/
def replacedEntries (entries : List ModelEnvelope) (envelope : ModelEnvelope) : List ModelEnvelope :=
  entries.filter (fun e => e.matchKey ≠ envelope.matchKey) ++ [envelope]

/-- A catalog with what was loaded and measured before. -/
def Evidenced (request : ProfilerRequest) (before : List (ProfilerEvent sha256))
    (catalog : ModelEnvelopeCatalog sha256) : Prop :=
  ∃ identity input runtime evidence, ⟨.loadIdentity, .ok identity⟩ ∈ before ∧
    ⟨.loadInputCatalog, .ok input⟩ ∈ before ∧ ⟨.runtimeIdentity, .ok runtime⟩ ∈ before ∧
    buildMeasurements (returned before) request.hostMarginBytes.1 request.deviceMarginBytes.1 =
      .ok evidence ∧
    catalog.catalogVersion.1 = input.catalogVersion.1 + 1 ∧
    catalog.entries = replacedEntries input.entries ⟨identity, runtime, request.policy, evidence⟩

/-- What a run has done. -/
structure Disciplined (request : ProfilerRequest) (history : List (ProfilerEvent sha256)) : Prop where
  cycles : Each (fun e => e.isCycle = true) (fun after _ before => Followed after ∧ AdmittedLast before)
    history
  writes : Each (fun e => e.isWrite = true) (fun after e before =>
    (∀ other ∈ after ++ before, other.isWrite = false) ∧ (returned before).length = request.runs ∧
      ∃ catalog, e.call = .writeCatalog catalog ∧ Evidenced request before catalog) history

/-! ## Steady properties -/

/-- A call that starts no cycle and writes nothing. -/
def ProfilerCall.Quiet (call : ProfilerCall sha256) : Prop :=
  ∀ result, (⟨call, result⟩ : ProfilerEvent sha256).isCycle = false ∧
    (⟨call, result⟩ : ProfilerEvent sha256).isWrite = false

/-- A property of histories that other calls do not end. -/
def Steady (I : List (ProfilerEvent sha256) → Prop) : Prop :=
  ∀ e h, e.isCycle = false → e.isWrite = false → I h → I (e :: h)

/-! ## What stays -/

theorem Followed.append {later : List (ProfilerEvent sha256)} (h : Followed later)
    (latest : List (ProfilerEvent sha256)) : Followed (latest ++ later) := by
  obtain ⟨rest, released, rfl, hrest⟩ := h
  refine ⟨latest ++ rest, released, (List.append_assoc ..).symm, fun u hu => ?_⟩
  obtain ⟨rest', asserted, rfl⟩ := hrest u hu
  exact ⟨latest ++ rest', asserted, (List.append_assoc ..).symm⟩

theorem measured_of_not_isCycle {e : ProfilerEvent sha256} (h : e.isCycle = false) : e.measured = none := by
  obtain ⟨call, result⟩ := e
  rcases call with _ | _ | _ | _ | _ | _ | _ | _ | _ | _ | ⟨n, load⟩ | _ | _ | _ | _
  case measureColdCycle => cases h
  all_goals rfl

theorem returned_cons (e : ProfilerEvent sha256) (h : List (ProfilerEvent sha256)) :
    returned (e :: h) = returned h ++ e.measured.toList := by
  rw [returned, returned]
  rcases hmeasured : e.measured with _ | m
  · rw [List.filterMap_cons_none hmeasured, Option.toList_none, List.append_nil]
  · rw [List.filterMap_cons_some hmeasured, List.reverse_cons, Option.toList_some]

/-- Other calls return no measurements. -/
theorem returned_append {later h : List (ProfilerEvent sha256)} (hlater : ∀ e ∈ later, e.isCycle = false) :
    returned (later ++ h) = returned h := by
  induction later with
  | nil => rfl
  | cons e later ih =>
    obtain ⟨he, hlater⟩ := List.forall_mem_cons.1 hlater
    rw [List.cons_append, returned_cons, measured_of_not_isCycle he, ih hlater]
    exact List.append_nil _

/-- The loop over the cycles: nothing is written yet, and the measurements are those that were returned. -/
structure Cycling (C : List (ProfilerEvent sha256) → Prop) (measurements : List ColdCycleMeasurement)
    (h : List (ProfilerEvent sha256)) : Prop where
  cycles : Each (fun e => e.isCycle = true) (fun after _ before => Followed after ∧ AdmittedLast before) h
  noWrite : ∀ e ∈ h, e.isWrite = false
  returned_eq : returned h = measurements
  context : C h

theorem lasting_followed : Lasting (fun e : ProfilerEvent sha256 => e.isCycle = true)
    (fun after _ before => Followed after ∧ AdmittedLast before) :=
  fun e' _ _ _ _ h => ⟨h.1.append [e'], h.2⟩

variable {C : List (ProfilerEvent sha256) → Prop} {measurements : List ColdCycleMeasurement}
  {h : List (ProfilerEvent sha256)}

theorem steady_cycling (hC : ∀ e h, C h → C (e :: h)) : Steady (Cycling C measurements) := by
  intro e h hcycle hwrite hh
  refine ⟨hh.cycles.cons lasting_followed (by simp [hcycle]), ?_, ?_, hC e h hh.context⟩
  · exact List.forall_mem_cons.2 ⟨hwrite, hh.noWrite⟩
  · rw [returned_cons, measured_of_not_isCycle hcycle, hh.returned_eq]
    exact List.append_nil _

/-- A cycle behind an admission, with the release that follows on it. -/
theorem Cycling.append_cycle (hC : ∀ e h, C h → C (e :: h)) (hh : Cycling C measurements h)
    (hadmitted : AdmittedLast h) {e : ProfilerEvent sha256} (hcycle : e.isCycle = true)
    (hwrite : e.isWrite = false) {later : List (ProfilerEvent sha256)}
    (hlater : ∀ e ∈ later, e.isCycle = false ∧ e.isWrite = false) (hfollowed : Followed later) :
    Cycling C (measurements ++ e.measured.toList) (later ++ e :: h) where
  cycles := by
    refine hh.cycles.append_cons (fun e he => ?_) ⟨hfollowed, hadmitted⟩ fun after e' before _ hlast => ?_
    · rw [(hlater e he).1]
      exact Bool.false_ne_true
    · exact ⟨(hlast.1.append [e]).append later, hlast.2⟩
  noWrite := by
    simp only [List.mem_append, List.mem_cons]
    rintro e' (he' | rfl | he')
    · exact (hlater e' he').2
    · exact hwrite
    · exact hh.noWrite e' he'
  returned_eq := by
    rw [returned_append fun e he => (hlater e he).1, returned_cons, hh.returned_eq]
  context := by
    clear hlater hfollowed
    induction later with
    | nil => exact hC e h hh.context
    | cons e' later ih => exact hC e' _ ih

namespace ProfilerEnvironment

variable {env : ProfilerEnvironment sha256} {request : ProfilerRequest}
  {I : List (ProfilerEvent sha256) → Prop}

theorem ensures_ask {call : ProfilerCall sha256} {h : List (ProfilerEvent sha256)}
    {Q : call.Answer → List (ProfilerEvent sha256) → Prop}
    {E : ProfilerRaised → List (ProfilerEvent sha256) → Prop}
    (hQ : ∀ a, Q a (⟨call, .ok a⟩ :: h)) (hE : ∀ e, E e (⟨call, .error e⟩ :: h)) :
    Ensures (env.ask call) h Q E := by
  rw [Ensures, ask]
  rcases env.answer h call with e | a
  · exact hE e
  · exact hQ a

theorem preserves_ask (hI : Steady I) {call : ProfilerCall sha256} (hcall : call.Quiet) :
    Preserves I (env.ask call) := fun h hh =>
  ensures_ask (fun _ => hI _ h (hcall _).1 (hcall _).2 hh) fun _ => hI _ h (hcall _).1 (hcall _).2 hh

theorem preserves_configuredPriorityReader (hI : Steady I) :
    Preserves I (env.configuredPriorityReader request) := by
  refine preserves_bind (preserves_ask hI fun _ => ⟨rfl, rfl⟩) fun reader => ?_
  rcases reader with _ | _ | _
  · exact preserves_ite (fun _ => preserves_throw _) fun _ => preserves_pure _
  · exact preserves_throw _
  · exact preserves_pure _

theorem preserves_buildPressureController (hI : Steady I) (reader : Option Bool) (inputs : AdmissionInputs)
    (requirement : ModelLoadRequirement) :
    Preserves I (env.buildPressureController request reader inputs requirement) :=
  preserves_ite
    (fun _ => preserves_bind (preserves_configuredPriorityReader hI) fun _ => preserves_ofExcept _)
    fun _ => preserves_ofExcept _

theorem preserves_waitForProfilingCapacity (hI : Steady I) :
    Preserves I (env.waitForProfilingCapacity request) := by
  have hassert : Preserves I (env.ask .assertReleased) := preserves_ask hI fun _ => ⟨rfl, rfl⟩
  have hwait : Preserves I (env.ask .waitForRecovery) := preserves_ask hI fun _ => ⟨rfl, rfl⟩
  refine preserves_bind hassert fun _ => preserves_bind (preserves_attempt hwait) fun result => ?_
  rcases result with e | _ | _
  · rcases e with _ | _ | _ | _ | _ | decision | _ | _ | _ | _ | _
    case explicitModelCapacityRefusal =>
      exact preserves_bind hassert fun _ => preserves_bind (preserves_ofExcept _) fun _ => preserves_pure _
    all_goals exact preserves_throw _
  · exact preserves_throw _
  · exact preserves_pure _

theorem preserves_admitModel (hI : Steady I) (runtime : RuntimeIdentity) (requirement : ModelLoadRequirement)
    (rounds : ℕ) : Preserves I (env.admitModel request runtime requirement rounds) := by
  have hassert : Preserves I (env.ask .assertReleased) := preserves_ask hI fun _ => ⟨rfl, rfl⟩
  induction rounds with
  | zero => exact preserves_throw _
  | succ rounds ih =>
    refine preserves_bind (preserves_waitForProfilingCapacity hI) fun refusal => ?_
    rcases refusal with _ | refusal
    · refine preserves_bind (preserves_ask hI fun _ => ⟨rfl, rfl⟩) fun inputs => ?_
      refine preserves_bind (preserves_ofExcept _) fun _ => preserves_bind (preserves_ofExcept _) fun _ => ?_
      refine preserves_bind (preserves_ask hI fun _ => ⟨rfl, rfl⟩) fun admission => ?_
      refine preserves_ite (fun _ => ih) fun _ => preserves_bind (preserves_ofExcept _) fun explicit => ?_
      refine preserves_ite (fun _ => preserves_throw _) fun _ => preserves_ite (fun _ => ?_) fun _ =>
        preserves_ite (fun _ => ?_) fun _ => preserves_pure _
      · exact preserves_bind hassert fun _ => preserves_bind (preserves_ofExcept _) fun _ => preserves_pure _
      · exact preserves_bind hassert fun _ => preserves_bind (preserves_ofExcept _) fun _ => preserves_pure _
    · exact preserves_pure _

/-- How a cycle ends: with its measurement, or without one. -/
def MeasuredIn (C : List (ProfilerEvent sha256) → Prop) (measurements : List ColdCycleMeasurement) :
    CycleEnd → List (ProfilerEvent sha256) → Prop
  | .measured measurement, h => Cycling C (measurements ++ [measurement]) h
  | _, h => Cycling C measurements h

/-- A cycle that is admitted, whatever comes of it. -/
theorem ensures_coldCycle (hC : ∀ e h, C h → C (e :: h)) (hh : Cycling C measurements h)
    (hadmitted : AdmittedLast h) (runNumber : ℕ) (freshLoad : FreshLoadInputs) :
    Ensures (env.coldCycle runNumber freshLoad) h (MeasuredIn C measurements)
      (fun _ h' => ∃ measurements', Cycling C measurements' h') := by
  -- The release fails, or the assertion comes next, and fails or not.
  have hend (result : Except ProfilerRaised (Option ColdCycleMeasurement)) :
      Ensures (do env.ask .releaseModel; env.ask .assertReleased; cycleEnd result)
        (⟨.measureColdCycle runNumber freshLoad, result⟩ :: h) (MeasuredIn C measurements)
        (fun _ h' => ∃ measurements', Cycling C measurements' h') := by
    have hblock (later : List (ProfilerEvent sha256))
        (hlater : ∀ e ∈ later, e.isCycle = false ∧ e.isWrite = false) (hfollowed : Followed later) :=
      hh.append_cycle hC hadmitted (e := ⟨.measureColdCycle runNumber freshLoad, result⟩) rfl rfl hlater
        hfollowed
    rw [ensures_bind]
    refine ensures_ask (fun released => ?_) fun e => ?_
    · rw [ensures_bind]
      refine ensures_ask (fun asserted => ?_) fun e => ?_
      · have hcycling := hblock [⟨.assertReleased, .ok asserted⟩, ⟨.releaseModel, .ok released⟩]
          (by simp [ProfilerEvent.isCycle, ProfilerEvent.isWrite])
          ⟨_, .ok released, rfl, fun _ _ => ⟨[], .ok asserted, rfl⟩⟩
        rcases result with e | _ | measurement
        · replace hcycling := (List.append_nil measurements) ▸ hcycling
          rcases e with _ | _ | _ | _ | _ | _ | _ | _ | _ | _ | _ <;>
            first | exact hcycling | exact ⟨_, hcycling⟩
        · exact ⟨_, hcycling⟩
        · exact hcycling
      · exact ⟨_, hblock [⟨.assertReleased, .error e⟩, ⟨.releaseModel, .ok released⟩]
          (by simp [ProfilerEvent.isCycle, ProfilerEvent.isWrite])
          ⟨_, .ok released, rfl, fun _ _ => ⟨[], .error e, rfl⟩⟩⟩
    · exact ⟨_, hblock [⟨.releaseModel, .error e⟩]
        (by simp [ProfilerEvent.isCycle, ProfilerEvent.isWrite]) ⟨[], .error e, rfl, nofun⟩⟩
  rw [coldCycle, ensures_bind, ensures_attempt]
  exact ensures_ask (fun a => hend (.ok a)) fun e => hend (.error e)

/-- The loop ends with as many measurements as are asked for, or with a refusal. -/
theorem ensures_coldCycles (hC : ∀ e h, C h → C (e :: h)) (inputs : AdmissionInputs)
    (runtime : RuntimeIdentity) (rounds : ℕ) (hle : measurements.length ≤ request.runs) (hh : Cycling C measurements h) :
    Ensures (env.coldCycles request inputs runtime rounds (measurements.length + 1) measurements) h
      (fun r h' => ∃ measurements', Cycling C measurements' h' ∧
        ∀ all, r = .inr all → all = measurements' ∧ measurements'.length = request.runs)
      (fun _ h' => ∃ measurements', Cycling C measurements' h') := by
  induction rounds generalizing measurements h with
  | zero => exact ⟨_, hh⟩
  | succ rounds ih =>
    have hraised (e : ProfilerRaised) (h' : List (ProfilerEvent sha256)) (hh' : Cycling C measurements h') :
        ∃ measurements', Cycling C measurements' h' := ⟨_, hh'⟩
    have hsteady : Steady (Cycling C measurements) := steady_cycling hC
    rw [coldCycles, ensures_ite]
    refine ⟨fun hmore => ?_, fun hmore => ?_⟩
    · refine ⟨_, hh, fun all hall => ?_⟩
      obtain rfl := Sum.inr.inj hall
      exact ⟨rfl, by omega⟩
    refine ensures_bind_of_preserves (preserves_ask hsteady fun _ => ⟨rfl, rfl⟩) hh (fun _ h hh => ?_) hraised
    refine ensures_bind_of_preserves (preserves_waitForProfilingCapacity hsteady) hh (fun refusal h hh => ?_)
      hraised
    rcases refusal with _ | refusal
    · refine ensures_bind_of_preserves (preserves_ask hsteady fun _ => ⟨rfl, rfl⟩) hh
        (fun freshLoad h hh => ?_) hraised
      refine ensures_bind_of_preserves (preserves_ofExcept _) hh (fun _ h hh => ?_) hraised
      rw [ensures_bind]
      refine ensures_ask (fun admission => ?_) fun e => ⟨_, hsteady _ h rfl rfl hh⟩
      have hasked := hsteady ⟨.immediateLoadAdmission freshLoad.sample, .ok admission⟩ h rfl rfl hh
      refine ensures_ite.2 ⟨fun hadmitted => ?_, fun _ => ensures_ite.2 ⟨fun _ => ih hle hasked, fun _ => ?_⟩⟩
      · -- The last event is an admission, so that the cycle may load the model now.
        have hlast : AdmittedLast _ := ⟨freshLoad.sample, admission, h, rfl, hadmitted⟩
        refine ensures_bind.2 ((ensures_coldCycle hC hasked hlast _ freshLoad).mono (fun ended h' hended => ?_)
          fun _ _ h => h)
        rcases ended with measurement | _ | _
        · have hlength : (measurements ++ [measurement]).length ≤ request.runs := by
            rw [List.length_append, List.length_singleton]
            omega
          have hrest := ih hlength hended
          rwa [List.length_append, List.length_singleton] at hrest
        · exact ensures_bind_of_preserves (preserves_ask hsteady fun _ => ⟨rfl, rfl⟩) hended
            (fun _ h hh => ih hle hh) hraised
        · exact ⟨_, hended, nofun⟩
      · exact ensures_bind_of_preserves (preserves_ofExcept _) hasked (fun _ h hh => ⟨_, hh, nofun⟩) hraised
    · exact ⟨_, hh, nofun⟩

end ProfilerEnvironment

/-! ## The write -/

section

variable {request : ProfilerRequest}

theorem Cycling.disciplined (hh : Cycling C measurements h) : Disciplined request h where
  cycles := hh.cycles
  writes := each_of_forall fun e he => by simp [hh.noWrite e he]

theorem buildCatalog_eq_ok {version : ℤ} {entries : List ModelEnvelope} {built : ModelEnvelopeCatalog sha256}
    (hbuilt : buildCatalog sha256 version entries = .ok built) :
    built.catalogVersion.1 = version ∧ built.entries = entries := by
  obtain ⟨positiveVersion, hversion, hbuilt⟩ := bind_eq_ok.1 hbuilt
  rw [positive] at hversion
  split_ifs at hversion with hpositive
  obtain rfl := Except.ok.inj hversion
  split_ifs at hbuilt
  rw [modelEnvelopeCatalog] at hbuilt
  split_ifs at hbuilt
  obtain rfl := Except.ok.inj hbuilt
  exact ⟨rfl, rfl⟩

/-- The preserved entries are those of other keys. -/
theorem stagedCatalog_eq_ok {input staged : ModelEnvelopeCatalog sha256} {envelope : ModelEnvelope}
    {replaced : Bool} (hstaged : ProfilerEnvironment.stagedCatalog input envelope = .ok (staged, replaced)) :
    staged.catalogVersion.1 = input.catalogVersion.1 + 1 ∧
      staged.entries = replacedEntries input.entries envelope := by
  rw [ProfilerEnvironment.stagedCatalog] at hstaged
  split_ifs at hstaged
  obtain ⟨built, hbuilt, hpair⟩ := bind_eq_ok.1 hstaged
  obtain rfl : built = staged := congrArg Prod.fst (Except.ok.inj hpair)
  have hok : buildCatalog sha256 (input.catalogVersion.1 + 1) (input.entries.filter
      (· ∉ input.entries.filter fun e => e.matchKey = envelope.matchKey) ++ [envelope]) = .ok built := by
    rcases hresult : buildCatalog sha256 _ _ with e | built'
    · rw [hresult] at hbuilt
      cases hbuilt
    · rw [hresult] at hbuilt
      exact congrArg _ (Except.ok.inj hbuilt)
  obtain ⟨hversion, hentries⟩ := buildCatalog_eq_ok hok
  refine ⟨hversion, hentries.trans ?_⟩
  rw [replacedEntries]
  congr 1
  refine List.filter_congr fun e he => ?_
  simp [he]

theorem disciplined_write {staged : ModelEnvelopeCatalog sha256} (hh : Cycling C measurements h)
    (hlength : measurements.length = request.runs) (hevidenced : Evidenced request h staged)
    (result : Except ProfilerRaised Unit) : Disciplined request (⟨.writeCatalog staged, result⟩ :: h) where
  cycles := hh.cycles.cons lasting_followed Bool.false_ne_true
  writes := by
    intro after e before heq hwrite
    rcases List.cons_eq_append_iff.1 heq with ⟨rfl, hcons⟩ | ⟨later, rfl, hrest⟩
    · obtain ⟨rfl, rfl⟩ := List.cons.inj hcons
      exact ⟨hh.noWrite, hh.returned_eq ▸ hlength, staged, rfl, hevidenced⟩
    · have hnone := hh.noWrite e (hrest ▸ List.mem_append_right _ List.mem_cons_self)
      rw [hnone] at hwrite
      cases hwrite

theorem steady_disciplined :
    Steady fun h : List (ProfilerEvent sha256) => Disciplined request h := by
  intro e h hcycle hwrite hh
  refine ⟨hh.cycles.cons lasting_followed (by simp [hcycle]), hh.writes.cons ?_ (by simp [hwrite])⟩
  rintro e' after e before hother ⟨hnone, hlast⟩
  exact ⟨List.forall_mem_cons.2 ⟨Bool.eq_false_iff.2 hother, hnone⟩, hlast⟩

end

namespace ProfilerEnvironment

variable (env : ProfilerEnvironment sha256) (request : ProfilerRequest)

/-- What the new catalog is made of, besides the measurements. -/
def Loaded (identity : ImageIdentity) (input : ModelEnvelopeCatalog sha256) (runtime : RuntimeIdentity)
    (h : List (ProfilerEvent sha256)) : Prop :=
  ⟨.loadIdentity, .ok identity⟩ ∈ h ∧ ⟨.loadInputCatalog, .ok input⟩ ∈ h ∧ ⟨.runtimeIdentity, .ok runtime⟩ ∈ h

/-- Behind the loop over the cycles. -/
theorem ensures_commit {identity : ImageIdentity} {input : ModelEnvelopeCatalog sha256}
    {runtime : RuntimeIdentity} {measurements : List ColdCycleMeasurement} {h : List (ProfilerEvent sha256)}
    (hh : Cycling (Loaded identity input runtime) measurements h)
    (hlength : measurements.length = request.runs) :
    Ensures (env.commit request identity input runtime measurements) h (fun _ => Disciplined request)
      (fun _ => Disciplined request) := by
  have hsteady : Steady fun h : List (ProfilerEvent sha256) => Disciplined request h := steady_disciplined
  rw [commit, ensures_bind, ensures_ofExcept]
  refine ⟨fun evidence hevidence => ?_, fun _ _ => hh.disciplined⟩
  rw [ensures_bind, ensures_ofExcept]
  refine ⟨fun staged hstaged => ?_, fun _ _ => hh.disciplined⟩
  obtain ⟨hversion, hentries⟩ := stagedCatalog_eq_ok hstaged
  have hevidenced : Evidenced request h staged.1 := by
    refine ⟨identity, input, runtime, evidence, hh.context.1, hh.context.2.1, hh.context.2.2, ?_, hversion,
      hentries⟩
    rw [hh.returned_eq]
    exact hevidence
  have hwritten := disciplined_write hh hlength hevidenced
  refine ensures_bind.2 (ensures_ask (fun a => ?_) fun e => hwritten (.error e))
  refine ensures_bind_of_preserves (preserves_ask hsteady fun _ => ⟨rfl, rfl⟩) (hwritten (.ok a))
    (fun reloaded h hh => ?_) fun _ _ hh => hh
  exact ensures_ite.2 ⟨fun _ => hh, fun _ => hh⟩

/-- However a run ends, and however long it was, it is disciplined. -/
theorem disciplined_profileModelEnvelope (rounds : ℕ) :
    Disciplined request (after (env.profileModelEnvelope request rounds) []) := by
  refine ensures_iff_after.1 ?_
  have hraised {C : List (ProfilerEvent sha256) → Prop} (e : ProfilerRaised) (h : List (ProfilerEvent sha256))
      (hh : Cycling C [] h) : Disciplined request h := hh.disciplined
  have hstart : Cycling (fun _ : List (ProfilerEvent sha256) => True) [] [] :=
    ⟨each_of_forall fun e he => absurd he List.not_mem_nil, fun e he => absurd he List.not_mem_nil, rfl,
      trivial⟩
  have hsteady : Steady (Cycling (fun _ : List (ProfilerEvent sha256) => True) []) :=
    steady_cycling fun _ _ _ => trivial
  rw [profileModelEnvelope]
  refine ensures_bind_of_preserves (preserves_configuredPriorityReader hsteady) hstart
    (fun reader h hh => ?_) hraised
  -- The three calls that the catalog is made of later.
  refine ensures_bind.2 (ensures_ask (fun identity => ?_) fun e => hraised e _ (hsteady _ _ rfl rfl hh))
  replace hh := hsteady ⟨.loadIdentity, .ok identity⟩ _ rfl rfl hh
  refine ensures_bind.2 (ensures_ask (fun input => ?_) fun e => hraised e _ (hsteady _ _ rfl rfl hh))
  replace hh := hsteady ⟨.loadInputCatalog, .ok input⟩ _ rfl rfl hh
  refine ensures_bind.2 (ensures_ask (fun runtime => ?_) fun e => hraised e _ (hsteady _ _ rfl rfl hh))
  replace hh := hsteady ⟨.runtimeIdentity, .ok runtime⟩ _ rfl rfl hh
  have hloaded : Cycling (Loaded identity input runtime) [] _ :=
    ⟨hh.cycles, hh.noWrite, hh.returned_eq, by simp [Loaded]⟩
  have hC : ∀ e h, Loaded identity input runtime h → Loaded identity input runtime (e :: h) :=
    fun e h hh => ⟨List.mem_cons_of_mem _ hh.1, List.mem_cons_of_mem _ hh.2.1, List.mem_cons_of_mem _ hh.2.2⟩
  have hsteady : Steady (Cycling (Loaded identity input runtime) []) := steady_cycling hC
  refine ensures_bind_of_preserves (preserves_ask hsteady fun _ => ⟨rfl, rfl⟩) hloaded
    (fun _ h hh => ?_) hraised
  refine ensures_bind_of_preserves (preserves_ask hsteady fun _ => ⟨rfl, rfl⟩) hh
    (fun inputs h hh => ?_) hraised
  refine ensures_bind_of_preserves (preserves_ofExcept _) hh (fun _ h hh => ?_) hraised
  refine ensures_ite.2 ⟨fun _ => hh.disciplined, fun _ => ?_⟩
  refine ensures_bind_of_preserves (preserves_ofExcept _) hh (fun requirement h hh => ?_) hraised
  refine ensures_bind_of_preserves (preserves_buildPressureController hsteady _ _ _) hh
    (fun _ h hh => ?_) hraised
  refine ensures_bind_of_preserves (preserves_admitModel hsteady _ _ _) hh (fun admitted h hh => ?_) hraised
  rcases admitted with refusal | inputs
  · exact hh.disciplined
  refine ensures_bind_of_preserves (preserves_ask hsteady fun _ => ⟨rfl, rfl⟩) hh (fun _ h hh => ?_) hraised
  refine ensures_bind.2 ((ensures_coldCycles hC inputs runtime rounds (Nat.zero_le _) hh).mono
    (fun ended h' hended => ?_) fun _ h' hended => ?_)
  · obtain ⟨measurements, hh, hall⟩ := hended
    rcases ended with refusal | all
    · exact hh.disciplined
    · obtain ⟨rfl, hlength⟩ := hall all rfl
      exact ensures_commit env request hh hlength
  · obtain ⟨measurements, hh⟩ := hended
    exact hh.disciplined

end ProfilerEnvironment

/-! ## The figures -/

section

variable {values : List ℤ} {value : ℤ}

theorem maximum_mem (hne : values ≠ []) : maximum values ∈ values := by
  obtain ⟨greatest, hgreatest⟩ := Option.ne_none_iff_exists'.1 (List.max?_eq_none_iff.not.2 hne)
  rw [maximum, hgreatest]
  exact List.max?_mem hgreatest

theorem le_maximum (hvalue : value ∈ values) : value ≤ maximum values := by
  obtain ⟨greatest, hgreatest⟩ :=
    Option.ne_none_iff_exists'.1 (List.max?_eq_none_iff.not.2 (List.ne_nil_of_mem hvalue))
  rw [maximum, hgreatest]
  exact (List.max?_le_iff hgreatest).1 le_rfl value hvalue

end

theorem ResourceUsage.used_bounds (u : ResourceUsage) (domain : Domain) :
    0 < u.used domain ∧ u.used domain ≤ maxBytes := by
  rcases domain with _ | _ | _
  · exact u.hostUsedBytes.2
  · exact u.cgroupUsedBytes.2
  · exact u.deviceUsedBytes.2

/-- What a cycle took in a domain. -/
def ColdCycleMeasurement.growth (m : ColdCycleMeasurement) (domain : Domain) : ℤ :=
  m.peak.used domain - m.preload.used domain

theorem ColdCycleMeasurement.growth_nonneg (m : ColdCycleMeasurement) (domain : Domain) :
    0 ≤ m.growth domain := sub_nonneg.2 (m.preload_le_peak domain)

section

variable {cycles : List ColdCycleMeasurement} {domain : Domain}

/-- The greatest growth of the cycles. -/
theorem pairedIncrementalPeakBytes_eq (hne : cycles ≠ []) (domain : Domain) :
    pairedIncrementalPeakBytes (cycles.map (·.preload.used domain)) (cycles.map (·.peak.used domain)) =
      .ok (maximum (cycles.map (·.growth domain))) := by
  have hlengths : ¬ (cycles.map (·.preload.used domain) = [] ∨ (cycles.map (·.preload.used domain)).length ≠
      (cycles.map (·.peak.used domain)).length) := by
    simp [hne]
  have hbounds : ¬ ∃ value ∈ cycles.map (·.preload.used domain) ++ cycles.map (·.peak.used domain),
      ¬ (0 ≤ value ∧ value ≤ maxBytes) := by
    rintro ⟨value, hmem, hvalue⟩
    rcases List.mem_append.1 hmem with hmem | hmem
    · obtain ⟨m, -, rfl⟩ := List.mem_map.1 hmem
      exact hvalue ⟨(m.preload.used_bounds domain).1.le, (m.preload.used_bounds domain).2⟩
    · obtain ⟨m, -, rfl⟩ := List.mem_map.1 hmem
      exact hvalue ⟨(m.peak.used_bounds domain).1.le, (m.peak.used_bounds domain).2⟩
  rw [pairedIncrementalPeakBytes, if_neg hlengths, if_neg hbounds, List.zip_map', List.map_map]
  congr 2
  exact List.map_congr_left fun m _ => max_eq_right (m.growth_nonneg domain)

/-- The figures of a domain pass the check of `EnvelopeMeasurements`. -/
theorem figures_valid (hne : cycles ≠ []) (hgrew : ∃ m ∈ cycles, 0 < m.growth domain) :
    0 < maximum (cycles.map (·.preload.used domain)) ∧ 0 < maximum (cycles.map (·.growth domain)) ∧
      maximum (cycles.map (·.preload.used domain)) ≤ maximum (cycles.map (·.peak.used domain)) ∧
      maximum (cycles.map (·.peak.used domain)) - maximum (cycles.map (·.preload.used domain)) ≤
        maximum (cycles.map (·.growth domain)) ∧
      maximum (cycles.map (·.growth domain)) ≤ maximum (cycles.map (·.peak.used domain)) := by
  have hmap (f : ColdCycleMeasurement → ℤ) : cycles.map f ≠ [] := by simpa using hne
  have hle (f : ColdCycleMeasurement → ℤ) (m) (hm : m ∈ cycles) : f m ≤ maximum (cycles.map f) :=
    le_maximum (List.mem_map_of_mem hm)
  obtain ⟨low, hlow, hlow_eq⟩ := List.mem_map.1 (maximum_mem (hmap (·.preload.used domain)))
  obtain ⟨high, hhigh, hhigh_eq⟩ := List.mem_map.1 (maximum_mem (hmap (·.peak.used domain)))
  obtain ⟨most, hmost, hmost_eq⟩ := List.mem_map.1 (maximum_mem (hmap (·.growth domain)))
  obtain ⟨grown, hgrown, hgrowth⟩ := hgrew
  rw [← hlow_eq, ← hhigh_eq, ← hmost_eq]
  have hlow_peak := (low.preload_le_peak domain).trans (hle (·.peak.used domain) low hlow)
  have hhigh_preload := hle (·.preload.used domain) high hhigh
  have hhigh_growth := hle (·.growth domain) high hhigh
  have hmost_peak := hle (·.peak.used domain) most hmost
  have hgrown_growth := hle (·.growth domain) grown hgrown
  have hmost_preload := (most.preload.used_bounds domain).1
  have hlow_preload := (low.preload.used_bounds domain).1
  simp only [ColdCycleMeasurement.growth] at *
  refine ⟨hlow_preload, ?_, ?_, ?_, ?_⟩ <;> omega

/-- The fields of an envelope are accepted. -/
theorem envelopeMeasurements_eq_ok (m : EnvelopeMeasurements) :
    envelopeMeasurements ⟨m.runs.1, m.hostPreloadUsedBytes.1, m.hostPeakUsedBytes.1,
      m.cgroupPreloadUsedBytes.1, m.cgroupPeakUsedBytes.1, m.devicePreloadUsedBytes.1, m.devicePeakUsedBytes.1,
      m.hostIncrementalPeakBytes.1, m.cgroupIncrementalPeakBytes.1, m.deviceIncrementalPeakBytes.1,
      m.hostMarginBytes.1, m.deviceMarginBytes.1⟩ = .ok m :=
  bind_eq_ok.2 ⟨m.toMeasurementFields,
    traverse_eq_ok (g := fun n : PositiveInt => n.1) (fun n _ => dif_pos n.2) _, measurementsOf_eq_ok m⟩

/-- The figure of the increment in a domain. -/
def EnvelopeMeasurements.incremental (m : EnvelopeMeasurements) : Domain → ℤ
  | .host => m.hostIncrementalPeakBytes.1
  | .cgroup => m.cgroupIncrementalPeakBytes.1
  | .device => m.deviceIncrementalPeakBytes.1

/-- Enough cycles, that took something in every domain, are an envelope. -/
theorem exists_buildMeasurements (hlength : minimumColdCycles ≤ cycles.length)
    (hgrew : ∀ domain, ∃ m ∈ cycles, 0 < m.growth domain) (hostMargin deviceMargin : PositiveBytes) :
    ∃ measurements, buildMeasurements cycles hostMargin.1 deviceMargin.1 = .ok measurements ∧
      ∀ domain, measurements.incremental domain = maximum (cycles.map (·.growth domain)) := by
  have hpos : 0 < cycles.length := lt_of_lt_of_le (by decide) hlength
  have hne : cycles ≠ [] := List.ne_nil_of_length_pos hpos
  have hfigures (domain : Domain) := figures_valid hne (hgrew domain)
  have hpeak (domain : Domain) : 0 < maximum (cycles.map (·.peak.used domain)) :=
    (hfigures domain).1.trans_le (hfigures domain).2.2.1
  let measurements : EnvelopeMeasurements :=
    { runs := ⟨cycles.length, Int.natCast_pos.2 hpos⟩
      hostPreloadUsedBytes := ⟨_, (hfigures .host).1⟩
      hostPeakUsedBytes := ⟨_, hpeak .host⟩
      cgroupPreloadUsedBytes := ⟨_, (hfigures .cgroup).1⟩
      cgroupPeakUsedBytes := ⟨_, hpeak .cgroup⟩
      devicePreloadUsedBytes := ⟨_, (hfigures .device).1⟩
      devicePeakUsedBytes := ⟨_, hpeak .device⟩
      hostIncrementalPeakBytes := ⟨_, (hfigures .host).2.1⟩
      cgroupIncrementalPeakBytes := ⟨_, (hfigures .cgroup).2.1⟩
      deviceIncrementalPeakBytes := ⟨_, (hfigures .device).2.1⟩
      hostMarginBytes := ⟨hostMargin.1, hostMargin.2.1⟩
      deviceMarginBytes := ⟨deviceMargin.1, deviceMargin.2.1⟩
      runs_ge := Int.ofNat_le.2 hlength
      host := (hfigures .host).2.2
      cgroup := (hfigures .cgroup).2.2
      device := (hfigures .device).2.2 }
  refine ⟨measurements, ?_, ?_⟩
  · rw [buildMeasurements, if_neg (not_lt.2 hlength)]
    refine bind_eq_ok.2 ⟨_, pairedIncrementalPeakBytes_eq hne .host, ?_⟩
    refine bind_eq_ok.2 ⟨_, pairedIncrementalPeakBytes_eq hne .cgroup, ?_⟩
    refine bind_eq_ok.2 ⟨_, pairedIncrementalPeakBytes_eq hne .device, ?_⟩
    exact congrArg (Except.mapError ProfilerRaised.artifactValidationError)
      (envelopeMeasurements_eq_ok measurements)
  · rintro (_ | _ | _) <;> rfl

end

/-- Only what was measured and released is committed, however a run goes, and enough cycles that took
    something in every domain are an envelope with, as its increments, the greatest growth of a cycle. -/
theorem calibration_complete :
    (∀ (sha256 : Sha256) (env : ProfilerEnvironment sha256) (request : ProfilerRequest) (rounds : ℕ),
      Disciplined request (after (env.profileModelEnvelope request rounds) [])) ∧
    ∀ (cycles : List ColdCycleMeasurement) (hostMargin deviceMargin : PositiveBytes),
      minimumColdCycles ≤ cycles.length → (∀ domain, ∃ m ∈ cycles, 0 < m.growth domain) →
      ∃ measurements, buildMeasurements cycles hostMargin.1 deviceMargin.1 = .ok measurements ∧
        ∀ domain, (∃ m ∈ cycles, measurements.incremental domain = m.growth domain) ∧
          ∀ m ∈ cycles, m.growth domain ≤ measurements.incremental domain := by
  refine ⟨fun _ env request rounds => env.disciplined_profileModelEnvelope request rounds, ?_⟩
  intro cycles hostMargin deviceMargin hlength hgrew
  obtain ⟨measurements, hbuilt, hincremental⟩ :=
    exists_buildMeasurements hlength hgrew hostMargin deviceMargin
  refine ⟨measurements, hbuilt, fun domain => ?_⟩
  obtain ⟨grown, hgrown, -⟩ := hgrew domain
  rw [hincremental]
  refine ⟨?_, fun m hm => le_maximum (List.mem_map_of_mem hm)⟩
  -- The greatest growth is the growth of one of the cycles.
  obtain ⟨m, hm, hmaximum⟩ := List.mem_map.1 (maximum_mem (List.ne_nil_of_mem
    (List.mem_map_of_mem (f := (·.growth domain)) hgrown)))
  exact ⟨m, hm, hmaximum.symm⟩

/-! ## A calibration -/

/-- The same usage in all domains. -/
def ResourceUsage.uniform (n : PositiveBytes) : ResourceUsage := ⟨n, n, n⟩

/-- The cycles of the calibration below: they took two bytes, three bytes and again two. -/
def smallCycle (runNumber : ℕ) : ColdCycleMeasurement where
  preload := .uniform ⟨1, by decide⟩
  peak := if runNumber = 2 then .uniform ⟨4, by decide⟩ else .uniform ⟨3, by decide⟩
  preload_le_peak domain := by split_ifs <;> rcases domain with _ | _ | _ <;> decide

/-- A digest of zeros. -/
def zeroDigest : Digest := ⟨text "sha256:" ++ List.replicate 64 48, by decide⟩

/-- An image with one layer. -/
def tinyImage : ImageIdentity := ⟨zeroDigest, [zeroDigest], by decide, by decide⟩

/-- The versions of the runtime that the tiny model is measured on. -/
def tinyRuntime : RuntimeIdentity where
  stableTsVersion := ⟨text "2.19.0", by decide⟩
  fasterWhisperVersion := ⟨text "1.1.1", by decide⟩
  ctranslate2Version := ⟨text "4.6.0", by decide⟩
  cudaRuntimeVersion := ⟨text "12.4", by decide⟩
  driverVersion := ⟨text "550.54", by decide⟩
  deviceName := ⟨text "GPU", by decide⟩
  computeCapability := ⟨text "8.6", by decide⟩
  totalVramBytes := ⟨8 * gib, by decide⟩

/-- The policy under which the tiny model is measured. -/
def tinyPolicy : EnvelopePolicy where
  model := ⟨text "tiny", by decide⟩
  modelRevision := ⟨text "hf:" ++ List.replicate 40 48, by decide⟩
  computeType := ⟨text "int8", by decide⟩
  task := ⟨text "transcribe", by decide⟩
  inferenceConcurrency := ⟨1, Int.one_pos⟩
  chunkMinutes := ⟨30, by decide⟩
  decoderOptionsSha256 := zeroDigest
  model_mem := by decide
  task_mem := by decide
  chunk_range := by decide

/-- Three cold cycles of the smallest model. -/
def tinyRequest : ProfilerRequest where
  model := .tiny
  runs := 3
  policy := tinyPolicy
  hostMarginBytes := ⟨1, by decide⟩
  deviceMarginBytes := ⟨1, by decide⟩
  hostReserveBytes := none
  gpuReserveBytes := none
  canonicalSharedCuda := false
  requireCgroup := false
  bootstrapProfile := "generic"
  runs_ge := by decide
  policy_model := rfl
  concurrency := rfl

/-- The tiny model has a name. -/
theorem tiny_ne : "tiny" ≠ "" := by decide

/-- Its margins are positive. -/
theorem tiny_margins : (0 : ℤ) < 1 ∧ (0 : ℤ) < 1 := ⟨Int.one_pos, Int.one_pos⟩

/-- What the tiny model asks for. -/
def tinyLoad : ModelLoadRequirement where
  model := "tiny"
  hostIncrementalBytes := 1
  cgroupIncrementalBytes := 1
  deviceIncrementalBytes := 1
  hostMarginBytes := 1
  deviceMarginBytes := 1
  provenance := .fallback
  evidence := "fallback"
  model_ne := tiny_ne
  bytes_nonneg := by decide
  margins_pos := tiny_margins
  derived_le := by decide

/-- A device with all its memory free. -/
def idleDevice : StabilizedGpuCapacity where
  deviceId := "GPU-0"
  totalBytes := 8 * gib
  freeBytes := 8 * gib
  observedAt := 1
  device_ne := by decide
  total_valid := by decide
  free_valid := by decide
  observed_nonneg := by decide

/-- The capacity of a host with nothing running. -/
def idleCapacity : CapacityProfile := ⟨some (8 * gib), some (8 * gib), none⟩

/-- The tiny model is admitted. -/
def tinyAdmission : AdmissionDecision := ⟨true, [], none, none, none, none, tinyLoad⟩

/-- The tiny model is selected, as it was asked for by name. -/
def tinyDecision : ModelDecision where
  selectedModel := some .tiny
  automaticCeiling := .tiny
  explicit := true
  warning := none
  admitted := true
  reason := "admitted"
  provenance := some .fallback
  requirement := some tinyLoad
  admission := some tinyAdmission
  recoveryRequirements := [tinyLoad]
  systemCeiling := .largeV3
  deviceCeiling := none
  rejectedAdmissions := []

/-- A catalog without envelopes. -/
def emptyCatalog : ModelEnvelopeCatalog .standard where
  catalogVersion := ⟨1, Int.one_pos⟩
  entries := []
  canonicalPayloadSha256 := Sha256.standard.digest (canonicalPayloadBytes ⟨1, Int.one_pos⟩ [])
  bounded := by decide
  nodup := List.nodup_nil
  verified := rfl

/-- An idle host and an idle device. Only the second cycle has to yield, and is repeated. -/
def idleAnswer (history : List (ProfilerEvent .standard)) :
    (call : ProfilerCall .standard) → Except ProfilerRaised call.Answer
  | .priorityPressureReader => .ok (some true)
  | .loadIdentity => .ok tinyImage
  | .loadInputCatalog => .ok emptyCatalog
  | .runtimeIdentity => .ok tinyRuntime
  | .admissionInputs => .ok ⟨idleCapacity, "cuda", idleDevice.sample, some idleDevice, some "GPU-0", 1⟩
  | .waitForRecovery => .ok true
  | .immediateLoadAdmission _ => .ok tinyAdmission
  | .freshLoadInputs => .ok ⟨idleCapacity, idleDevice.sample, 1⟩
  | .measureColdCycle runNumber _ =>
    if history.countP (·.isCycle) = 1 then .error .memoryPressureYield else .ok (some (smallCycle runNumber))
  | .loadOutputCatalog =>
    match history with
    | ⟨.writeCatalog catalog, _⟩ :: _ => .ok catalog
    | _ => .ok emptyCatalog
  | .assertReleased | .validateWorkload | .releaseModel | .markReleased | .writeCatalog _ => .ok ()

/-- The environment of a host with nothing running. -/
def idleEnvironment : ProfilerEnvironment .standard where
  answer := idleAnswer
  requiresGpu device := device = "cuda"
  modelLoadRequirement _ _ := .ok tinyLoad
  pressureController _ _ _ := .ok ()
  selectModel _ _ := .ok tinyDecision

/-- All that happens in the calibration. -/
def tinyHistory : List (ProfilerEvent .standard) :=
  after (idleEnvironment.profileModelEnvelope tinyRequest 6) []

/-- Four cycles are begun, of which one yields, and the catalog is written. -/
theorem tinyHistory_eq : tinyHistory.countP (·.isCycle) = 4 ∧ tinyHistory.countP (·.isWrite) = 1 ∧
    returned tinyHistory = [smallCycle 1, smallCycle 2, smallCycle 3] := by
  decide +kernel

/-- The run with a cycle that yields is disciplined, and its second measurement is the one that the
    increments come from, in every domain. -/
theorem calibration_tiny :
    Disciplined tinyRequest tinyHistory ∧ tinyHistory.countP (·.isCycle) = 4 ∧
      tinyHistory.countP (·.isWrite) = 1 ∧
      ∃ measurements, buildMeasurements (returned tinyHistory) 1 1 = .ok measurements ∧
        ∀ domain, measurements.incremental domain = 3 := by
  obtain ⟨hcycles, hwrites, hreturned⟩ := tinyHistory_eq
  have hgrowth (domain : Domain) : (smallCycle 2).growth domain = 3 := by
    rcases domain with _ | _ | _ <;> decide
  obtain ⟨measurements, hbuilt, hincremental⟩ := calibration_complete.2 (returned tinyHistory) ⟨1, by decide⟩
    ⟨1, by decide⟩ (by rw [hreturned]; decide) fun domain => ⟨smallCycle 2, by simp [hreturned], by
      rw [hgrowth]
      decide⟩
  refine ⟨calibration_complete.1 .standard idleEnvironment tinyRequest 6, hcycles, hwrites, measurements, hbuilt,
    fun domain => ?_⟩
  obtain ⟨⟨m, hm, hincrement⟩, hmost⟩ := hincremental domain
  have hthree := hmost (smallCycle 2) (by simp [hreturned])
  have hm_le : m.growth domain ≤ 3 := by
    simp only [hreturned, List.mem_cons, List.not_mem_nil, or_false] at hm
    rcases hm with rfl | rfl | rfl <;> rcases domain with _ | _ | _ <;> decide
  rw [hgrowth] at hthree
  omega

end Envelopes

end Subgen

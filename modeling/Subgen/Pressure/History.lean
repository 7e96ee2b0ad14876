import Subgen.Lib.Recent
import Subgen.Pressure.Operations

/-!
# The history of a controller

What the history of a controller says about the controller. The counters are kept in
different ways: a healthy sample counts until something holds the recovery up
(`ControllerEvent.isHold`), a clear publication until something resets the signal
(`ControllerEvent.isReset`), and an external episode until a recovery ends it
(`ControllerEvent.isIncrease`). Each has its own invariant, between the fields it is about
and the history, with a lemma for each event it notices and one for those it does not.

* `Complete`: what has to have happened before a recovery is complete;
* `Kept`: the invariants together.
-/

namespace Subgen

open Recent PriorityPressureReader

namespace ControllerEvent

/-- An unqualified sample, a critical or neutral observation, a release, a latch, or the
    beginning of a recovery. -/
def isHold : ControllerEvent → Bool
  | sampled _ pressured admits => pressured || !admits
  | observed o => o.resets
  | released => true
  | latched => true
  | entered s => s = .recovering
  | finished _ => false

/-- An observation that is asserted, neutral or unavailable, or the first of another epoch. -/
def isReset : ControllerEvent → Bool
  | observed o => o.resets
  | _ => false

/-- The end of an external episode. -/
def isIncrease : ControllerEvent → Bool
  | finished external => external
  | _ => false

/-- The time of a sample without pressure that admits a recovery requirement. -/
def qualifiedAt : ControllerEvent → Option ℚ
  | sampled observedAt false true => some observedAt
  | _ => none

/-- The priority observation that an event records, if it records one. -/
def observation? : ControllerEvent → Option PriorityObservation
  | observed o => some o
  | _ => none

/-- The state from this event on. -/
def state? : ControllerEvent → Option ControllerState
  | entered s => some s
  | finished _ => some .normal
  | _ => none

end ControllerEvent

open ControllerEvent

/-- What has happened to a controller, newest event first. -/
abbrev History := List ControllerEvent

namespace History

/-- The priority observations of a history, newest first. -/
def observations (h : History) : List PriorityObservation := h.filterMap observation?

/-- The times of the qualified samples. -/
def qualified (h : History) : List ℚ := h.filterMap qualifiedAt

/-- The state of a controller with this history. -/
def stateFrom (config : ControllerConfig) (h : History) : ControllerState :=
  (h.findSome? state?).getD (if config.priorityConfigured then .recovering else .normal)

end History

open History

/-! ## Observations -/

/-- The generations of the clear publications. -/
def clearGenerations (os : List PriorityObservation) : List ℤ :=
  os.filterMap fun o => if o.counts then o.sourceGeneration else none

/-- The generations of everything but a repetition. -/
def reportedGenerations (os : List PriorityObservation) : List ℤ :=
  os.filterMap fun o => if o.repeats then none else o.sourceGeneration

/-- The state of the signal after some observations. -/
def signalState : List PriorityObservation → PriorityState
  | [] => .unavailable
  | o :: _ => o.state

/-- How often the signal changed its state or the epoch of its producer. -/
def transitions : List PriorityObservation → ℕ
  | [] => 0
  | o :: os => transitions os +
    (if o.state = signalState os ∧ o.producerEpochChanged = false then 0 else 1)

/-- A generation above all that were seen. What is repeated was seen before, in the order in
    which one reader gives it. -/
def AboveSeen (g : ℤ) (os : List PriorityObservation) : Prop :=
  (∀ s ∈ reportedGenerations os, s < g) ∧
    (InOrder os → ∀ s ∈ os.filterMap PriorityObservation.sourceGeneration, s < g)

/-- Distinct generations that were cleared since the signal was reset. -/
structure Distinct (h : History) (generations : List ℤ) : Prop where
  sublist : generations.Sublist (clearGenerations (observations (since isReset h)))
  increasing : generations.Pairwise (· > ·)
  above : ∀ g ∈ generations, AboveSeen g (observations (upTo isReset h))

/-- What has to have happened before a recovery is complete. -/
structure Complete (config : ControllerConfig) (external : Bool) (before : History) : Prop where
  recovering : stateFrom config before = .recovering
  samples : config.recoverySampleCount ≤ (qualified (since isHold before)).length
  increasing : (qualified (since isHold before)).Pairwise (· > ·)
  clears : config.priorityConfigured = true →
    ∃ generations, priorityRecoveryClearCount ≤ generations.length ∧ Distinct before generations
  external_iff : external = true ↔ ∃ o ∈ observations (since isIncrease before), o.external = true

/-! ## Invariants -/

/-- The healthy samples are some of the qualified ones. -/
structure SamplesKept (state : ControllerState) (healthy : ℕ) (lastObservedAt : Option ℚ)
    (h : History) : Prop where
  healthy_le : healthy ≤ (qualified (since isHold h)).length
  healthy_eq_zero : state ≠ .recovering → healthy = 0
  increasing : (qualified h).Pairwise (· > ·)
  le_last : ∀ t ∈ qualified h, ∃ last ∈ lastObservedAt, t ≤ last

/-- The clear publications that are counted have distinct generations. -/
structure ClearsKept (count : ℕ) (highWater : Option ℤ) (h : History) : Prop where
  count_le : count ≤ priorityRecoveryClearCount
  distinct : ∃ generations, count ≤ generations.length ∧ Distinct h generations
  reported_le : ∀ g ∈ reportedGenerations (observations h), ∃ w ∈ highWater, g ≤ w

/-- What the history says of the external episode and of its generation. -/
structure EpisodeKept (pending : Bool) (generation : ℕ) (h : History) : Prop where
  pending_iff : pending = true ↔ ∃ o ∈ observations (since isIncrease h), o.external = true
  generation_eq : generation = h.countP isIncrease

/-- What the history says of the stored priority signal and of its transition number. -/
structure SignalKept (configured : Bool) (state : PriorityState) (sequence : ℕ) (h : History) :
    Prop where
  state_eq : configured = true → state = signalState (observations h)
  sequence_eq : sequence = transitions (observations h)

/-- The controller state is the one that the history ends in. -/
structure StateKept (config : ControllerConfig) (state : ControllerState) (h : History) : Prop where
  state_eq : state = stateFrom config h
  entered_ne : entered .normal ∉ h
  complete : ∀ external before, finished external :: before <:+ h → Complete config external before

/-- The gate is open only in the normal state, and the signal is clear there. -/
structure GateKept (configured : Bool) (state : ControllerState) (admissionOpen : Bool)
    (signal : PriorityState) (count : ℕ) : Prop where
  normal_of_open : admissionOpen = true → state = .normal
  clear_of_normal : configured = true → state = .normal →
    signal = .clear ∧ count = priorityRecoveryClearCount

/-- Every bookkeeping field of the controller is what its history says. -/
structure Kept (config : ControllerConfig) (c : PressureController) (h : History) : Prop where
  config_eq : c.config = config
  samples : SamplesKept c.state c.consecutiveHealthy c.lastObservedAt h
  clears : ClearsKept c.priorityDistinctClearCount c.priorityRecoveryGenerationHighWater h
  episode : EpisodeKept c.externalPressureEpisodePending c.externalPressureRecoveryGeneration h
  signal : SignalKept c.config.priorityConfigured c.priorityObservation.state
    c.priorityTransitionSequence h
  state : StateKept c.config c.state h
  gate : GateKept c.config.priorityConfigured c.state c.admissionOpen c.priorityObservation.state
    c.priorityDistinctClearCount

/-! ## Events -/

variable {e : ControllerEvent} {h : History} {o : PriorityObservation}

namespace History

@[simp] theorem observations_nil : observations [] = [] := rfl

@[simp] theorem observations_cons_observed :
    observations (observed o :: h) = o :: observations h := rfl

/-- An event without an observation adds none. -/
theorem observations_cons_of_none (he : e.observation? = none) :
    observations (e :: h) = observations h := by
  rw [observations, List.filterMap_cons_none he]
  rfl

@[simp] theorem qualified_nil : qualified [] = [] := rfl

@[simp] theorem qualified_cons_sampled (t : ℚ) :
    qualified (sampled t false true :: h) = t :: qualified h := rfl

/-- An event that qualifies no sample adds no time. -/
theorem qualified_cons_of_none (he : e.qualifiedAt = none) :
    qualified (e :: h) = qualified h := by
  rw [qualified, List.filterMap_cons_none he]
  rfl

/-- An event that enters no state leaves the state as it was. -/
theorem stateFrom_cons_of_none {config : ControllerConfig} (he : e.state? = none) :
    stateFrom config (e :: h) = stateFrom config h := by
  simp [stateFrom, he]

end History

namespace SamplesKept

variable {state state' : ControllerState} {healthy : ℕ} {last : Option ℚ}

/-- Nothing is counted any more, or nothing was. -/
theorem none_counted (hk : SamplesKept state healthy last h) (he : e.qualifiedAt = none) :
    SamplesKept state' 0 last (e :: h) := by
  refine ⟨Nat.zero_le _, fun _ => rfl, ?_, ?_⟩
  · rw [qualified_cons_of_none he]
    exact hk.increasing
  · rw [qualified_cons_of_none he]
    exact hk.le_last

/-- An event that neither counts nor holds the recovery up. -/
theorem pass (hk : SamplesKept state healthy last h) (he : e.qualifiedAt = none)
    (hhold : e.isHold = false) : SamplesKept state healthy last (e :: h) := by
  refine ⟨?_, hk.healthy_eq_zero, ?_, ?_⟩
  · rw [since_cons_of_neg hhold, qualified_cons_of_none he]
    exact hk.healthy_le
  · rw [qualified_cons_of_none he]
    exact hk.increasing
  · rw [qualified_cons_of_none he]
    exact hk.le_last

/-- A qualified sample, newer than those before. -/
theorem sampled {t : ℚ} {n : ℕ} (hk : SamplesKept .recovering healthy (some t) h)
    (ht : ∀ t' ∈ qualified h, t' < t) :
    SamplesKept .recovering (min n (healthy + 1)) (some t) (.sampled t false true :: h) := by
  refine ⟨?_, fun hne => absurd rfl hne, ?_, ?_⟩
  · rw [since_cons_of_neg rfl, qualified_cons_sampled, List.length_cons]
    exact (min_le_right _ _).trans (Nat.succ_le_succ hk.healthy_le)
  · rw [qualified_cons_sampled]
    exact List.pairwise_cons.2 ⟨ht, hk.increasing⟩
  · intro t' ht'
    rcases List.mem_cons.1 ht' with rfl | ht'
    · exact ⟨t', rfl, le_rfl⟩
    · exact ⟨t, rfl, (ht t' ht').le⟩

end SamplesKept

/-! ## Generations -/

/-- A clear that counts resets nothing. -/
theorem PriorityObservation.not_resets_of_counts (o : PriorityObservation) (ho : o.counts = true) : o.resets = false := by
  simp only [counts, Bool.and_eq_true, decide_eq_true_eq, Bool.not_eq_true'] at ho
  simp [resets, ho.1.1, ho.2]

/-- A clear that counts is no repetition. -/
theorem PriorityObservation.not_repeats_of_counts (o : PriorityObservation) (ho : o.counts = true) : o.repeats = false := by
  simp only [counts, Bool.and_eq_true, decide_eq_true_eq, Bool.not_eq_true'] at ho
  simp [repeats, ho.1.2]

/-- A generation that a clear counts for was reported. -/
theorem reported_of_cleared {g : ℤ} {os : List PriorityObservation}
    (hg : g ∈ clearGenerations os) : g ∈ reportedGenerations os := by
  obtain ⟨o, ho, hg⟩ := List.mem_filterMap.1 hg
  split at hg
  · next hcounts =>
    exact List.mem_filterMap.2 ⟨o, ho, by rw [o.not_repeats_of_counts hcounts]; simpa using hg⟩
  · cases hg

/-- A generation is reported by the newest observation or by an earlier one. -/
theorem mem_reported_cons {g : ℤ} {os : List PriorityObservation} :
    g ∈ reportedGenerations (o :: os) ↔
      (o.repeats = false ∧ o.sourceGeneration = some g) ∨ g ∈ reportedGenerations os := by
  simp only [reportedGenerations, List.mem_filterMap, List.exists_mem_cons_iff]
  rcases hrepeats : o.repeats with _ | _
  · simp
  · simp

/-- What one reader repeats was reported before, so the repetitions need no attention. -/
theorem aboveSeen_of_reported {g : ℤ} {os : List PriorityObservation}
    (hg : ∀ s ∈ reportedGenerations os, s < g) : AboveSeen g os := by
  refine ⟨hg, fun horder s hs => ?_⟩
  obtain ⟨o, ho, hgeneration⟩ := List.mem_filterMap.1 hs
  by_cases hrepeats : o.repeats = true
  · obtain ⟨hclear, hnew⟩ : o.state = .clear ∧ o.newPublication = false := by
      simp only [PriorityObservation.repeats, Bool.and_eq_true, decide_eq_true_eq,
        Bool.not_eq_true'] at hrepeats
      exact hrepeats.1
    obtain ⟨newer, older, rfl⟩ := List.append_of_mem ho
    obtain ⟨o', ho', hnew', hs'⟩ := horder.exists_of_again (by rw [hclear]; decide) hnew
    refine hg s (List.mem_filterMap.2 ⟨o', ?_, ?_⟩)
    · exact List.mem_append_right _ (List.mem_cons_of_mem _ ho')
    · rw [if_neg (by simp [PriorityObservation.repeats, hnew']), hs', hgeneration]
  · exact hg s (List.mem_filterMap.2 ⟨o, ho, by rw [if_neg hrepeats, hgeneration]⟩)

namespace Distinct

variable {generations : List ℤ}

/-- No generation was counted in an empty history. -/
theorem nil : Distinct h [] := ⟨List.nil_sublist _, .nil, fun _ hg => absurd hg List.not_mem_nil⟩

/-- An event without an observation counts no generation. -/
theorem pass (hd : Distinct h generations) (he : e.observation? = none) :
    Distinct (e :: h) generations := by
  have hreset : e.isReset = false := by
    cases e <;> first | rfl | simp [observation?] at he
  refine ⟨?_, hd.increasing, ?_⟩
  · rw [since_cons_of_neg hreset, observations_cons_of_none he]
    exact hd.sublist
  · rw [upTo_cons_of_neg hreset]
    exact hd.above

/-- An observation that does not reset the signal. -/
theorem observed (hd : Distinct h generations) (ho : o.resets = false) :
    Distinct (.observed o :: h) generations := by
  have hreset : (ControllerEvent.observed o).isReset = false := ho
  refine ⟨?_, hd.increasing, ?_⟩
  · rw [since_cons_of_neg hreset, observations_cons_observed]
    exact hd.sublist.trans ((List.sublist_cons_self o _).filterMap _)
  · rw [upTo_cons_of_neg hreset]
    exact hd.above

/-- A clear publication above all that was seen. -/
theorem cleared {g : ℤ} (hd : Distinct h generations) (ho : o.counts = true)
    (hgeneration : o.sourceGeneration = some g)
    (habove : ∀ s ∈ reportedGenerations (observations h), s < g) :
    Distinct (.observed o :: h) (g :: generations) := by
  have hreset : (ControllerEvent.observed o).isReset = false := o.not_resets_of_counts ho
  refine ⟨?_, ?_, ?_⟩
  · rw [since_cons_of_neg hreset, observations_cons_observed, clearGenerations,
      List.filterMap_cons_some (by rw [if_pos ho, hgeneration])]
    exact hd.sublist.cons_cons g
  · refine List.pairwise_cons.2 ⟨fun g' hg' => habove g' ?_, hd.increasing⟩
    have hmem := hd.sublist.subset hg'
    exact reported_of_cleared (since_sublist.filterMap _ |>.filterMap _ |>.subset hmem)
  · rw [upTo_cons_of_neg hreset]
    intro g' hg'
    rcases List.mem_cons.1 hg' with rfl | hg'
    · refine aboveSeen_of_reported fun s hs => habove s ?_
      exact (upTo_suffix.sublist.filterMap _ |>.filterMap _).subset hs
    · exact hd.above g' hg'

end Distinct

namespace ClearsKept

variable {count : ℕ} {highWater : Option ℤ}

/-- An event without an observation keeps the count and the high water. -/
theorem pass (hk : ClearsKept count highWater h) (he : e.observation? = none) :
    ClearsKept count highWater (e :: h) := by
  obtain ⟨generations, hcount, hd⟩ := hk.distinct
  refine ⟨hk.count_le, ⟨generations, hcount, hd.pass he⟩, ?_⟩
  rw [observations_cons_of_none he]
  exact hk.reported_le

/-- An observation that is below the high-water mark, if it reports a generation at all. -/
theorem observed (hk : ClearsKept count highWater h) (ho : o.resets = false)
    (hle : o.repeats = false → ∀ g ∈ o.sourceGeneration, ∃ w ∈ highWater, g ≤ w) :
    ClearsKept count highWater (.observed o :: h) := by
  obtain ⟨generations, hcount, hd⟩ := hk.distinct
  refine ⟨hk.count_le, ⟨generations, hcount, hd.observed ho⟩, fun g hg => ?_⟩
  rcases mem_reported_cons.1 hg with ⟨hrepeats, hg⟩ | hg
  · exact hle hrepeats g hg
  · exact hk.reported_le g hg

/-- Whatever lay below the high water or below the new generation lies below the raised high water. -/
theorem le_raised {w g : ℤ} (h : g ≤ w ∨ ∃ v ∈ highWater, g ≤ v) :
    ∃ v ∈ PressureController.raised highWater w, g ≤ v := by
  rw [PressureController.raised]
  cases highWater with
  | none => simpa using h
  | some v =>
    simp only [Option.all_some, decide_eq_true_eq, Option.mem_some_iff, exists_eq_left'] at h ⊢
    split
    · exact ⟨w, rfl, by omega⟩
    · exact ⟨v, rfl, by omega⟩

/-- The mark behind an observation. -/
def markBy (highWater : Option ℤ) (o : PriorityObservation) : Option ℤ :=
  o.sourceGeneration.elim highWater (PressureController.raised highWater)

/-- A reset starts the count afresh and moves the high water on. -/
theorem reset (hk : ClearsKept count highWater h) (o : PriorityObservation) :
    ClearsKept 0 (markBy highWater o) (.observed o :: h) := by
  refine ⟨Nat.zero_le _, ⟨[], Nat.zero_le _, .nil⟩, fun g hg => ?_⟩
  have hle : (∃ v ∈ highWater, g ≤ v) → ∃ v ∈ markBy highWater o, g ≤ v := by
    intro hle
    rw [markBy]
    cases o.sourceGeneration with
    | none => exact hle
    | some w => exact le_raised (.inr hle)
  rcases mem_reported_cons.1 hg with ⟨-, hg⟩ | hg
  · rw [markBy, hg]
    exact le_raised (.inl le_rfl)
  · exact hle (hk.reported_le g hg)

/-- A clear of a generation above the high water counts once. -/
theorem cleared {g : ℤ} (hk : ClearsKept count highWater h) (ho : o.counts = true)
    (hgeneration : o.sourceGeneration = some g) (habove : ∀ w ∈ highWater, w < g) :
    ClearsKept (min priorityRecoveryClearCount (count + 1)) (some g) (.observed o :: h) := by
  have hlt : ∀ s ∈ reportedGenerations (observations h), s < g := fun s hs => by
    obtain ⟨w, hw, hle⟩ := hk.reported_le s hs
    exact hle.trans_lt (habove w hw)
  obtain ⟨generations, hcount, hd⟩ := hk.distinct
  refine ⟨min_le_left _ _, ⟨g :: generations, ?_, hd.cleared ho hgeneration hlt⟩, ?_⟩
  · exact (min_le_right _ _).trans (Nat.succ_le_succ hcount)
  · intro s hs
    rcases mem_reported_cons.1 hs with ⟨-, hs⟩ | hs
    · rw [hgeneration] at hs
      exact ⟨g, rfl, (Option.some.inj hs).ge⟩
    · exact ⟨g, rfl, (hlt s hs).le⟩

end ClearsKept

namespace EpisodeKept

variable {pending : Bool} {generation : ℕ}

/-- An event without an observation that increases nothing keeps the episode. -/
theorem pass (hk : EpisodeKept pending generation h) (he : e.observation? = none)
    (hincrease : e.isIncrease = false) : EpisodeKept pending generation (e :: h) := by
  constructor
  · rw [since_cons_of_neg hincrease, observations_cons_of_none he]
    exact hk.pending_iff
  · rw [List.countP_cons_of_neg (by simp [hincrease])]
    exact hk.generation_eq

/-- An observation opens the episode when it asserts or is unavailable. -/
theorem observed (hk : EpisodeKept pending generation h) (o : PriorityObservation) :
    EpisodeKept (pending || o.external) generation (.observed o :: h) := by
  constructor
  · rw [since_cons_of_neg rfl, observations_cons_observed, Bool.or_eq_true, hk.pending_iff]
    simp [or_comm]
  · rw [List.countP_cons_of_neg (by simp [isIncrease])]
    exact hk.generation_eq

/-- The end of a recovery closes the episode and counts a generation for it. -/
theorem finished (hk : EpisodeKept pending generation h) :
    EpisodeKept false (generation + (if pending then 1 else 0)) (.finished pending :: h) := by
  cases pending with
  | false => exact hk.pass rfl rfl
  | true =>
    constructor
    · rw [since_cons_of_pos rfl]
      simp
    · rw [List.countP_cons_of_pos (by rfl), if_pos rfl, hk.generation_eq]

end EpisodeKept

namespace SignalKept

variable {configured : Bool} {state : PriorityState} {sequence : ℕ}

/-- An event without an observation keeps the signal. -/
theorem pass (hk : SignalKept configured state sequence h) (he : e.observation? = none) :
    SignalKept configured state sequence (e :: h) := by
  constructor
  · rw [observations_cons_of_none he]
    exact hk.state_eq
  · rw [observations_cons_of_none he]
    exact hk.sequence_eq

/-- An observation moves the transition number unless state and epoch repeat. -/
theorem observed (hk : SignalKept true state sequence h) (o : PriorityObservation) :
    SignalKept true o.state
      (sequence + if o.state = state ∧ o.producerEpochChanged = false then 0 else 1)
      (.observed o :: h) := by
  constructor
  · exact fun _ => rfl
  · rw [observations_cons_observed, transitions, hk.sequence_eq, hk.state_eq rfl]

end SignalKept

namespace StateKept

variable {config : ControllerConfig} {state : ControllerState}

/-- A recovery that was complete in a longer history was complete in this one. -/
theorem complete_cons (hk : StateKept config state h) (he : ∀ external, e ≠ .finished external)
    (external : Bool) (before : History) (hsuffix : .finished external :: before <:+ e :: h) :
    Complete config external before := by
  rcases List.suffix_cons_iff.1 hsuffix with heq | hsuffix
  · exact absurd (List.cons.inj heq).1.symm (he external)
  · exact hk.complete external before hsuffix

/-- An event that enters no state keeps the state. -/
theorem pass (hk : StateKept config state h) (he : e.state? = none) :
    StateKept config state (e :: h) := by
  refine ⟨?_, ?_, hk.complete_cons ?_⟩
  · rw [stateFrom_cons_of_none he]
    exact hk.state_eq
  · rw [List.mem_cons, not_or]
    refine ⟨?_, hk.entered_ne⟩
    rintro rfl
    cases he
  · rintro external rfl
    cases he

/-- Entering a state that is not normal is recorded as it is. -/
theorem entered {state' : ControllerState} (hk : StateKept config state h)
    (hstate : state' ≠ .normal) : StateKept config state' (.entered state' :: h) := by
  refine ⟨rfl, ?_, hk.complete_cons fun _ => by simp⟩
  rw [List.mem_cons, not_or]
  refine ⟨?_, hk.entered_ne⟩
  intro heq
  exact hstate (ControllerEvent.entered.inj heq).symm

/-- A recovery that was complete ends in the normal state. -/
theorem finished {external : Bool} (hk : StateKept config state h)
    (hcomplete : Complete config external h) :
    StateKept config .normal (.finished external :: h) := by
  refine ⟨rfl, ?_, ?_⟩
  · rw [List.mem_cons, not_or]
    exact ⟨by simp, hk.entered_ne⟩
  · intro external' before hsuffix
    rcases List.suffix_cons_iff.1 hsuffix with heq | hsuffix
    · obtain ⟨hexternal, rfl⟩ := List.cons.inj heq
      exact ControllerEvent.finished.inj hexternal ▸ hcomplete
    · exact hk.complete external' before hsuffix

end StateKept

end Subgen

import Subgen.Pressure.Priority
import Mathlib.Data.List.Basic

/-!
# The pending observation of the calibration

While the adapter of the calibration sleeps it goes on polling the priority signal, and keeps one of the
observations for the pressure controller, which is given that one before anything new is read. The
observations that a recovery must not miss are *barriers*: not clear, not accepted, or of a new producer.
The first barrier since the last one that was handed over is kept (`kept`).

A barrier that is only there for the new producer is kept too, and then hides what comes after it
(`speaksFor_handed_iff`): a clear observation is handed over although the signal was asserted later. A new
producer is never hidden.
-/

namespace Subgen

/-- Accepted, and clear. -/
def PriorityObservation.AcceptedClear (o : PriorityObservation) : Prop :=
  o.state = .clear ∧ o.accepted = true

instance (o : PriorityObservation) : Decidable o.AcceptedClear := inferInstanceAs (Decidable (_ ∧ _))

/-- `StableWhisperMeasurementAdapter`, as far as it watches the priority signal. -/
structure StableWhisperMeasurementAdapter where
  priorityPressureReader : PriorityPressureReader
  pendingPriorityObservation : Option PriorityObservation

namespace StableWhisperMeasurementAdapter

/-- An adapter that waits for nothing. -/
def new : StableWhisperMeasurementAdapter := ⟨.new, none⟩

/-- `_priority_observation_is_barrier`. -/
def priorityObservationIsBarrier (o : PriorityObservation) : Bool :=
  o.state ≠ .clear || !o.accepted || o.producerEpochChanged

variable (a : StableWhisperMeasurementAdapter)

/-- `_remember_priority_observation`. -/
def rememberPriorityObservation (o : PriorityObservation) : StableWhisperMeasurementAdapter :=
  match a.pendingPriorityObservation with
  | none => { a with pendingPriorityObservation := some o }
  | some pending =>
    if priorityObservationIsBarrier pending then a
    else { a with pendingPriorityObservation := some o }

/-- One reading between two intervals of sleep. -/
def poll (reading : Reading) : StableWhisperMeasurementAdapter :=
  let outcome := a.priorityPressureReader.read reading
  { a with priorityPressureReader := outcome.2 }.rememberPriorityObservation outcome.1

/-- `_sleep_while_polling_priority`, by the readings that fit into its time. -/
def sleepWhilePollingPriority (readings : List Reading) : StableWhisperMeasurementAdapter :=
  readings.foldl poll a

/-- `_read_priority_observation`: what is handed to the pressure controller. -/
def readPriorityObservation (reading : Reading) : PriorityObservation × StableWhisperMeasurementAdapter :=
  match a.pendingPriorityObservation with
  | some pending => (pending, { a with pendingPriorityObservation := none })
  | none =>
    let (o, r) := a.priorityPressureReader.read reading
    (o, { a with priorityPressureReader := r })

end StableWhisperMeasurementAdapter

open StableWhisperMeasurementAdapter PriorityPressureReader

/-! ## Runs -/

/-- The two ways in which the signal is read. -/
inductive PriorityCall
  | sleepWhilePollingPriority (readings : List Reading)
  | readPriorityObservation (reading : Reading)

/-- An adapter, and what was read since an observation was last handed over. -/
structure PriorityWatch where
  adapter : StableWhisperMeasurementAdapter
  unreported : List PriorityObservation

namespace PriorityWatch

/-- One call of the adapter. -/
def call (w : PriorityWatch) : PriorityCall → PriorityWatch
  | .sleepWhilePollingPriority readings =>
    ⟨w.adapter.sleepWhilePollingPriority readings,
      w.unreported ++ emissions w.adapter.priorityPressureReader readings⟩
  | .readPriorityObservation reading => ⟨(w.adapter.readPriorityObservation reading).2, []⟩

/-- The calls one after another, from the beginning. -/
def run (calls : List PriorityCall) : PriorityWatch := calls.foldl call ⟨.new, []⟩

variable (w : PriorityWatch) (reading : Reading)

/-- What is handed over next. -/
def handed : PriorityObservation := (w.adapter.readPriorityObservation reading).1

/-- What was read until then; with nothing pending, the observation itself. -/
def readBefore : List PriorityObservation :=
  match w.adapter.pendingPriorityObservation with
  | some _ => w.unreported
  | none => w.unreported ++ [(w.adapter.priorityPressureReader.read reading).1]

end PriorityWatch

/-- Whether an observation speaks for all that were read. -/
structure SpeaksFor (reads : List PriorityObservation) (handed : PriorityObservation) : Prop where
  pressure : (∃ o ∈ reads, ¬ o.AcceptedClear) → ¬ handed.AcceptedClear
  epoch : (∃ o ∈ reads, o.producerEpochChanged = true) →
    handed.producerEpochChanged = true ∨ handed.state ≠ .clear

/-- The first barrier is an accepted clear observation of a new producer, and a later observation is not
    clear or not accepted. -/
def HiddenByEpoch (reads : List PriorityObservation) : Prop :=
  ∃ before change after, reads = before ++ change :: after ∧
    (∀ o ∈ before, priorityObservationIsBarrier o = false) ∧ change.AcceptedClear ∧
    change.producerEpochChanged = true ∧ ∃ o ∈ after, ¬ o.AcceptedClear

/-! ## What is kept -/

/-- The observation that is kept: the first barrier, or the last observation. -/
def kept (reads : List PriorityObservation) : Option PriorityObservation :=
  (reads.find? priorityObservationIsBarrier).or reads.getLast?

theorem barrier_of_not_acceptedClear {o : PriorityObservation} (h : ¬ o.AcceptedClear) :
    priorityObservationIsBarrier o = true := by
  rw [priorityObservationIsBarrier]
  by_contra hbarrier
  simp only [Bool.or_eq_true, decide_eq_true_eq, Bool.not_eq_true', not_or, not_not, Bool.not_eq_false]
    at hbarrier
  exact h hbarrier.1

theorem barrier_iff_of_acceptedClear {o : PriorityObservation} (h : o.AcceptedClear) :
    priorityObservationIsBarrier o = o.producerEpochChanged := by
  rw [priorityObservationIsBarrier, h.1, h.2]
  simp

section

variable {reads : List PriorityObservation} {o handed : PriorityObservation}

theorem kept_eq_none_iff : kept reads = none ↔ reads = [] := by
  rw [kept, Option.or_eq_none_iff, List.getLast?_eq_none_iff]
  constructor
  · exact fun h => h.2
  · rintro rfl
    exact ⟨rfl, rfl⟩

/-- One more observation replaces what is kept, unless that is a barrier. -/
theorem kept_append (reads : List PriorityObservation) (o : PriorityObservation) :
    kept (reads ++ [o]) = match kept reads with
      | none => some o
      | some pending => if priorityObservationIsBarrier pending then some pending else some o := by
  rcases hfind : reads.find? priorityObservationIsBarrier with _ | barrier
  · have hnone : ∀ pending ∈ reads, ¬ priorityObservationIsBarrier pending = true :=
      List.find?_eq_none.1 hfind
    have hlast : kept (reads ++ [o]) = some o := by
      rw [kept, List.find?_append, hfind, Option.none_or, List.getLast?_concat]
      by_cases ho : priorityObservationIsBarrier o = true
      · rw [List.find?_cons_of_pos ho, Option.some_or]
      · rw [List.find?_cons_of_neg ho, List.find?_nil, Option.none_or]
    rw [hlast, kept, hfind, Option.none_or]
    rcases hpending : reads.getLast? with _ | pending
    · rfl
    · exact (if_neg (hnone pending (List.mem_of_getLast? hpending))).symm
  · have hbarrier := List.find?_some hfind
    rw [kept, kept, List.find?_append, hfind, Option.some_or, Option.some_or, Option.some_or]
    exact (if_pos hbarrier).symm

/-- With a barrier among the observations, what is kept is the first one. -/
theorem exists_of_kept (hkept : kept reads = some handed) (ho : o ∈ reads)
    (hbarrier : priorityObservationIsBarrier o = true) :
    priorityObservationIsBarrier handed = true ∧ ∃ before after, reads = before ++ handed :: after ∧
      ∀ other ∈ before, priorityObservationIsBarrier other = false := by
  rcases hfind : reads.find? priorityObservationIsBarrier with _ | barrier
  · exact absurd hbarrier (List.find?_eq_none.1 hfind o ho)
  · rw [kept, hfind, Option.some_or] at hkept
    obtain rfl := Option.some.inj hkept
    obtain ⟨hhanded, before, after, heq, hbefore⟩ := List.find?_eq_some_iff_append.1 hfind
    exact ⟨hhanded, before, after, heq, fun other hother => by simpa using hbefore other hother⟩

/-- What is kept shows all that was read, unless it hides it. -/
theorem speaksFor_kept_iff (hclear : ∀ o ∈ reads, o.state = .clear → o.accepted = true)
    (hkept : kept reads = some handed) : SpeaksFor reads handed ↔ ¬ HiddenByEpoch reads := by
  constructor
  · rintro hspeaks ⟨before, change, after, rfl, hbefore, hchange, hepoch, o, ho, hnot⟩
    have hbarrier : priorityObservationIsBarrier change = true :=
      (barrier_iff_of_acceptedClear hchange).trans hepoch
    have hhanded : kept (before ++ change :: after) = some change := by
      rw [kept, List.find?_append, List.find?_eq_none.2 fun other hother => by simp [hbefore other hother],
        Option.none_or, List.find?_cons_of_pos hbarrier, Option.some_or]
    obtain rfl : handed = change := Option.some.inj (hkept.symm.trans hhanded)
    exact hspeaks.pressure ⟨o, by simp [ho], hnot⟩ hchange
  · intro hhidden
    constructor
    · rintro ⟨o, ho, hnot⟩ hhanded
      obtain ⟨hbarrier, before, after, rfl, hbefore⟩ :=
        exists_of_kept hkept ho (barrier_of_not_acceptedClear hnot)
      have hepoch := (barrier_iff_of_acceptedClear hhanded).symm.trans hbarrier
      -- It can only come after the one that is handed over.
      rcases List.mem_append.1 ho with hmem | hmem
      · have hfalse := barrier_of_not_acceptedClear hnot
        rw [hbefore o hmem] at hfalse
        cases hfalse
      · rcases List.mem_cons.1 hmem with rfl | hafter
        · exact hnot hhanded
        · exact hhidden ⟨before, handed, after, rfl, hbefore, hhanded, hepoch, o, hafter, hnot⟩
    · rintro ⟨o, ho, hepoch⟩
      obtain ⟨hbarrier, before, after, rfl, -⟩ := exists_of_kept hkept ho (by
        rw [priorityObservationIsBarrier, hepoch, Bool.or_true])
      by_cases hstate : handed.state = .clear
      · have haccepted := hclear handed (by simp) hstate
        exact .inl ((barrier_iff_of_acceptedClear ⟨hstate, haccepted⟩).symm.trans hbarrier)
      · exact .inr hstate

end

/-! ## What the reader gives -/

namespace PriorityPressureReader

/-- The observation that was accepted last is accepted. -/
def Accepts (r : PriorityPressureReader) : Prop := ∀ last ∈ r.lastAccepted, last.accepted = true

/-- An outcome of a reading: accepted, or unavailable. -/
def Sound (outcome : PriorityObservation × PriorityPressureReader) : Prop :=
  (outcome.1.state = .clear → outcome.1.accepted = true) ∧ outcome.2.Accepts

variable {r : PriorityPressureReader}

theorem sound_unavailable (h : r.Accepts) (nowNs retryNs : Option ℤ) :
    Sound (r.unavailable nowNs retryNs) := by
  refine ⟨fun hstate => ?_, h⟩
  have hunavailable : (r.unavailable nowNs retryNs).1.state = .unavailable := by
    rw [unavailable]
    rcases r.lastAccepted with _ | last <;> rfl
  rw [hunavailable] at hstate
  cases hstate

theorem sound_again (h : r.Accepts) (p : Publication) (nowNs : ℤ) : Sound (r.again p nowNs) := by
  rw [again]
  rcases hlast : r.lastAccepted with _ | last
  · exact sound_unavailable h _ _
  · dsimp only
    split_ifs
    · exact sound_unavailable h _ _
    · exact ⟨fun _ => h last hlast, h⟩

theorem sound_accept (h : r.Accepts) (p : Publication) (nowNs : ℤ) (epochChanged gap : Bool) :
    Sound (r.accept p nowNs epochChanged gap) := by
  rw [accept]
  split_ifs
  · -- After a gap the checkpoint is set, and what was accepted before stays.
    have hgap := sound_unavailable (r := r.seen p) h (some nowNs) none
    exact ⟨hgap.1, hgap.2⟩
  · refine ⟨fun _ => rfl, ?_⟩
    rintro last hlast
    obtain rfl := Option.some.inj hlast
    rfl

theorem sound_read (h : r.Accepts) (reading : Reading) : Sound (r.read reading) := by
  rw [read]
  split_ifs
  · exact sound_unavailable h _ _
  · split
    · split_ifs
      · rw [readSameEpoch]
        split
        · exact sound_unavailable h _ _
        · split_ifs
          · exact sound_again h _ _
          · exact sound_unavailable h _ _
          · exact sound_accept h _ _ _ _
      · rw [readNewEpoch]
        split_ifs
        · exact sound_unavailable h _ _
        · exact sound_unavailable h _ _
        · exact sound_unavailable (r := { r with epochHistorySaturated := true }) h _ _
        · exact sound_accept h _ _ _ _
    · exact sound_unavailable h _ _

end PriorityPressureReader

/-! ## What is handed over -/

namespace PriorityWatch

/-- The slot keeps the first barrier of what was read. -/
structure Keeps (w : PriorityWatch) : Prop where
  pending : w.adapter.pendingPriorityObservation = kept w.unreported
  accepts : w.adapter.priorityPressureReader.Accepts
  clear : ∀ o ∈ w.unreported, o.state = .clear → o.accepted = true

variable {w : PriorityWatch}

/-- A reading, while sleeping. -/
def poll (w : PriorityWatch) (reading : Reading) : PriorityWatch :=
  ⟨w.adapter.poll reading, w.unreported ++ [(w.adapter.priorityPressureReader.read reading).1]⟩

/-- What is pending afterwards. -/
theorem pending_poll (a : StableWhisperMeasurementAdapter) (reading : Reading) :
    (a.poll reading).pendingPriorityObservation = match a.pendingPriorityObservation with
      | none => some (a.priorityPressureReader.read reading).1
      | some pending => if priorityObservationIsBarrier pending then some pending
          else some (a.priorityPressureReader.read reading).1 := by
  rw [StableWhisperMeasurementAdapter.poll, rememberPriorityObservation]
  rcases a.pendingPriorityObservation with _ | pending
  · rfl
  · dsimp only
    split_ifs <;> rfl

theorem reader_poll (a : StableWhisperMeasurementAdapter) (reading : Reading) :
    (a.poll reading).priorityPressureReader = (a.priorityPressureReader.read reading).2 := by
  rw [StableWhisperMeasurementAdapter.poll, rememberPriorityObservation]
  rcases a.pendingPriorityObservation with _ | pending
  · rfl
  · dsimp only
    split_ifs <;> rfl

theorem forall_mem_concat {reads : List PriorityObservation} {o : PriorityObservation}
    (hreads : ∀ other ∈ reads, other.state = .clear → other.accepted = true)
    (ho : o.state = .clear → o.accepted = true) :
    ∀ other ∈ reads ++ [o], other.state = .clear → other.accepted = true := by
  intro other hother
  rcases List.mem_append.1 hother with hmem | hmem
  · exact hreads other hmem
  · obtain rfl := List.mem_singleton.1 hmem
    exact ho

theorem Keeps.poll (h : w.Keeps) (reading : Reading) : (w.poll reading).Keeps := by
  have hsound := sound_read h.accepts reading
  refine ⟨?_, ?_, forall_mem_concat h.clear hsound.1⟩
  · rw [PriorityWatch.poll, kept_append, pending_poll, h.pending]
  · rw [PriorityWatch.poll, reader_poll]
    exact hsound.2

/-- To sleep is to read several times. -/
theorem call_sleep (w : PriorityWatch) (readings : List Reading) :
    w.call (.sleepWhilePollingPriority readings) = readings.foldl PriorityWatch.poll w := by
  induction readings generalizing w with
  | nil => rw [call, emissions, List.append_nil]; rfl
  | cons reading readings ih =>
    rw [List.foldl_cons, ← ih, call, call, emissions, PriorityWatch.poll, reader_poll, List.append_assoc]
    rfl

theorem Keeps.call (h : w.Keeps) (c : PriorityCall) : (w.call c).Keeps := by
  rcases c with readings | reading
  · rw [call_sleep]
    induction readings generalizing w with
    | nil => exact h
    | cons reading readings ih => exact ih (h.poll reading)
  · refine ⟨?_, ?_, by simp [PriorityWatch.call]⟩
    · rw [PriorityWatch.call, kept_eq_none_iff.2 rfl, readPriorityObservation]
      rcases hpending : w.adapter.pendingPriorityObservation with _ | pending
      · rfl
      · rfl
    · rw [PriorityWatch.call, readPriorityObservation]
      rcases w.adapter.pendingPriorityObservation with _ | pending
      · exact (sound_read h.accepts reading).2
      · exact h.accepts

theorem keeps_run (calls : List PriorityCall) : (run calls).Keeps := by
  have hstart : Keeps ⟨.new, []⟩ := ⟨rfl, by rintro _ ⟨⟩, by simp⟩
  rw [run]
  generalize (⟨.new, []⟩ : PriorityWatch) = w at *
  induction calls generalizing w with
  | nil => exact hstart
  | cons c calls ih => exact ih _ (hstart.call c)

/-- What is handed over is what is kept of all that was read. -/
theorem Keeps.kept_readBefore (h : w.Keeps) (reading : Reading) :
    kept (w.readBefore reading) = some (w.handed reading) ∧
      ∀ o ∈ w.readBefore reading, o.state = .clear → o.accepted = true := by
  rw [readBefore, handed, readPriorityObservation]
  rcases hpending : w.adapter.pendingPriorityObservation with _ | pending
  · have hkept := h.pending.symm.trans hpending
    refine ⟨?_, forall_mem_concat h.clear (sound_read h.accepts reading).1⟩
    rw [kept_append, hkept]
  · exact ⟨h.pending.symm.trans hpending, h.clear⟩

/-- The next observation that is handed over shows all that was read since the one before, if and only if
    no pressure followed on a barrier that was there for a new producer. -/
theorem speaksFor_handed_iff (calls : List PriorityCall) (reading : Reading) :
    SpeaksFor ((run calls).readBefore reading) ((run calls).handed reading) ↔
      ¬ HiddenByEpoch ((run calls).readBefore reading) := by
  obtain ⟨hkept, hclear⟩ := (keeps_run calls).kept_readBefore reading
  exact speaksFor_kept_iff hclear hkept

/-- A publication of a new producer. -/
def publication (state : PriorityState) (hstate : state = .clear ∨ state = .neutral ∨ state = .asserted)
    (sequence : ℤ) (hpos : 0 < sequence) (reasonCodes : List String) (payload : Char) : Publication :=
  let sha256 (c : Char) : String := String.ofList (List.replicate 64 c)
  ⟨state, "00000000000000000000000000000000", sequence, sequence, sequence, sequence, 0, 0, sha256 '0',
    sha256 '1', reasonCodes, sha256 payload, hstate, hpos⟩

/-- A producer that starts clear and asserts pressure next, while the adapter sleeps. -/
def assertedLater : List PriorityCall :=
  [.sleepWhilePollingPriority
    [⟨some 1, none, some (publication .clear (.inl rfl) 1 (by decide) [] 'a')⟩,
      ⟨some 2, none, some (publication .asserted (.inr (.inr rfl)) 2 (by decide)
        ["higher_priority_busy"] 'b')⟩]]

/-- The pressure was read, and an accepted clear observation is handed over. -/
theorem assertedLater_hidden :
    (∃ o ∈ (run assertedLater).readBefore ⟨some 3, none, none⟩, o.state = .asserted) ∧
      ¬ SpeaksFor ((run assertedLater).readBefore ⟨some 3, none, none⟩)
        ((run assertedLater).handed ⟨some 3, none, none⟩) := by
  have hread : ∃ o ∈ (run assertedLater).readBefore ⟨some 3, none, none⟩, o.state = .asserted := by
    decide
  have hhanded : ((run assertedLater).handed ⟨some 3, none, none⟩).AcceptedClear := by decide
  refine ⟨hread, fun hspeaks => hspeaks.pressure ?_ hhanded⟩
  obtain ⟨o, ho, hstate⟩ := hread
  exact ⟨o, ho, fun hclear => PriorityState.noConfusion (hstate.symm.trans hclear.1)⟩

end PriorityWatch

end Subgen

import Subgen.Pressure.Admission
import Mathlib.Tactic.Linarith

/-!
# The priority signal

A host publishes whether a workload of higher priority needs the machine. The reader
checks that publications follow each other: within the epoch of a producer each has the
next sequence number, an epoch is not taken up again, and a reading that fails is
`unavailable` until the next publication. Whether the bytes of a publication are valid
is decided before (`Publication`); here it is one that is, or none.

* `emissions`: what a reader gives for some readings;
* `generation_pos`: the generations it reports are positive;
* `exists_of_again`: what it reports again it has reported before.
-/

namespace Subgen

/-- `MAX_TRACKED_PRODUCER_EPOCHS`. -/
def maxTrackedProducerEpochs : ℕ := 4096

/-- A publication that passed every check of its own fields. -/
structure Publication where
  state : PriorityState
  epoch : String
  sequence : ℤ
  observedNs : ℤ
  sourceGeneration : ℤ
  sourceObservedNs : ℤ
  heartbeatAgeMs : ℤ
  sourceAgeMs : ℤ
  policySha256 : String
  observationDigest : String
  reasonCodes : List String
  payloadSha256 : String
  published : state = .clear ∨ state = .neutral ∨ state = .asserted
  generation_pos : 0 < sourceGeneration

/-- What one call of the reader finds: the time, the time again if it was not there, and the
    publication, if a valid one could be read. -/
structure Reading where
  nowNs : Option ℤ
  retryNs : Option ℤ
  publication : Option Publication

/-- `PriorityPressureReader`, with a path configured. -/
structure PriorityPressureReader where
  seenEpoch : Option String
  acceptedEpochs : List String
  epochHistorySaturated : Bool
  seenSequence : Option ℤ
  seenSourceGeneration : Option ℤ
  seenSourceObservedNs : Option ℤ
  seenPayloadSha256 : Option String
  lastAccepted : Option PriorityObservation
  unavailableLatched : Bool

namespace PriorityPressureReader

/-- A reader that has read nothing. -/
def new : PriorityPressureReader := ⟨none, [], false, none, none, none, none, none, false⟩

/-- `_bounded_age_ms`. -/
def boundedAgeMs (nowNs : ℤ) (observedNs : Option ℤ) : Option ℤ :=
  observedNs.map fun observed => min 60000 (max 0 (nowNs - observed) / 1000000)

variable (r : PriorityPressureReader)

/-- `_unavailable`: the last accepted observation, no longer accepted. -/
def unavailable (nowNs retryNs : Option ℤ) : PriorityObservation × PriorityPressureReader :=
  let observation := match r.lastAccepted with
    | none => .bare .unavailable true
    | some last =>
      { last with
        state := .unavailable
        heartbeatAgeMs := match nowNs.or retryNs with
          | none => last.heartbeatAgeMs
          | some now => boundedAgeMs now last.observedMonotonicNs
        sourceAgeMs := match nowNs.or retryNs with
          | none => last.sourceAgeMs
          | some now => boundedAgeMs now last.sourceObservedMonotonicNs
        accepted := false
        newPublication := false
        producerEpochChanged := false
        sequenceGap := false
        reasonCodes := [] }
  (observation, { r with unavailableLatched := true })

/-- The publication that was accepted last, found again. -/
def again (p : Publication) (nowNs : ℤ) : PriorityObservation × PriorityPressureReader :=
  match r.lastAccepted with
  | none => r.unavailable (some nowNs) none
  | some last =>
    if r.seenPayloadSha256 ≠ some p.payloadSha256 ∨ r.unavailableLatched then
      r.unavailable (some nowNs) none
    else
      ({ last with
          heartbeatAgeMs := some p.heartbeatAgeMs
          sourceAgeMs := some p.sourceAgeMs
          newPublication := false
          producerEpochChanged := false }, r)

/-- The reader behind a publication it has seen. -/
def seen (p : Publication) : PriorityPressureReader :=
  { r with
    seenEpoch := some p.epoch
    acceptedEpochs := if p.epoch ∈ r.acceptedEpochs then r.acceptedEpochs
      else p.epoch :: r.acceptedEpochs
    seenSequence := some p.sequence
    seenSourceGeneration := some p.sourceGeneration
    seenSourceObservedNs := some p.sourceObservedNs
    seenPayloadSha256 := some p.payloadSha256 }

/-- The observation of a new publication. -/
def observe (p : Publication) (epochChanged : Bool) : PriorityObservation :=
  ⟨p.state, true, some p.heartbeatAgeMs, some p.sourceAgeMs, some p.policySha256,
    some p.observationDigest, some p.epoch, some p.sequence, some p.observedNs,
    some p.sourceGeneration, some p.sourceObservedNs, p.reasonCodes, true, true, epochChanged, false⟩

/-- A publication that may follow what was seen. After a gap it only sets the checkpoint. -/
def accept (p : Publication) (nowNs : ℤ) (epochChanged gap : Bool) :
    PriorityObservation × PriorityPressureReader :=
  if gap then
    let (observation, r) := (r.seen p).unavailable (some nowNs) none
    ({ observation with sourceGeneration := some p.sourceGeneration, sequenceGap := true }, r)
  else
    (observe p epochChanged,
      { r.seen p with
        lastAccepted := some (observe p epochChanged)
        unavailableLatched := false })

/-- A publication of another epoch than the one before. -/
def readNewEpoch (p : Publication) (nowNs : ℤ) : PriorityObservation × PriorityPressureReader :=
  if r.seenEpoch.isSome ∧ p.sequence ≠ 1 then
    r.unavailable (some nowNs) none
  else if p.epoch ∈ r.acceptedEpochs then
    r.unavailable (some nowNs) none
  else if r.acceptedEpochs.length ≥ maxTrackedProducerEpochs then
    { r with epochHistorySaturated := true }.unavailable (some nowNs) none
  else
    r.accept p nowNs true (r.seenEpoch.isNone ∧ p.sequence ≠ 1)

/-- Whether the source of a publication went back, or was refreshed without a new generation. -/
def sourceRegressed (p : Publication) : Bool :=
  match r.seenSourceGeneration, r.seenSourceObservedNs with
  | some generation, some observedNs =>
    p.sourceGeneration < generation ∨
      (if p.sourceGeneration = generation then p.sourceObservedNs ≠ observedNs
        else p.sourceObservedNs ≤ observedNs)
  | _, _ => true

/-- A publication of the epoch before. -/
def readSameEpoch (p : Publication) (nowNs : ℤ) : PriorityObservation × PriorityPressureReader :=
  match r.seenSequence with
  | none => r.unavailable (some nowNs) none
  | some sequence =>
    if p.sequence = sequence then
      r.again p nowNs
    else if p.sequence < sequence ∨ r.sourceRegressed p then
      r.unavailable (some nowNs) none
    else
      r.accept p nowNs false (p.sequence ≠ sequence + 1)

/-- `read`. -/
def read (reading : Reading) : PriorityObservation × PriorityPressureReader :=
  if r.epochHistorySaturated then
    r.unavailable none reading.retryNs
  else
    match reading.nowNs, reading.publication with
    | some now, some p =>
      if r.seenEpoch = some p.epoch then r.readSameEpoch p now else r.readNewEpoch p now
    | now, _ => r.unavailable now reading.retryNs

/-- What the reader gives for some readings, one after another. -/
def emissions : PriorityPressureReader → List Reading → List PriorityObservation
  | _, [] => []
  | r, reading :: readings => (r.read reading).1 :: emissions (r.read reading).2 readings

/-! ## What a reader gives -/

/-- A reading gives the last accepted observation as no longer available, the last accepted
    observation again, or a new publication. -/
inductive Gives (o : PriorityObservation) (r' : PriorityPressureReader) : Prop
  | unavailable (hstate : o.state = .unavailable) (hlast : r'.lastAccepted = r.lastAccepted)
      (hgeneration : ∀ g ∈ o.sourceGeneration, 0 < g ∨
        ∃ last ∈ r.lastAccepted, last.sourceGeneration = some g)
  | again (last : PriorityObservation) (hlast : r.lastAccepted = some last) (hr : r' = r)
      (hgeneration : o.sourceGeneration = last.sourceGeneration)
  | new (p : Publication) (epochChanged : Bool) (ho : o = observe p epochChanged)
      (hlast : r'.lastAccepted = some o)

variable {r} in
/-- A reader that has accepted the same as `r`. -/
theorem gives_unavailable {r' : PriorityPressureReader} (hr : r'.lastAccepted = r.lastAccepted)
    (nowNs retryNs : Option ℤ) :
    r.Gives (r'.unavailable nowNs retryNs).1 (r'.unavailable nowNs retryNs).2 := by
  refine .unavailable ?_ hr ?_
  · rw [unavailable]
    cases r'.lastAccepted <;> rfl
  · intro g hg
    rw [unavailable, hr] at hg
    cases hlast : r.lastAccepted with
    | none => simp [hlast, PriorityObservation.bare] at hg
    | some last => exact .inr ⟨last, rfl, by simpa [hlast] using hg⟩

theorem gives_again (p : Publication) (nowNs : ℤ) :
    r.Gives (r.again p nowNs).1 (r.again p nowNs).2 := by
  rw [again]
  split
  · exact gives_unavailable rfl _ _
  · next last hlast =>
    split
    · exact gives_unavailable rfl _ _
    · exact .again last hlast rfl rfl

theorem gives_accept (p : Publication) (nowNs : ℤ) (epochChanged gap : Bool) :
    r.Gives (r.accept p nowNs epochChanged gap).1 (r.accept p nowNs epochChanged gap).2 := by
  cases gap with
  | false => exact .new p epochChanged rfl rfl
  | true =>
    -- After a gap the observation carries the generation of the publication.
    refine .unavailable ?_ rfl fun g hg => .inl ?_
    · rw [accept, if_pos rfl, unavailable]
      cases (r.seen p).lastAccepted <;> rfl
    · obtain rfl := Option.some.inj hg
      exact p.generation_pos

theorem gives_readNewEpoch (p : Publication) (nowNs : ℤ) :
    r.Gives (r.readNewEpoch p nowNs).1 (r.readNewEpoch p nowNs).2 := by
  rw [readNewEpoch]
  split_ifs
  · exact gives_unavailable rfl _ _
  · exact gives_unavailable rfl _ _
  · refine gives_unavailable (by rfl) _ _
  · exact r.gives_accept p nowNs _ _

theorem gives_readSameEpoch (p : Publication) (nowNs : ℤ) :
    r.Gives (r.readSameEpoch p nowNs).1 (r.readSameEpoch p nowNs).2 := by
  rw [readSameEpoch]
  split
  · exact gives_unavailable rfl _ _
  · split_ifs
    · exact r.gives_again p nowNs
    · exact gives_unavailable rfl _ _
    · exact r.gives_accept p nowNs _ _

theorem gives_read (reading : Reading) : r.Gives (r.read reading).1 (r.read reading).2 := by
  rw [read]
  split_ifs
  · exact gives_unavailable rfl _ _
  · split
    · split_ifs
      · exact r.gives_readSameEpoch _ _
      · exact r.gives_readNewEpoch _ _
    · exact gives_unavailable rfl _ _

/-- What a reader can give at all. -/
def CanEmit (o : PriorityObservation) : Prop := ∃ readings, o ∈ emissions .new readings

/-- The last accepted observation of a reader is a publication it has given. -/
def Remembers (past : List PriorityObservation) : Prop :=
  ∀ last ∈ r.lastAccepted, last ∈ past ∧ last.newPublication = true ∧
    ∃ g, last.sourceGeneration = some g ∧ 0 < g

variable {r} in
theorem Remembers.read {past : List PriorityObservation} (h : r.Remembers past)
    (reading : Reading) : (r.read reading).2.Remembers (past ++ [(r.read reading).1]) := by
  have hpast : r.Remembers (past ++ [(r.read reading).1]) := fun last hlast =>
    ⟨List.mem_append_left _ (h last hlast).1, (h last hlast).2⟩
  obtain ⟨_, hsame, _⟩ | ⟨_, _, hr, _⟩ | ⟨p, epochChanged, ho, hnew⟩ := r.gives_read reading
  · rwa [Remembers, hsame]
  · rwa [hr]
  · intro last hlast
    rw [hnew, Option.mem_some_iff] at hlast
    rw [hlast]
    exact ⟨List.mem_append_right _ List.mem_cons_self, hlast ▸ ho ▸ rfl, p.sourceGeneration,
      hlast ▸ ho ▸ rfl, p.generation_pos⟩

/-- A new reader remembers nothing. -/
theorem remembers_new : new.Remembers [] := by
  rintro last ⟨⟩

variable {r} in
/-- The generations that a reader reports are positive. -/
theorem Remembers.generation_pos {past : List PriorityObservation} (h : r.Remembers past)
    (readings : List Reading) :
    ∀ o ∈ emissions r readings, ∀ g ∈ o.sourceGeneration, 0 < g := by
  induction readings generalizing r past with
  | nil => exact fun o ho => absurd ho List.not_mem_nil
  | cons reading readings ih =>
    intro o ho
    rcases List.mem_cons.1 ho with rfl | ho
    · intro g hg
      obtain ⟨_, _, hgeneration⟩ | ⟨last, hlast, _, hgeneration⟩ | ⟨p, _, hpublished, _⟩ :=
        r.gives_read reading
      · rcases hgeneration g hg with hpos | ⟨last, hlast, hg'⟩
        · exact hpos
        · obtain ⟨_, _, g', hg'', hpos⟩ := h last hlast
          rw [hg''] at hg'
          exact Option.some.inj hg' ▸ hpos
      · obtain ⟨_, _, g', hg', hpos⟩ := h last hlast
        rw [hgeneration, hg', Option.mem_some_iff] at hg
        exact hg ▸ hpos
      · rw [hpublished] at hg
        exact Option.some.inj hg ▸ p.generation_pos
    · exact ih (h.read reading) o ho

theorem CanEmit.generation_pos {o : PriorityObservation} (h : CanEmit o) :
    ∀ g ∈ o.sourceGeneration, 0 < g := by
  obtain ⟨readings, ho⟩ := h
  exact remembers_new.generation_pos readings o ho

variable {r} in
/-- An observation that is neither new nor unavailable repeats a publication: its generation was
    reported before. -/
theorem Remembers.exists_of_again {past : List PriorityObservation} (h : r.Remembers past)
    {readings : List Reading} {before after : List PriorityObservation} {o : PriorityObservation}
    (heq : emissions r readings = before ++ o :: after) (hstate : o.state ≠ .unavailable)
    (hnew : o.newPublication = false) :
    ∃ o' ∈ past ++ before, o'.newPublication = true ∧ o'.sourceGeneration = o.sourceGeneration := by
  induction readings generalizing r past before with
  | nil => simp [emissions] at heq
  | cons reading readings ih =>
    rw [emissions] at heq
    rcases List.cons_eq_append_iff.1 heq with ⟨rfl, heq⟩ | ⟨before, rfl, heq⟩
    · obtain ⟨rfl, rfl⟩ := List.cons.inj heq
      obtain ⟨hunavailable, _, _⟩ | ⟨last, hlast, _, hgeneration⟩ | ⟨_, _, hpublished, _⟩ :=
        r.gives_read reading
      · exact absurd hunavailable hstate
      · obtain ⟨hmem, hpublication, _⟩ := h last hlast
        exact ⟨last, List.mem_append_left _ hmem, hpublication, hgeneration.symm⟩
      · rw [hpublished] at hnew
        simp [observe] at hnew
    · obtain ⟨o', hmem, hrest⟩ := ih (h.read reading) (List.cons.inj heq).2
      rw [List.append_assoc] at hmem
      exact ⟨o', hmem, hrest⟩

/-- The observations are what one reader gave, the newest first. -/
def InOrder (observations : List PriorityObservation) : Prop :=
  ∃ readings, observations.reverse = emissions .new readings

theorem InOrder.exists_of_again {newer older : List PriorityObservation} {o : PriorityObservation}
    (h : InOrder (newer ++ o :: older)) (hstate : o.state ≠ .unavailable)
    (hnew : o.newPublication = false) :
    ∃ o' ∈ older, o'.newPublication = true ∧ o'.sourceGeneration = o.sourceGeneration := by
  obtain ⟨readings, heq⟩ := h
  rw [List.reverse_append, List.reverse_cons, List.append_assoc] at heq
  obtain ⟨o', hmem, hrest⟩ := remembers_new.exists_of_again heq.symm hstate hnew
  exact ⟨o', by simpa using hmem, hrest⟩

end PriorityPressureReader

end Subgen

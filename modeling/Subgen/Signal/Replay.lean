import Subgen.Signal.Reader

/-!
# Replays of the signal

Whoever can write the file of the signal can write what was there before. The reader accepts
a publication only if it is the next of its epoch or the first of an epoch it has not seen,
and repeats the last one only as long as nothing was unavailable since (`replay_safety`).

What one reading can do is `Outcome`; what the reader remembers of a whole run is `Tracks`,
which holds of every run (`tracks_readerAfter`). That a repetition stands for the same bytes
rests on the hash being injective on the payloads of the run.
-/

namespace Subgen

open Json Procedure PublicationArguments

namespace PriorityPressureReader

variable {r r' : PriorityPressureReader} {reading : Reading} {o : PriorityObservation}
  {p : Publication}

/-! ## One reading -/

/-- The publication belongs to an epoch that was not seen before. -/
def Enters (r : PriorityPressureReader) (p : Publication) : Prop :=
  r.seenEpoch ≠ some p.epoch ∧ p.epoch ∉ r.acceptedEpochs

/-- The publication goes on from the sequence number `n` of its epoch. -/
structure Continues (r : PriorityPressureReader) (p : Publication) (n : ℤ) : Prop where
  epoch : r.seenEpoch = some p.epoch
  sequence : r.seenSequence = some n
  lt : n < p.sequence
  source : ∃ g, r.seenSourceGeneration = some g ∧ g ≤ p.sourceGeneration

/-- What one reading does. -/
inductive Outcome (r : PriorityPressureReader) (reading : Reading) (o : PriorityObservation)
    (r' : PriorityPressureReader) : Prop
  | unavailable (hstate : o.state = .unavailable) (haccepted : o.accepted = false)
      (hnew : o.newPublication = false) (hgap : o.sequenceGap = false)
      (hr : r' = { r with
        epochHistorySaturated := r'.epochHistorySaturated, unavailableLatched := true })
  | gap (p : Publication) (hp : reading.publication = some p) (hstate : o.state = .unavailable)
      (haccepted : o.accepted = false) (hnew : o.newPublication = false)
      (hgap : o.sequenceGap = true) (hr : r' = { r.seen p with unavailableLatched := true })
      (hfollows : r.Enters p ∨ ∃ n, r.Continues p n)
  | again (p : Publication) (last : PriorityObservation) (hp : reading.publication = some p)
      (hpayload : r.seenPayloadSha256 = some p.payloadSha256)
      (hlatched : r.unavailableLatched = false) (hlast : r.lastAccepted = some last) (hr : r' = r)
      (ho : o = { last with
        heartbeatAgeMs := some p.heartbeatAgeMs
        sourceAgeMs := some p.sourceAgeMs
        newPublication := false
        producerEpochChanged := false })
  | new (p : Publication) (changed : Bool) (hp : reading.publication = some p)
      (ho : o = observe p changed)
      (hr : r' = { r.seen p with lastAccepted := some o, unavailableLatched := false })
      (hfollows : (r.Enters p ∧ p.sequence = 1) ∨ ∃ n, r.Continues p n ∧ p.sequence = n + 1)

theorem outcome_unavailable (nowNs retryNs : Option ℤ) :
    Outcome r reading (r.unavailable nowNs retryNs).1 (r.unavailable nowNs retryNs).2 := by
  refine .unavailable ?_ ?_ ?_ ?_ rfl <;>
  · rw [unavailable]
    cases r.lastAccepted <;> rfl

theorem outcome_accept {changed gap : Bool} (nowNs : ℤ) (hp : reading.publication = some p)
    (hfollows : r.Enters p ∨ ∃ n, r.Continues p n)
    (hnext : gap = false →
      (r.Enters p ∧ p.sequence = 1) ∨ ∃ n, r.Continues p n ∧ p.sequence = n + 1) :
    Outcome r reading (r.accept p nowNs changed gap).1 (r.accept p nowNs changed gap).2 := by
  cases gap with
  | false => exact .new p changed hp rfl rfl (hnext rfl)
  | true =>
    refine .gap p hp ?_ ?_ ?_ rfl rfl hfollows <;>
    · rw [accept, if_pos rfl, unavailable]
      cases (r.seen p).lastAccepted <;> rfl

theorem outcome_readNewEpoch (nowNs : ℤ) (hp : reading.publication = some p)
    (hepoch : r.seenEpoch ≠ some p.epoch) :
    Outcome r reading (r.readNewEpoch p nowNs).1 (r.readNewEpoch p nowNs).2 := by
  rw [readNewEpoch]
  split_ifs with hfirst hmem hfull
  · exact outcome_unavailable _ _
  · exact outcome_unavailable _ _
  · refine .unavailable ?_ ?_ ?_ ?_ rfl <;>
    · rw [unavailable]
      cases r.lastAccepted <;> rfl
  · refine outcome_accept nowNs hp (.inl ⟨hepoch, hmem⟩) fun hgap => .inl ⟨⟨hepoch, hmem⟩, ?_⟩
    by_contra hne
    cases hseen : r.seenEpoch with
    | none => simp [hseen, hne] at hgap
    | some e => exact hfirst ⟨by simp [hseen], hne⟩

theorem le_of_sourceRegressed (h : r.sourceRegressed p = false) :
    ∃ g, r.seenSourceGeneration = some g ∧ g ≤ p.sourceGeneration := by
  rw [sourceRegressed] at h
  split at h
  · next generation observedNs hgeneration _ =>
    simp only [decide_eq_false_iff_not, not_or, not_lt] at h
    exact ⟨generation, hgeneration, h.1⟩
  · cases h

theorem outcome_readSameEpoch (nowNs : ℤ) (hp : reading.publication = some p)
    (hepoch : r.seenEpoch = some p.epoch) :
    Outcome r reading (r.readSameEpoch p nowNs).1 (r.readSameEpoch p nowNs).2 := by
  rw [readSameEpoch]
  split
  · exact outcome_unavailable _ _
  · next sequence hsequence =>
    split_ifs with hsame hback
    · rw [again]
      split
      · exact outcome_unavailable _ _
      · next last hlast =>
        split_ifs with hother
        · exact outcome_unavailable _ _
        · rw [not_or, not_not, Bool.not_eq_true] at hother
          exact .again p last hp hother.1 hother.2 hlast rfl rfl
    · exact outcome_unavailable _ _
    · rw [not_or, not_lt, Bool.not_eq_true] at hback
      have hcontinues : r.Continues p sequence :=
        ⟨hepoch, hsequence, lt_of_le_of_ne hback.1 (Ne.symm hsame), le_of_sourceRegressed hback.2⟩
      refine outcome_accept nowNs hp (.inr ⟨sequence, hcontinues⟩) fun hgap => ?_
      simp only [ne_eq, decide_not, Bool.not_eq_false', decide_eq_true_eq] at hgap
      exact .inr ⟨sequence, hcontinues, hgap⟩

theorem outcome_read (r : PriorityPressureReader) (reading : Reading) :
    Outcome r reading (r.read reading).1 (r.read reading).2 := by
  rw [read]
  split_ifs
  · exact outcome_unavailable _ _
  · split
    · next now p _ hp =>
      split_ifs with hepoch
      · exact outcome_readSameEpoch now hp hepoch
      · exact outcome_readNewEpoch now hp hepoch
    · exact outcome_unavailable _ _

end PriorityPressureReader

open PriorityPressureReader

/-! ## What bytes encode -/

/-- The bytes hold these arguments. -/
def Encodes (F : FloatReader) (raw : List UInt8) (a : PublicationArguments) : Prop :=
  ∃ value, decode F raw = .ok value ∧ a.In value ∧ a.Valid

theorem Encodes.unique {F : FloatReader} {raw : List UInt8} {a b : PublicationArguments}
    (ha : Encodes F raw a) (hb : Encodes F raw b) : a = b := by
  obtain ⟨value, hdecode, hin, _⟩ := ha
  obtain ⟨value', hdecode', hin', _⟩ := hb
  obtain rfl := Except.ok.inj (hdecode.symm.trans hdecode')
  have hreasons : a.reasonCodes = b.reasonCodes :=
    List.map_injective_iff.2 (fun _ _ h => Json.str.inj h)
      (Json.array.inj (hin.reasons.symm.trans hin'.reasons))
  cases a
  cases b
  simp only [PublicationArguments.mk.injEq]
  exact ⟨Json.str.inj (hin.boot.symm.trans hin'.boot), Json.str.inj (hin.epoch.symm.trans hin'.epoch),
    Json.int.inj (hin.sequence.symm.trans hin'.sequence),
    Json.int.inj (hin.observed.symm.trans hin'.observed),
    Json.int.inj (hin.generation.symm.trans hin'.generation),
    Json.int.inj (hin.source.symm.trans hin'.source),
    Json.str.inj (hin.observation.symm.trans hin'.observation),
    Json.str.inj (hin.policy.symm.trans hin'.policy),
    Json.bool.inj (hin.pressure.symm.trans hin'.pressure),
    Json.bool.inj (hin.clearEligible.symm.trans hin'.clearEligible), hreasons⟩

/-- What an observation has of the arguments of a publication. -/
structure Shows (o : PriorityObservation) (a : PublicationArguments) : Prop where
  state : o.state = a.state
  epoch : o.producerEpoch = some (Text.toString a.producerEpoch)
  sequence : o.sequence = some a.sequence
  generation : o.sourceGeneration = some a.sourceGeneration
  reasons : o.reasonCodes = a.reasonCodes.map Text.toString

section

variable {F : FloatReader} {sha256 : List UInt8 → String} {s : SignalReading} {p : Publication}

/-- A publication is what the bytes of the snapshot encode, and fresh. -/
theorem publication_eq_some (h : s.publication F sha256 = some p) :
    ∃ now snapshot a, s.nowNs = some now ∧ s.snapshot = some snapshot ∧
      p.payloadSha256 = sha256 snapshot.raw ∧ Encodes F snapshot.raw a ∧ a.Fresh now ∧
      ∀ changed, Shows (observe p changed) a := by
  rw [SignalReading.publication] at h
  split at h
  · next now raw bootHash hnow hpayload _ =>
    split at h
    · next parsed hparse =>
      obtain rfl := Option.some.inj h
      obtain ⟨uid, _, hpayload⟩ := bind_eq_ok.1 hpayload
      obtain ⟨snapshot, hsnapshot, hraw⟩ := bind_eq_ok.1 hpayload
      obtain rfl : snapshot.raw = raw := by
        rw [validateSnapshot] at hraw
        split_ifs at hraw
        exact Except.ok.inj hraw
      obtain ⟨value, hdecode, hvalidate⟩ := bind_eq_ok.1 hparse
      obtain ⟨_, a, hin, hvalid, _, hfresh, rfl⟩ := validateValue_eq_ok.1 hvalidate
      refine ⟨now, snapshot, a, hnow, ?_, rfl, ⟨value, hdecode, hin, hvalid⟩, hfresh, fun _ =>
        ⟨rfl, rfl, rfl, rfl, rfl⟩⟩
      cases hsome : s.snapshot with
      | none => rw [hsome] at hsnapshot; cases hsnapshot
      | some _ => rw [hsome] at hsnapshot; rw [Except.ok.inj hsnapshot]
    · cases h
  · cases h

end

/-! ## What a reader remembers -/

section Run

variable (F : FloatReader) (sha256 : List UInt8 → String)

/-- The publication that was validated last: one that was accepted, or one behind a gap. -/
def checkpoint : List SignalReading → Option Publication
  | [] => none
  | s :: past =>
    if (observedAfter F sha256 past s).newPublication = true ∨
        (observedAfter F sha256 past s).sequenceGap = true then
      s.publication F sha256
    else
      checkpoint past

/-- An earlier reading of a run, with what was observed. -/
def Earlier (past past' : List SignalReading) (s' : SignalReading) (o' : PriorityObservation) : Prop :=
  s' :: past' <:+ past ∧ o' = observedAfter F sha256 past' s'

variable {F sha256} {past past' : List SignalReading} {s s' : SignalReading}
  {o' : PriorityObservation}

theorem Earlier.cons (h : Earlier F sha256 past past' s' o') :
    Earlier F sha256 (s :: past) past' s' o' := ⟨h.1.trans (List.suffix_cons _ _), h.2⟩

/-- A reading of a longer run is its newest one or an earlier one. -/
theorem earlier_cons_iff : Earlier F sha256 (s :: past) past' s' o' ↔
    (s' = s ∧ past' = past ∧ o' = observedAfter F sha256 past s) ∨ Earlier F sha256 past past' s' o' := by
  constructor
  · rintro ⟨hsuffix, rfl⟩
    rcases List.suffix_cons_iff.1 hsuffix with heq | hsuffix
    · obtain ⟨rfl, rfl⟩ := List.cons.inj heq
      exact .inl ⟨rfl, rfl, rfl⟩
    · exact .inr ⟨hsuffix, rfl⟩
  · rintro (⟨rfl, rfl, rfl⟩ | h)
    · exact ⟨List.suffix_rfl, rfl⟩
    · exact h.cons

variable (F sha256) in
/-- What the reader knows of the run behind it. -/
structure Tracks (past : List SignalReading) (r : PriorityPressureReader) : Prop where
  epoch_eq : r.seenEpoch = (checkpoint F sha256 past).map Publication.epoch
  sequence_eq : r.seenSequence = (checkpoint F sha256 past).map Publication.sequence
  epoch_mem : ∀ e ∈ r.seenEpoch, e ∈ r.acceptedEpochs
  accepted : ∀ past' s' o', Earlier F sha256 past past' s' o' → o'.accepted = true →
    ∃ e n g, o'.producerEpoch = some e ∧ o'.sequence = some n ∧ o'.sourceGeneration = some g ∧
      e ∈ r.acceptedEpochs ∧ (r.seenEpoch = some e →
        (∃ m, r.seenSequence = some m ∧ n ≤ m) ∧ ∃ h, r.seenSourceGeneration = some h ∧ g ≤ h)
  left : ∀ past₁ s₁ o₁ past₂ s₂ o₂, Earlier F sha256 past past₂ s₂ o₂ →
    Earlier F sha256 past₂ past₁ s₁ o₁ → o₁.accepted = true → o₂.accepted = true →
    o₁.producerEpoch ≠ o₂.producerEpoch → r.seenEpoch ≠ o₁.producerEpoch
  unlatched : r.unavailableLatched = false → ∀ past' s' o', Earlier F sha256 past past' s' o' →
    o'.state = .unavailable → ∃ past'' s'' o'', Earlier F sha256 past past'' s'' o'' ∧
      Earlier F sha256 past'' past' s' o' ∧ o''.newPublication = true
  last : r.unavailableLatched = false → ∀ last ∈ r.lastAccepted, ∃ s' ∈ past, ∃ p changed,
    s'.publication F sha256 = some p ∧ last = observe p changed ∧
      r.seenPayloadSha256 = some p.payloadSha256 ∧ r.seenEpoch = some p.epoch ∧
      r.seenSequence = some p.sequence ∧ r.seenSourceGeneration = some p.sourceGeneration

theorem tracks_new : Tracks F sha256 [] new where
  epoch_eq := rfl
  sequence_eq := rfl
  epoch_mem := by rintro _ ⟨⟩
  accepted := by rintro _ _ _ ⟨hsuffix, _⟩; simp at hsuffix
  left := by rintro _ _ _ _ _ _ ⟨hsuffix, _⟩; simp at hsuffix
  unlatched := by rintro _ _ _ _ ⟨hsuffix, _⟩; simp at hsuffix
  last := by rintro _ _ ⟨⟩

section Step

variable {r : PriorityPressureReader} {o : PriorityObservation} {p : Publication}

theorem checkpoint_cons_of_false (ho : observedAfter F sha256 past s = o)
    (hnew : o.newPublication = false) (hgap : o.sequenceGap = false) :
    checkpoint F sha256 (s :: past) = checkpoint F sha256 past := by
  rw [checkpoint, ho, if_neg (by simp [hnew, hgap])]

theorem checkpoint_cons_of_true (ho : observedAfter F sha256 past s = o)
    (h : o.newPublication = true ∨ o.sequenceGap = true) (hp : s.publication F sha256 = some p) :
    checkpoint F sha256 (s :: past) = some p := by
  rw [checkpoint, ho, if_pos h, hp]

theorem mem_seen_acceptedEpochs {e : String} :
    e ∈ (r.seen p).acceptedEpochs ↔ e = p.epoch ∨ e ∈ r.acceptedEpochs := by
  rw [seen]
  split
  · next hmem =>
    refine ⟨.inr, ?_⟩
    rintro (rfl | h)
    · exact hmem
    · exact h
  · exact List.mem_cons

/-- What was accepted before is left behind by a publication that may follow. -/
theorem Tracks.accepted_seen (h : Tracks F sha256 past r) (hfollows : r.Enters p ∨ ∃ n, r.Continues p n)
    (he : Earlier F sha256 past past' s' o') (hacc : o'.accepted = true) :
    ∃ e n g, o'.producerEpoch = some e ∧ o'.sequence = some n ∧ o'.sourceGeneration = some g ∧
      e ∈ r.acceptedEpochs ∧ (e = p.epoch → n < p.sequence ∧ g ≤ p.sourceGeneration) := by
  obtain ⟨e, n, g, hepoch, hsequence, hgeneration, hmem, hbound⟩ := h.accepted past' s' o' he hacc
  refine ⟨e, n, g, hepoch, hsequence, hgeneration, hmem, ?_⟩
  rintro rfl
  rcases hfollows with henters | ⟨m, hcontinues⟩
  · exact absurd hmem henters.2
  · obtain ⟨⟨m', hm', hle⟩, g', hg', hle'⟩ := hbound hcontinues.epoch
    obtain ⟨g'', hg'', hle''⟩ := hcontinues.source
    obtain rfl := Option.some.inj (hm'.symm.trans hcontinues.sequence)
    obtain rfl := Option.some.inj (hg'.symm.trans hg'')
    exact ⟨lt_of_le_of_lt hle hcontinues.lt, hle'.trans hle''⟩

/-- A publication that may follow does not belong to an epoch that was left. -/
theorem Tracks.left_seen (h : Tracks F sha256 past r) (hfollows : r.Enters p ∨ ∃ n, r.Continues p n)
    {past₁ past₂ : List SignalReading} {s₁ s₂ : SignalReading} {o₁ o₂ : PriorityObservation}
    (h₂ : Earlier F sha256 past past₂ s₂ o₂) (h₁ : Earlier F sha256 past₂ past₁ s₁ o₁)
    (hacc₁ : o₁.accepted = true) (hacc₂ : o₂.accepted = true)
    (hne : o₁.producerEpoch ≠ o₂.producerEpoch) : some p.epoch ≠ o₁.producerEpoch := by
  have h₁' : Earlier F sha256 past past₁ s₁ o₁ :=
    ⟨h₁.1.trans ((List.suffix_cons _ _).trans h₂.1), h₁.2⟩
  obtain ⟨e, _, _, hepoch, _, _, hmem, _⟩ := h.accepted _ _ _ h₁' hacc₁
  rw [hepoch]
  intro heq
  obtain rfl := Option.some.inj heq
  rcases hfollows with henters | ⟨m, hcontinues⟩
  · exact henters.2 hmem
  · exact h.left _ _ _ _ _ _ h₂ h₁ hacc₁ hacc₂ hne (hcontinues.epoch.trans hepoch.symm)

/-- A reading that gives nothing new changes nothing but the latch. -/
theorem Tracks.unavailable (h : Tracks F sha256 past r) (ho : observedAfter F sha256 past s = o)
    (haccepted : o.accepted = false) (hnew : o.newPublication = false) (hgap : o.sequenceGap = false)
    (saturated : Bool) : Tracks F sha256 (s :: past)
      { r with epochHistorySaturated := saturated, unavailableLatched := true } where
  epoch_eq := by rw [checkpoint_cons_of_false ho hnew hgap]; exact h.epoch_eq
  sequence_eq := by rw [checkpoint_cons_of_false ho hnew hgap]; exact h.sequence_eq
  epoch_mem := h.epoch_mem
  accepted past' s' o' he hacc := by
    rcases earlier_cons_iff.1 he with ⟨_, _, rfl⟩ | he
    · rw [ho, haccepted] at hacc; cases hacc
    · exact h.accepted past' s' o' he hacc
  left past₁ s₁ o₁ past₂ s₂ o₂ h₂ h₁ hacc₁ hacc₂ := by
    rcases earlier_cons_iff.1 h₂ with ⟨_, _, rfl⟩ | h₂
    · rw [ho, haccepted] at hacc₂; cases hacc₂
    · exact h.left past₁ s₁ o₁ past₂ s₂ o₂ h₂ h₁ hacc₁ hacc₂
  unlatched hlatched := by cases hlatched
  last hlatched := by cases hlatched

/-- Behind a gap there is a new checkpoint. -/
theorem Tracks.gap (h : Tracks F sha256 past r) (ho : observedAfter F sha256 past s = o)
    (hp : s.publication F sha256 = some p) (haccepted : o.accepted = false)
    (hgap : o.sequenceGap = true) (hfollows : r.Enters p ∨ ∃ n, r.Continues p n) :
    Tracks F sha256 (s :: past) { r.seen p with unavailableLatched := true } where
  epoch_eq := by rw [checkpoint_cons_of_true ho (.inr hgap) hp]; rfl
  sequence_eq := by rw [checkpoint_cons_of_true ho (.inr hgap) hp]; rfl
  epoch_mem e he := mem_seen_acceptedEpochs.2 (.inl (Option.some.inj he).symm)
  accepted past' s' o' he hacc := by
    rcases earlier_cons_iff.1 he with ⟨_, _, rfl⟩ | he
    · rw [ho, haccepted] at hacc; cases hacc
    · obtain ⟨e, n, g, hepoch, hsequence, hgeneration, hmem, hbound⟩ := h.accepted_seen hfollows he hacc
      refine ⟨e, n, g, hepoch, hsequence, hgeneration, mem_seen_acceptedEpochs.2 (.inr hmem), ?_⟩
      intro heq
      obtain ⟨hlt, hle⟩ := hbound (Option.some.inj heq).symm
      exact ⟨⟨_, rfl, hlt.le⟩, _, rfl, hle⟩
  left past₁ s₁ o₁ past₂ s₂ o₂ h₂ h₁ hacc₁ hacc₂ hne := by
    rcases earlier_cons_iff.1 h₂ with ⟨_, _, rfl⟩ | h₂
    · rw [ho, haccepted] at hacc₂; cases hacc₂
    · exact h.left_seen hfollows h₂ h₁ hacc₁ hacc₂ hne
  unlatched hlatched := by cases hlatched
  last hlatched := by cases hlatched

/-- The last publication once more. -/
theorem Tracks.again (h : Tracks F sha256 past r) {last : PriorityObservation}
    (ho : observedAfter F sha256 past s = { last with
      heartbeatAgeMs := some p.heartbeatAgeMs
      sourceAgeMs := some p.sourceAgeMs
      newPublication := false
      producerEpochChanged := false })
    (hlatched : r.unavailableLatched = false) (hlast : r.lastAccepted = some last) :
    Tracks F sha256 (s :: past) r := by
  obtain ⟨s₀, hs₀, q, changed, hq, rfl, hpayload, hepoch, hsequence, hgeneration⟩ :=
    h.last hlatched last hlast
  have hcheckpoint := checkpoint_cons_of_false ho rfl rfl
  -- The checkpoint stays; what was accepted is accepted as the same publication.
  exact {
    epoch_eq := by rw [hcheckpoint]; exact h.epoch_eq
    sequence_eq := by rw [hcheckpoint]; exact h.sequence_eq
    epoch_mem := h.epoch_mem
    accepted := by
      intro past' s' o' he hacc
      rcases earlier_cons_iff.1 he with ⟨_, _, rfl⟩ | he
      · rw [ho]
        exact ⟨_, _, _, rfl, rfl, rfl, h.epoch_mem _ hepoch, fun _ =>
          ⟨⟨_, hsequence, le_rfl⟩, _, hgeneration, le_rfl⟩⟩
      · exact h.accepted past' s' o' he hacc
    left := by
      intro past₁ s₁ o₁ past₂ s₂ o₂ h₂ h₁ hacc₁ hacc₂ hne
      rcases earlier_cons_iff.1 h₂ with ⟨_, rfl, rfl⟩ | h₂
      · rw [ho] at hne
        rw [hepoch]
        exact hne.symm
      · exact h.left past₁ s₁ o₁ past₂ s₂ o₂ h₂ h₁ hacc₁ hacc₂ hne
    unlatched := by
      intro _ past' s' o' he hstate
      rcases earlier_cons_iff.1 he with ⟨_, _, rfl⟩ | he
      · rw [ho] at hstate
        rcases q.published with hq | hq | hq <;> exact absurd (hq.symm.trans hstate) (by decide)
      · obtain ⟨past'', s'', o'', he'', he', hnew⟩ := h.unlatched hlatched past' s' o' he hstate
        exact ⟨past'', s'', o'', he''.cons, he', hnew⟩
    last := by
      intro _ last' hlast'
      obtain rfl := Option.some.inj (hlast.symm.trans hlast')
      exact ⟨s₀, List.mem_cons_of_mem _ hs₀, q, changed, hq, rfl, hpayload, hepoch, hsequence,
        hgeneration⟩ }

/-- A new publication. -/
theorem Tracks.new (h : Tracks F sha256 past r) {changed : Bool}
    (ho : observedAfter F sha256 past s = observe p changed) (hp : s.publication F sha256 = some p)
    (hfollows : r.Enters p ∨ ∃ n, r.Continues p n) :
    Tracks F sha256 (s :: past)
      { r.seen p with lastAccepted := some (observe p changed), unavailableLatched := false } where
  epoch_eq := by rw [checkpoint_cons_of_true ho (.inl rfl) hp]; rfl
  sequence_eq := by rw [checkpoint_cons_of_true ho (.inl rfl) hp]; rfl
  epoch_mem e he := mem_seen_acceptedEpochs.2 (.inl (Option.some.inj he).symm)
  accepted past' s' o' he hacc := by
    rcases earlier_cons_iff.1 he with ⟨_, _, rfl⟩ | he
    · rw [ho]
      exact ⟨_, _, _, rfl, rfl, rfl, mem_seen_acceptedEpochs.2 (.inl rfl), fun _ =>
        ⟨⟨_, rfl, le_rfl⟩, _, rfl, le_rfl⟩⟩
    · obtain ⟨e, n, g, hepoch, hsequence, hgeneration, hmem, hbound⟩ := h.accepted_seen hfollows he hacc
      refine ⟨e, n, g, hepoch, hsequence, hgeneration, mem_seen_acceptedEpochs.2 (.inr hmem), ?_⟩
      intro heq
      obtain ⟨hlt, hle⟩ := hbound (Option.some.inj heq).symm
      exact ⟨⟨_, rfl, hlt.le⟩, _, rfl, hle⟩
  left past₁ s₁ o₁ past₂ s₂ o₂ h₂ h₁ hacc₁ hacc₂ hne := by
    rcases earlier_cons_iff.1 h₂ with ⟨_, rfl, rfl⟩ | h₂
    · rw [ho] at hne
      exact hne.symm
    · exact h.left_seen hfollows h₂ h₁ hacc₁ hacc₂ hne
  unlatched _ past' s' o' he hstate := by
    rcases earlier_cons_iff.1 he with ⟨_, _, rfl⟩ | he
    · rw [ho] at hstate
      rcases p.published with hq | hq | hq <;> exact absurd (hq.symm.trans hstate) (by decide)
    · exact ⟨past, s, _, ⟨List.suffix_rfl, rfl⟩, he, by rw [ho]; rfl⟩
  last _ last hlast := by
    obtain rfl := Option.some.inj hlast
    exact ⟨s, List.mem_cons_self, p, changed, hp, rfl, rfl, rfl, rfl, rfl⟩

end Step

variable (F sha256) in
/-- The outcome of the reading behind a run. -/
theorem outcome_observedAfter (past : List SignalReading) (s : SignalReading) :
    Outcome (readerAfter F sha256 past) (s.toReading F sha256) (observedAfter F sha256 past s)
      (readerAfter F sha256 (s :: past)) := outcome_read _ _

variable (F sha256) in
theorem tracks_readerAfter (past : List SignalReading) :
    Tracks F sha256 past (readerAfter F sha256 past) := by
  induction past with
  | nil => exact tracks_new
  | cons s past ih =>
    cases outcome_observedAfter F sha256 past s with
    | unavailable hstate haccepted hnew hgap hr =>
      rw [hr]
      exact ih.unavailable rfl haccepted hnew hgap _
    | gap p hp hstate haccepted hnew hgap hr hfollows =>
      rw [hr]
      exact ih.gap rfl hp haccepted hgap hfollows
    | again p last hp hpayload hlatched hlast hr ho =>
      rw [hr]
      exact ih.again ho hlatched hlast
    | new p changed hp ho hr hfollows =>
      rw [hr, ho]
      exact ih.new ho hp (hfollows.imp And.left fun ⟨n, hn⟩ => ⟨n, hn.1⟩)

/-! ## Replays -/

/-- The bytes that were read. -/
def payloads (past : List SignalReading) : List (List UInt8) :=
  past.filterMap fun s => s.snapshot.map PrioritySignalSnapshot.raw

theorem mem_payloads {snapshot : PrioritySignalSnapshot} (hs : s ∈ past)
    (hsnapshot : s.snapshot = some snapshot) : snapshot.raw ∈ payloads past :=
  List.mem_filterMap.2 ⟨s, hs, by rw [hsnapshot]; rfl⟩

/-- A new publication is the first of its epoch or the next one. -/
theorem exists_of_new (hnew : (observedAfter F sha256 past s).newPublication = true) :
    ∃ p changed, s.publication F sha256 = some p ∧ observedAfter F sha256 past s = observe p changed ∧
      (((readerAfter F sha256 past).Enters p ∧ p.sequence = 1) ∨
        ∃ n, (readerAfter F sha256 past).Continues p n ∧ p.sequence = n + 1) := by
  cases outcome_observedAfter F sha256 past s with
  | unavailable _ _ hfalse => rw [hfalse] at hnew; cases hnew
  | gap _ _ _ _ hfalse => rw [hfalse] at hnew; cases hnew
  | again _ _ _ _ _ _ _ ho => rw [ho] at hnew; cases hnew
  | new p changed hp ho _ hfollows => exact ⟨p, changed, hp, ho, hfollows⟩

/-- What is accepted is what the bytes that were read encode. -/
theorem shows_of_accepted (hsha : Set.InjOn sha256 {raw | raw ∈ payloads (s :: past)})
    (hacc : (observedAfter F sha256 past s).accepted = true) :
    ∃ now snapshot a, s.nowNs = some now ∧ s.snapshot = some snapshot ∧
      Encodes F snapshot.raw a ∧ a.Fresh now ∧ Shows (observedAfter F sha256 past s) a := by
  cases outcome_observedAfter F sha256 past s with
  | unavailable _ hfalse => rw [hfalse] at hacc; cases hacc
  | gap _ _ _ hfalse => rw [hfalse] at hacc; cases hacc
  | new p changed hp ho =>
    obtain ⟨now, snapshot, a, hnow, hsnapshot, _, hencodes, hfresh, hshows⟩ := publication_eq_some hp
    exact ⟨now, snapshot, a, hnow, hsnapshot, hencodes, hfresh, ho ▸ hshows changed⟩
  | again p last hp hpayload hlatched hlast _ ho =>
    obtain ⟨now, snapshot, a, hnow, hsnapshot, hsha', hencodes, hfresh, _⟩ := publication_eq_some hp
    obtain ⟨s₀, hs₀, q, changed, hq, rfl, hpayload', _⟩ :=
      (tracks_readerAfter F sha256 past).last hlatched last hlast
    obtain ⟨_, snapshot₀, a₀, _, hsnapshot₀, hsha₀, hencodes₀, _, hshows₀⟩ := publication_eq_some hq
    -- The hashes are the same, so the bytes are, and what they encode.
    have hraw : snapshot.raw = snapshot₀.raw := by
      refine hsha (mem_payloads List.mem_cons_self hsnapshot)
        (mem_payloads (List.mem_cons_of_mem _ hs₀) hsnapshot₀) ?_
      rw [← hsha', ← hsha₀]
      exact Option.some.inj (hpayload.symm.trans hpayload')
    obtain rfl := hencodes.unique (hraw ▸ hencodes₀)
    refine ⟨now, snapshot, a, hnow, hsnapshot, hencodes, hfresh, ?_⟩
    rw [ho]
    exact { hshows₀ changed with }

/-- What is accepted belongs to the epoch of the reader behind it. -/
theorem epoch_of_accepted (hacc : (observedAfter F sha256 past s).accepted = true) :
    (readerAfter F sha256 (s :: past)).seenEpoch =
      (observedAfter F sha256 past s).producerEpoch := by
  cases outcome_observedAfter F sha256 past s with
  | unavailable _ hfalse => rw [hfalse] at hacc; cases hacc
  | gap _ _ _ hfalse => rw [hfalse] at hacc; cases hacc
  | new p changed hp ho hr => rw [hr, ho]; rfl
  | again p last hp hpayload hlatched hlast hr ho =>
    obtain ⟨_, _, q, changed, _, rfl, _, hepoch, _⟩ :=
      (tracks_readerAfter F sha256 past).last hlatched last hlast
    rw [hr, ho, hepoch]
    rfl

/-- Whatever is in the file at each reading, what the reader accepts is what the file encodes,
    and in no way a replay. -/
theorem replay_safety (F : FloatReader) (sha256 : List UInt8 → String) (past : List SignalReading)
    (s : SignalReading) (hsha : Set.InjOn sha256 {raw | raw ∈ payloads (s :: past)}) :
    let o := observedAfter F sha256 past s
    (o.accepted = true → ∃ now snapshot a, s.nowNs = some now ∧ s.snapshot = some snapshot ∧
      Encodes F snapshot.raw a ∧ a.Fresh now ∧ Shows o a) ∧
    (o.newPublication = true → ∀ past' s' o', Earlier F sha256 past past' s' o' →
      o'.newPublication = true →
        (o'.producerEpoch, o'.sequence) ≠ (o.producerEpoch, o.sequence) ∧
        (o'.producerEpoch = o.producerEpoch → ∃ m n g h, o'.sequence = some m ∧
          o.sequence = some n ∧ m < n ∧ o'.sourceGeneration = some g ∧
          o.sourceGeneration = some h ∧ g ≤ h)) ∧
    (o.newPublication = true → ∃ p, s.publication F sha256 = some p ∧
      o.producerEpoch = some p.epoch ∧ o.sequence = some p.sequence ∧
      (((∀ q ∈ checkpoint F sha256 past, q.epoch ≠ p.epoch) ∧ p.sequence = 1) ∨
        ∃ q ∈ checkpoint F sha256 past, q.epoch = p.epoch ∧ p.sequence = q.sequence + 1)) ∧
    (∀ past₁ s₁ o₁ past₂ s₂ o₂, Earlier F sha256 past past₂ s₂ o₂ →
      Earlier F sha256 past₂ past₁ s₁ o₁ → o₁.accepted = true → o₂.accepted = true →
      o₁.producerEpoch ≠ o₂.producerEpoch → o.accepted = true →
        o.producerEpoch ≠ o₁.producerEpoch) ∧
    (∀ past' s' o', Earlier F sha256 past past' s' o' → o'.state = .unavailable →
      o.accepted = true → o.newPublication = true ∨ ∃ past'' s'' o'',
        Earlier F sha256 past past'' s'' o'' ∧ Earlier F sha256 past'' past' s' o' ∧
          o''.newPublication = true) := by
  intro o
  have htracks := tracks_readerAfter F sha256 past
  have hnext := tracks_readerAfter F sha256 (s :: past)
  refine ⟨shows_of_accepted hsha, ?_, ?_, ?_, ?_⟩
  · -- An earlier publication of the same epoch has a smaller number.
    intro hnew past' s' o' he hnew'
    have hacc' : o'.accepted = true := by
      obtain ⟨_, _, _, ho', _⟩ := exists_of_new (he.2 ▸ hnew')
      rw [he.2, ho']
      rfl
    obtain ⟨p, changed, _, ho, hfollows⟩ := exists_of_new hnew
    obtain ⟨e, m, g, hepoch, hsequence, hgeneration, _, hbound⟩ := htracks.accepted_seen
      (hfollows.imp And.left fun ⟨n, hn⟩ => ⟨n, hn.1⟩) he hacc'
    have hepoch' : o.producerEpoch = some p.epoch := congrArg _ ho
    have hsequence' : o.sequence = some p.sequence := congrArg _ ho
    have hgeneration' : o.sourceGeneration = some p.sourceGeneration := congrArg _ ho
    have hsame : o'.producerEpoch = o.producerEpoch → m < p.sequence ∧ g ≤ p.sourceGeneration := by
      rw [hepoch, hepoch']
      exact fun heq => hbound (Option.some.inj heq)
    constructor
    · intro heq
      obtain ⟨heq, heq'⟩ := Prod.mk.inj heq
      rw [hsequence, hsequence'] at heq'
      exact absurd (Option.some.inj heq') (hsame heq).1.ne
    · intro heq
      exact ⟨m, _, g, _, hsequence, hsequence', (hsame heq).1, hgeneration, hgeneration',
        (hsame heq).2⟩
  · -- A new publication enters an epoch at one, or continues the last that was seen.
    intro hnew
    obtain ⟨p, changed, hp, ho, hfollows⟩ := exists_of_new hnew
    refine ⟨p, hp, congrArg _ ho, congrArg _ ho, ?_⟩
    rcases hfollows with ⟨henters, hone⟩ | ⟨n, hcontinues, hnext⟩
    · refine .inl ⟨fun q hq heq => henters.1 ?_, hone⟩
      rw [htracks.epoch_eq, hq, ← heq]
      rfl
    · obtain ⟨q, hq, hqepoch⟩ := Option.map_eq_some_iff.1 (htracks.epoch_eq ▸ hcontinues.epoch)
      have hqsequence := htracks.sequence_eq ▸ hcontinues.sequence
      rw [hq] at hqsequence
      obtain rfl := Option.some.inj hqsequence
      exact .inr ⟨q, hq, hqepoch, hnext⟩
  · -- An epoch that was left is not accepted again.
    intro past₁ s₁ o₁ past₂ s₂ o₂ h₂ h₁ hacc₁ hacc₂ hne hacc
    rw [← epoch_of_accepted hacc]
    exact hnext.left past₁ s₁ o₁ past₂ s₂ o₂ h₂.cons h₁ hacc₁ hacc₂ hne
  · -- Behind a loss of the signal only a new publication opens it again.
    intro past' s' o' he hstate hacc
    cases outcome_observedAfter F sha256 past s with
    | unavailable _ hfalse => rw [hfalse] at hacc; cases hacc
    | gap _ _ _ hfalse => rw [hfalse] at hacc; cases hacc
    | again _ _ _ _ hlatched => exact .inr (htracks.unlatched hlatched past' s' o' he hstate)
    | new p changed hp ho => exact .inl (congrArg _ ho)

end Run

/-! ## A run with replays -/

/-- A boot id of zeros. -/
def zeroBootId : Text := text "00000000-0000-4000-8000-000000000000"

/-- The first publication of an epoch on the boot `zeroBootId`. -/
def firstArguments : PublicationArguments :=
  { clearArguments with bootIdSha256 := text "db8055e0e0307d5a016bec4dc338d69875eb0fb7e614a8b125b08fb082095d98" }

/-- The one after the next of this epoch. -/
def thirdArguments : PublicationArguments := { firstArguments with sequence := 3 }

/-- The first one of another epoch. -/
def otherArguments : PublicationArguments := { firstArguments with producerEpoch := List.replicate 32 49 }

/-- SHA-256 of the boot id, of the publications and of their observation id. -/
def sampleSha256 (bytes : List UInt8) : String :=
  if bytes = asciiBytes zeroBootId then
    "db8055e0e0307d5a016bec4dc338d69875eb0fb7e614a8b125b08fb082095d98"
  else if bytes = firstArguments.bytes (.int 1) then
    "17d55cbdf5aa34b4a71abd9dc67e7d449e07c7d7efbbd755f9b958d80c41b420"
  else if bytes = thirdArguments.bytes (.int 1) then
    "5f3abb9d0264c4e2e4fe1f22133c4c97097e6e0c3e30069a7b4de35947bb3305"
  else if bytes = otherArguments.bytes (.int 1) then
    "635ee79f6fd6e0025b233a584198c6db16a2872f32b7c332034a2b55882e49b5"
  else if bytes = asciiBytes firstArguments.observationId then
    "60e05bd1b195af2f94112fa7197a5c88289058840ce7c6df9693756bc6250f55"
  else
    ""

/-- A reading of one publication, two nanoseconds after the boot. -/
def readingOf (a : PublicationArguments) : SignalReading where
  clockNs := some 2
  retryClockNs := none
  uid := some 1000
  snapshot := some ⟨a.bytes (.int 1), 1000, 0o700, 1000, 0o600, true, true, true⟩
  bootId := some zeroBootId

/-- The first publication, the same again, one behind a gap, and the first one once more; the last comes first. -/
def replayedReadings : List SignalReading :=
  [readingOf firstArguments, readingOf thirdArguments, readingOf firstArguments, readingOf firstArguments]

/-- Of each reading, whether it is accepted and whether as a new publication. -/
def acceptances : List SignalReading → List (Bool × Bool)
  | [] => []
  | s :: past =>
    let o := observedAfter ⟨some, rfl⟩ sampleSha256 past s
    (o.accepted, o.newPublication) :: acceptances past

/-- Behind the gap the first publication is not accepted, and that of another epoch is. -/
theorem acceptances_replayedReadings : acceptances (readingOf otherArguments :: replayedReadings) =
    [(true, true), (false, false), (false, false), (true, false), (true, true)] := by
  decide +kernel

theorem injOn_sampleSha256 :
    Set.InjOn sampleSha256 {raw | raw ∈ payloads (readingOf otherArguments :: replayedReadings)} := by
  have hpairs : ∀ raw ∈ payloads (readingOf otherArguments :: replayedReadings),
      ∀ raw' ∈ payloads (readingOf otherArguments :: replayedReadings),
        sampleSha256 raw = sampleSha256 raw' → raw = raw' := by
    decide +kernel
  exact fun raw hraw raw' hraw' => hpairs raw hraw raw' hraw'

theorem replay_safety_replayed :
    let o := observedAfter ⟨some, rfl⟩ sampleSha256 replayedReadings (readingOf otherArguments)
    let o' := observedAfter ⟨some, rfl⟩ sampleSha256 [] (readingOf firstArguments)
    o.accepted = true ∧ (∃ now snapshot a, (readingOf otherArguments).nowNs = some now ∧
      (readingOf otherArguments).snapshot = some snapshot ∧ Encodes ⟨some, rfl⟩ snapshot.raw a ∧ a.Fresh now ∧
        Shows o a) ∧ (o'.producerEpoch, o'.sequence) ≠ (o.producerEpoch, o.sequence) := by
  have hacceptances := acceptances_replayedReadings
  simp only [acceptances, replayedReadings, List.cons.injEq, Prod.mk.injEq] at hacceptances
  obtain ⟨⟨haccepted, hnew⟩, -, -, -, ⟨-, hfirst⟩, -⟩ := hacceptances
  obtain ⟨hshows, hnews, -⟩ :=
    replay_safety ⟨some, rfl⟩ sampleSha256 replayedReadings (readingOf otherArguments) injOn_sampleSha256
  have hearlier : [readingOf firstArguments] <:+ replayedReadings := ⟨replayedReadings.take 3, rfl⟩
  exact ⟨haccepted, hshows haccepted, (hnews hnew [] _ _ ⟨hearlier, rfl⟩ hfirst).1⟩

end Subgen

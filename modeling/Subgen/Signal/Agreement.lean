import Subgen.Signal.Production
import Subgen.Signal.Replay

/-!
# Producer and reader agree

A reader that follows the producer, reading its publications in their order and each of them
while it is fresh, accepts all of them, with the state of the decision behind each
(`agreement_of_clockUsable`). It compares a publication with the one before, and the producer
keeps up what it asks for (`Succeeds`).

That holds of every run if and only if the clock does not come to be positive between its
first two readings (`producer_agreement`). If it does, the writer refuses the first
publication.
-/

namespace Subgen

open Procedure PublicationArguments PriorityPressureReader

/-! ## The reader -/

section Reader

variable (config : ProducerConfig) (F : FloatReader) (sha256 : List UInt8 → String)

/-- A reading of what was written, on the boot of the producer and while it is fresh. -/
structure Reads (s : SignalReading) (w : Written) : Prop where
  fresh : ∃ now, s.nowNs = some now ∧ w.arguments.Fresh now
  payload : s.payload = .ok w.payload
  boot : requireSome s.bootId >>= canonicalBootIdSha256 sha256 = .ok config.bootSha256

/-- The reader has read the first `n` publications in their order, each of them once or more. In
    between it may miss the file. It is `clean` if it did not since the last one. -/
inductive Follows (ws : List Written) : List SignalReading → ℕ → Bool → Prop
  | start : Follows ws [] 0 true
  | next {past : List SignalReading} {n : ℕ} {clean : Bool} {s : SignalReading} {w : Written}
      (h : Follows ws past n clean) (hw : ws[n]? = some w) (hs : Reads config sha256 s w) :
      Follows ws (s :: past) (n + 1) true
  | again {past : List SignalReading} {n : ℕ} {clean : Bool} {s : SignalReading} {w : Written}
      (h : Follows ws past (n + 1) clean) (hw : ws[n]? = some w) (hs : Reads config sha256 s w) :
      Follows ws (s :: past) (n + 1) clean
  | missed {past : List SignalReading} {n : ℕ} {clean : Bool} {s : SignalReading}
      (h : Follows ws past n clean) (hs : s.publication F sha256 = none) :
      Follows ws (s :: past) n false

/-- A publication as the reader takes it from what was written. -/
structure Takes (p : Publication) (w : Written) : Prop where
  state : p.state = w.decision.state
  epoch : p.epoch = Text.toString config.epoch
  sequence : p.sequence = w.arguments.sequence
  generation : p.sourceGeneration = w.arguments.sourceGeneration
  observed : p.sourceObservedNs = w.arguments.sourceObservedMonotonicNs
  payload : p.payloadSha256 = sha256 w.payload

/-- The reader stands behind a publication that it accepted. -/
structure Stands (r : PriorityPressureReader) (w : Written) : Prop where
  saturated : r.epochHistorySaturated = false
  epoch : r.seenEpoch = some (Text.toString config.epoch)
  sequence : r.seenSequence = some w.arguments.sequence
  generation : r.seenSourceGeneration = some w.arguments.sourceGeneration
  observed : r.seenSourceObservedNs = some w.arguments.sourceObservedMonotonicNs
  payload : r.seenPayloadSha256 = some (sha256 w.payload)
  last : ∃ o, r.lastAccepted = some o ∧ o.accepted = true ∧ o.state = w.decision.state

/-- The reader stands behind the first `n` publications. -/
def Behind (ws : List Written) (r : PriorityPressureReader) (n : ℕ) (clean : Bool) : Prop :=
  (n = 0 ∧ r = { PriorityPressureReader.new with unavailableLatched := r.unavailableLatched }) ∨
    ∃ k w, n = k + 1 ∧ ws[k]? = some w ∧ Stands config sha256 r w ∧
      (clean = true → r.unavailableLatched = false)

/-- The observation of a publication: it is accepted, with the state of the decision. -/
def Agrees (o : PriorityObservation) (w : Written) : Prop :=
  o.accepted = true ∧ o.state = w.decision.state

variable {config F sha256} {ws past : List SignalReading} {r : PriorityPressureReader}
  {s : SignalReading} {w v : Written} {p : Publication} {now : ℤ}

theorem Reads.takes (h : Reads config sha256 s w) (hw : w.Sound config) :
    ∃ now p, s.nowNs = some now ∧ s.publication F sha256 = some p ∧ Takes config sha256 p w := by
  obtain ⟨now, hnow, hfresh⟩ := h.fresh
  have hparse : parse F sha256 w.payload now config.bootSha256 =
      .ok (w.arguments.parsed sha256 now) := by
    rw [hw.payload]
    exact parse_bytes hw.valid rfl hw.boot hfresh
  refine ⟨now, (w.arguments.parsed sha256 now).publication (sha256 w.payload)
    (published_of_parse hparse) (generation_pos_of_parse hparse), hnow, ?_, ?_⟩
  · rw [SignalReading.publication, hnow, h.payload, h.boot]
    simp only []
    split
    · next p hp =>
      obtain rfl := Except.ok.inj (hparse.symm.trans hp)
      rfl
    · next e he => cases hparse.symm.trans he
  · exact ⟨hw.state, congrArg Text.toString hw.epoch, rfl, rfl, rfl, rfl⟩

theorem stands_accept (hr : r.epochHistorySaturated = false) (hp : Takes config sha256 p w)
    (now : ℤ) (changed : Bool) :
    Agrees (r.accept p now changed false).1 w ∧ Stands config sha256 (r.accept p now changed false).2 w ∧
      (r.accept p now changed false).2.unavailableLatched = false :=
  ⟨⟨rfl, hp.state⟩, {
    saturated := hr
    epoch := congrArg some hp.epoch
    sequence := congrArg some hp.sequence
    generation := congrArg some hp.generation
    observed := congrArg some hp.observed
    payload := congrArg some hp.payload
    last := ⟨observe p changed, rfl, rfl, hp.state⟩ }, rfl⟩

section

variable (reading : Reading) (hnow : reading.nowNs = some now)
  (hpublication : reading.publication = some p) (hp : Takes config sha256 p w)

include hnow hpublication hp

theorem read_first (hr : r = { PriorityPressureReader.new with unavailableLatched := r.unavailableLatched })
    (hsequence : w.arguments.sequence = 1) : r.read reading = r.accept p now true false := by
  have hone : p.sequence = 1 := hp.sequence.trans hsequence
  rw [hr, PriorityPressureReader.read, hnow, hpublication]
  simp [PriorityPressureReader.new, readNewEpoch, maxTrackedProducerEpochs, hone]

theorem read_next (hr : Stands config sha256 r v) (hnext : Succeeds v.arguments w.arguments) :
    r.read reading = r.accept p now false false := by
  have hregressed : r.sourceRegressed p = false := by
    rw [sourceRegressed, hr.generation, hr.observed]
    simp only [hp.generation, hp.observed]
    rcases hnext.source with ⟨heq, heq'⟩ | ⟨hlt, hlt'⟩
    · simp [heq, heq']
    · have hne : w.arguments.sourceGeneration ≠ v.arguments.sourceGeneration := hlt.ne'
      simp [hne, hlt.le, hlt']
  have hsequence : p.sequence = v.arguments.sequence + 1 := hp.sequence.trans hnext.sequence
  rw [PriorityPressureReader.read, hnow, hpublication, if_neg (by simp [hr.saturated])]
  simp only [hr.epoch, hp.epoch, if_true]
  rw [readSameEpoch, hr.sequence]
  simp only [hsequence, hregressed]
  simp

theorem read_again (hr : Stands config sha256 r w) (hlatched : r.unavailableLatched = false) :
    Agrees (r.read reading).1 w ∧ (r.read reading).2 = r := by
  obtain ⟨last, hlast, haccepted, hstate⟩ := hr.last
  rw [PriorityPressureReader.read, hnow, hpublication, if_neg (by simp [hr.saturated])]
  simp only [hr.epoch, hp.epoch, if_true]
  rw [readSameEpoch, hr.sequence]
  simp only [hp.sequence, if_true]
  rw [PriorityPressureReader.again, hlast]
  simp only [hr.payload, hp.payload, hlatched]
  rw [if_neg (by simp)]
  exact ⟨⟨haccepted, hstate⟩, rfl⟩

/-- A publication that comes again is not accepted behind a reading that failed. -/
theorem read_again_latched (hr : Stands config sha256 r w) (hlatched : r.unavailableLatched = true) :
    (r.read reading).2 = r := by
  obtain ⟨last, hlast, _⟩ := hr.last
  rw [PriorityPressureReader.read, hnow, hpublication, if_neg (by simp [hr.saturated])]
  simp only [hr.epoch, hp.epoch, if_true]
  rw [readSameEpoch, hr.sequence]
  simp only [hp.sequence, if_true]
  rw [PriorityPressureReader.again, hlast]
  simp only [hlatched]
  rw [if_pos (by simp), unavailable, ← hlatched]

end

theorem read_missed (reading : Reading) (hmissed : reading.publication = none) :
    (r.read reading).2 = { r with unavailableLatched := true } := by
  rw [PriorityPressureReader.read]
  split_ifs
  · rfl
  · rw [hmissed]
    cases reading.nowNs <;> rfl

theorem Stands.latched (h : Stands config sha256 r w) :
    Stands config sha256 { r with unavailableLatched := true } w := { h with }

variable {ws : List Written}

/-- The next publication is accepted. -/
theorem Behind.next {n : ℕ} {clean : Bool} (hws : FrigatePriorityMonitor.Linked config ws)
    (h : Behind config sha256 ws r n clean) (hw : ws[n]? = some w) (hs : Reads config sha256 s w) :
    Agrees (r.read (s.toReading F sha256)).1 w ∧
      Behind config sha256 ws (r.read (s.toReading F sha256)).2 (n + 1) true := by
  have hmem : w ∈ ws := List.mem_of_getElem? hw
  obtain ⟨now, p, hnow, hpublication, hp⟩ := hs.takes (F := F) (hws.sound w hmem)
  rcases h with ⟨rfl, hr⟩ | ⟨k, v, rfl, hv, hstands, _⟩
  · have hfirst : w.arguments.sequence = 1 := hws.first w (by rwa [List.head?_eq_getElem?])
    rw [read_first (s.toReading F sha256) hnow hpublication hp hr hfirst]
    have hsaturated : r.epochHistorySaturated = false := by rw [hr]; rfl
    obtain ⟨hagrees, hstands, hlatched⟩ := stands_accept hsaturated hp now true
    exact ⟨hagrees, .inr ⟨0, w, rfl, hw, hstands, fun _ => hlatched⟩⟩
  · have hnext : Succeeds v.arguments w.arguments := by
      obtain ⟨hlt, rfl⟩ := List.getElem?_eq_some_iff.1 hw
      obtain ⟨_, rfl⟩ := List.getElem?_eq_some_iff.1 hv
      exact List.isChain_iff_getElem.1 hws.chain k hlt
    rw [read_next (s.toReading F sha256) hnow hpublication hp hstands hnext]
    obtain ⟨hagrees, hstands', hlatched⟩ := stands_accept hstands.saturated hp now false
    exact ⟨hagrees, .inr ⟨k + 1, w, rfl, hw, hstands', fun _ => hlatched⟩⟩

/-- The last one is accepted once more, if no reading failed in between. -/
theorem Behind.again {n : ℕ} {clean : Bool} (hws : FrigatePriorityMonitor.Linked config ws)
    (h : Behind config sha256 ws r (n + 1) clean) (hw : ws[n]? = some w)
    (hs : Reads config sha256 s w) :
    (clean = true → Agrees (r.read (s.toReading F sha256)).1 w) ∧
      Behind config sha256 ws (r.read (s.toReading F sha256)).2 (n + 1) clean := by
  obtain ⟨now, p, hnow, hpublication, hp⟩ := hs.takes (F := F) (hws.sound w (List.mem_of_getElem? hw))
  rcases h with ⟨hzero, _⟩ | ⟨k, w', hk, hw', hstands, hclean⟩
  · cases hzero
  · obtain rfl : n = k := Nat.succ.inj hk
    obtain rfl := Option.some.inj (hw.symm.trans hw')
    cases hlatched : r.unavailableLatched with
    | false =>
      obtain ⟨hagrees, hsame⟩ :=
        read_again (s.toReading F sha256) hnow hpublication hp hstands hlatched
      rw [hsame]
      exact ⟨fun _ => hagrees, .inr ⟨n, w, rfl, hw, hstands, fun _ => hlatched⟩⟩
    | true =>
      have hdirty : clean ≠ true := fun h => by simp [hclean h] at hlatched
      rw [read_again_latched (s.toReading F sha256) hnow hpublication hp hstands hlatched]
      exact ⟨fun h => absurd h hdirty, .inr ⟨n, w, rfl, hw, hstands, fun h => absurd h hdirty⟩⟩

theorem Behind.missed {n : ℕ} {clean : Bool} (h : Behind config sha256 ws r n clean)
    (hs : s.publication F sha256 = none) :
    Behind config sha256 ws (r.read (s.toReading F sha256)).2 n false := by
  rw [read_missed (s.toReading F sha256) hs]
  rcases h with ⟨rfl, hr⟩ | ⟨k, w, rfl, hw, hstands, _⟩
  · exact .inl ⟨rfl, by rw [hr]⟩
  · exact .inr ⟨k, w, rfl, hw, hstands.latched, fun h => by cases h⟩

/-- A reader that follows the producer stands behind what it has read. -/
theorem Follows.behind {n : ℕ} {clean : Bool} (hws : FrigatePriorityMonitor.Linked config ws)
    (h : Follows config F sha256 ws past n clean) :
    Behind config sha256 ws (readerAfter F sha256 past) n clean := by
  induction h with
  | start => exact .inl ⟨rfl, rfl⟩
  | next _ hw hs ih => exact (ih.next hws hw hs).2
  | again _ hw hs ih => exact (ih.again hws hw hs).2
  | missed _ hs ih => exact ih.missed hs

variable (config F sha256) in
/-- The producer and its reader agree about a run. -/
structure Agreement (env : ProducerEnvironment) (polls : List Probes) : Prop where
  refused : ∀ e ∈ (FrigatePriorityMonitor.runPolls config env .new polls).2, ∃ probes ∈ polls,
    FrigatePriorityMonitor.MayEnd probes e
  encoded : ∀ w ∈ (FrigatePriorityMonitor.runPolls config env .new polls).1.written,
    encodePriorityPublication w.arguments = .ok w.payload
  accepted : ∀ past n clean s w,
    Follows config F sha256 (FrigatePriorityMonitor.runPolls config env .new polls).1.written past n
      clean →
    (FrigatePriorityMonitor.runPolls config env .new polls).1.written[n]? = some w →
    Reads config sha256 s w → Agrees (observedAfter F sha256 past s) w
  repeated : ∀ past n s w,
    Follows config F sha256 (FrigatePriorityMonitor.runPolls config env .new polls).1.written past
      (n + 1) true →
    (FrigatePriorityMonitor.runPolls config env .new polls).1.written[n]? = some w →
    Reads config sha256 s w → Agrees (observedAfter F sha256 past s) w

theorem agreement_of_clockUsable {env : ProducerEnvironment}
    (hclock : FrigatePriorityMonitor.ClockUsable env) (polls : List Probes) :
    Agreement config F sha256 env polls := by
  obtain ⟨hlinked, hends⟩ := FrigatePriorityMonitor.runPolls_linked config hclock polls
  refine ⟨hends, fun w hw => ?_, ?_, ?_⟩
  · obtain ⟨hvalid, hpayload, _⟩ := hlinked.sound w hw
    exact (encodeAs_eq_ok rfl).2 ⟨hvalid, hpayload⟩
  · intro past n clean s w h hw hs
    exact ((h.behind hlinked).next hlinked hw hs).1
  · intro past n s w h hw hs
    exact ((h.behind hlinked).again hlinked hw hs).1 rfl

end Reader

/-! ## The clock -/

/-- The writer refuses a source that was seen at no positive time. -/
theorem encode_of_source_lt {a : PublicationArguments} (hboot : isHex 64 a.bootIdSha256 = true)
    (hepoch : isHex 32 a.producerEpoch = true) (hobservation : isHex 64 a.observationId = true)
    (hpolicy : isHex 64 a.policySha256 = true)
    (hsequence : 1 ≤ a.sequence ∧ a.sequence ≤ maxGeneration)
    (hobserved : 1 ≤ a.observedMonotonicNs ∧ a.observedMonotonicNs ≤ maxGeneration)
    (hgeneration : 1 ≤ a.sourceGeneration ∧ a.sourceGeneration ≤ maxGeneration)
    (hsource : a.sourceObservedMonotonicNs < 1) :
    encodePriorityPublication a =
      .error (.valueError "source_observed_monotonic_ns is out of range") := by
  have hrange : ¬ (1 ≤ a.sourceObservedMonotonicNs ∧ a.sourceObservedMonotonicNs ≤ maxGeneration) :=
    fun h => absurd h.1 (not_le.2 hsource)
  simp only [encodePriorityPublication, encodeAs, check, requireHex, positiveInt, hboot, hepoch,
    hobservation, hpolicy, if_pos hsequence, if_pos hobserved, if_pos hgeneration, if_neg hrange]
  rfl

/-- A server with one camera and one detector. -/
def samplePolicy : PriorityPolicy where
  frigateVersion := "0.16.0"
  detectionFpsLimit := 20
  cameras := [("front", 5)]
  detectors := ["onnx"]
  requiredEmbeddingSpeeds := []
  conditionalEmbeddingPairs := []
  frigateConfigSha256 := ""
  sha256 := ""

/-- Statistics of a server with nothing to do. -/
def sampleStats : Value :=
  .dict [("service", .dict [("last_updated", .int 5)]), ("detection_fps", .int 1),
    ("cameras", .dict [("front", .dict [("process_fps", .int 5), ("skipped_fps", .int 0)])]),
    ("detectors", .dict [("onnx", .dict [("inference_speed", .int 10)])]), ("embeddings", .dict [])]

/-- A poll that finds everything at rest. -/
def sampleProbes : Probes where
  policy := .loaded samplePolicy
  stats := .value sampleStats
  version := .value "0.16.0"
  ollama := .value (.dict [("models", .list [])])
  nvidia := .value ⟨0, "", "", "Default"⟩
  write := .written

theorem normalize_sampleProbes :
    (FrigatePriorityMonitor.normalize sampleProbes samplePolicy).isOk = true := by
  decide +kernel

namespace FrigatePriorityMonitor

variable {env : ProducerEnvironment}

/-- If the clock only comes to be positive behind its first reading, the writer refuses the first
    publication. -/
theorem ensures_refused (config : ProducerConfig) (hclock : ¬ ClockUsable env) {probes : Probes} {policy : PriorityPolicy}
    {source : NormalizedSource} (hpolicy : probes.policy = .loaded policy)
    (hsource : normalize probes policy = .ok source) :
    Ensures (pollOnce config env probes) new (fun _ _ => False)
      (fun e _ => e = .valueError "source_observed_monotonic_ns is out of range") := by
  obtain ⟨hfirst, hsecond⟩ := not_or.1 hclock
  rw [not_not] at hsecond
  have hready : (new : FrigatePriorityMonitor).evaluator.Ready := by rintro _ ⟨⟩
  rw [pollOnce, hpolicy]
  simp only []
  rw [pollSource, hsource]
  simp only []
  rw [ensures_bind, now, ensures_modifyGet, ensures_bind, onEvaluator, ensures_zoom]
  refine (FrigatePriorityEvaluator.ensures_observe hready source policy _ _ _).mono ?_
    fun _ _ hfalse => hfalse.elim
  rintro d e ⟨_, _, ⟨_, hnone⟩ | ⟨hnewest, hobserved, _⟩⟩
  · cases hnone
  · rw [publishSome, ensures_bind, publish, ensures_bind, now, ensures_modifyGet, ensures_bind,
      ensures_ofExcept]
    have hvalid : requireClock (env.clockNs 1) = .ok () := if_pos hsecond
    refine ⟨fun _ _ => ?_, fun e' he' => by cases hvalid.symm.trans he'⟩
    rw [ensures_bind, ensures_get, ensures_bind, ensures_ofExcept, sourceGeneration, hnewest]
    refine ⟨fun generation hgeneration => ?_, fun _ he => by cases he⟩
    obtain rfl := Except.ok.inj hgeneration
    rw [ensures_bind, ensures_ofExcept, sourceObservedNs, hobserved]
    refine ⟨fun observed hobserved => ?_, fun _ he => by cases he⟩
    obtain rfl := Except.ok.inj hobserved
    have hone : (1 : ℤ) ≤ 1 ∧ (1 : ℤ) ≤ maxGeneration := by decide
    have hrefused := encode_of_source_lt (a := arguments config env ⟨e, 0, 2, []⟩ d (env.clockNs 1)
      source.generation (env.clockNs 0)) config.boot_hex config.epoch_hex (env.token_hex _)
      config.policy_hex hone hsecond ⟨source.generation_pos, source.generation_le⟩
      (not_le.1 hfirst)
    rw [ensures_bind, ensures_ofExcept]
    exact ⟨fun _ hok => (by cases hrefused.symm.trans hok),
      fun _ he => (Except.error.inj (hrefused.symm.trans he)).symm⟩

end FrigatePriorityMonitor

open FrigatePriorityMonitor in
theorem not_agreement {config : ProducerConfig} {env : ProducerEnvironment} {F : FloatReader}
    {sha256 : List UInt8 → String} (hclock : ¬ ClockUsable env) :
    ¬ ∀ polls, Agreement config F sha256 env polls := by
  intro h
  obtain ⟨probes, policy, source, hpolicy, hsource⟩ : ∃ probes policy source,
      probes.policy = .loaded policy ∧ normalize probes policy = .ok source := by
    have hok := normalize_sampleProbes
    cases hsource : normalize sampleProbes samplePolicy with
    | error _ => rw [hsource] at hok; cases hok
    | ok source => exact ⟨sampleProbes, samplePolicy, source, rfl, hsource⟩
  have hrefused := ensures_refused config hclock hpolicy hsource
  have hends := (h [probes]).refused
  rw [runPolls] at hends
  split at hends
  · next heq => exact (ensures_of_ok heq).1 hrefused
  · next e _ heq =>
    obtain rfl := (ensures_of_error heq).1 hrefused
    obtain ⟨probes', hmem, hend⟩ := hends _ rfl
    obtain rfl := List.mem_singleton.1 hmem
    rcases hend with hnot | hraised
    · exact hnot _ rfl
    · cases hpolicy.symm.trans hraised

open FrigatePriorityMonitor in
/-- The producer and its reader agree about every run if and only if the first reading of the clock
    is positive, or the second one is of no use either. -/
theorem producer_agreement (config : ProducerConfig) (env : ProducerEnvironment) (F : FloatReader)
    (sha256 : List UInt8 → String) :
    (∀ polls, Agreement config F sha256 env polls) ↔ ClockUsable env := by
  refine ⟨fun h => ?_, fun hclock => agreement_of_clockUsable hclock⟩
  by_contra hclock
  exact not_agreement hclock h

/-- The configuration of a producer. -/
def sampleConfig : ProducerConfig where
  expectedPolicySha256 := List.replicate 64 48
  bootSha256 := List.replicate 64 48
  epoch := List.replicate 32 48
  ollamaEnabled := false
  policy_hex := by decide +kernel
  boot_hex := by decide +kernel
  epoch_hex := by decide +kernel

/-- A clock whose first reading is `start`. -/
def sampleEnvironment (start : ℤ) : ProducerEnvironment where
  clockNs n := start + n
  tokenHex _ := List.replicate 64 48
  clock_strictMono := fun _ _ h => by simpa using h
  token_hex _ := by decide +kernel

-- From one on, the publication is written, and the next ones behind it.
example : (FrigatePriorityMonitor.runPolls sampleConfig (sampleEnvironment 1) .new
    [sampleProbes, sampleProbes, sampleProbes]).1.written.map (·.arguments.sequence) = [1, 2, 3] := by
  decide +kernel

/-- With a clock that starts at zero the first publication is refused. -/
theorem source_time_refused : ¬ ∀ (config : ProducerConfig) (env : ProducerEnvironment)
    (F : FloatReader) (sha256 : List UInt8 → String) (polls : List Probes),
    Agreement config F sha256 env polls := by
  intro h
  have hclock : ¬ FrigatePriorityMonitor.ClockUsable (sampleEnvironment 0) := by
    rw [FrigatePriorityMonitor.ClockUsable]
    decide
  exact not_agreement hclock (h sampleConfig _ ⟨some, rfl⟩ fun _ => "")

end Subgen

import Subgen.Signal.Monitor
import Subgen.Signal.Codec

/-!
# What the producer publishes

Whatever its sources do, the publications of a run follow each other (`Linked`): each one
passes the checks of the writer, has the next sequence number, and its source is the one
before, at the same time, or a newer one, at a later time. The evaluator changes the
generation and its time together, and only for a newer one (`ensures_observe`); the rest is
an invariant of the polls (`Inv`).

There is one way to fail: the producer checks the reading of the clock it publishes at, but
not the one of the source (`ClockUsable`).
-/

namespace Subgen

open Procedure PublicationArguments

/-! ## Decisions -/

/-- The same reasons, sorted and without repetitions. -/
theorem mem_sortedSet {l : List Text} {r : Text} : r ∈ sortedSet l ↔ r ∈ l := by
  rw [sortedSet, List.mem_insertionSort, List.mem_dedup]

/-- There are no repetitions. -/
theorem nodup_sortedSet (l : List Text) : (sortedSet l).Nodup :=
  (List.perm_insertionSort _ _).nodup_iff.2 (List.nodup_dedup l)

/-- What is sorted stays so. -/
theorem sortedSet_idem (l : List Text) : sortedSet (sortedSet l) = sortedSet l := by
  conv_lhs => rw [sortedSet, (nodup_sortedSet l).dedup]
  exact (List.pairwise_insertionSort (· ≤ ·) l.dedup).insertionSort_eq

/-- Known reasons. -/
def Known (reasons : List Text) : Prop := ∀ r ∈ reasons, r ∈ signalReasons

/-- Two lists of known reasons. -/
theorem Known.append {l l' : List Text} (h : Known l) (h' : Known l') : Known (l ++ l') :=
  List.forall_mem_append.2 ⟨h, h'⟩

/-- Known reasons are valid when they are sorted. -/
theorem reasonsValid_sortedSet {l : List Text} (h : Known l) : ReasonsValid (sortedSet l) := by
  refine ⟨(sortedSet_idem l).symm, ?_, fun r hr => h r (mem_sortedSet.1 hr)⟩
  exact ((nodup_sortedSet l).subperm fun r hr => h r (mem_sortedSet.1 hr)).length_le

namespace SourceDecision

/-- The state that a decision stands for. -/
def state (d : SourceDecision) : PriorityState :=
  if d.pressure then .asserted else if d.clearEligible then .clear else .neutral

/-- A decision that can be published. -/
structure Valid (d : SourceDecision) : Prop where
  reasons : ReasonsValid d.reasonCodes
  consistent : requireState d.pressure d.clearEligible d.reasonCodes = .ok d.state

/-- The neutral decision is valid. -/
theorem valid_neutral : neutral.Valid := ⟨⟨rfl, by decide, by decide⟩, rfl⟩

/-- So is the clear one. -/
theorem valid_clear : clear.Valid := ⟨⟨rfl, by decide, by decide⟩, rfl⟩

variable {d d' : SourceDecision} {reasons : List Text}

/-- A valid decision has known reasons. -/
theorem Valid.known (h : d.Valid) : Known d.reasonCodes := h.reasons.2.2

/-- A decision that is asserted for known reasons is valid. -/
theorem valid_asserted (hreasons : Known reasons) (h : asserted reasons = .ok d) : d.Valid := by
  rw [asserted] at h
  split_ifs at h with hempty
  obtain rfl := Except.ok.inj h
  refine ⟨reasonsValid_sortedSet hreasons, ?_⟩
  simp [requireState, hempty, state]

/-- It takes a reason to assert one. -/
theorem asserted_ok (hne : reasons ≠ []) : ∃ d, asserted reasons = .ok d := by
  obtain ⟨r, hr⟩ := List.exists_mem_of_ne_nil _ hne
  rw [asserted, if_neg (List.ne_nil_of_mem (mem_sortedSet.2 hr))]
  exact ⟨_, rfl⟩

/-- More reasons make a decision that can be published into another one. -/
theorem union_ok (h : d.Valid) (hreasons : Known reasons) :
    ∃ d', d.union reasons = .ok d' ∧ d'.Valid := by
  rw [union]
  split
  · exact ⟨d, rfl, h⟩
  · next hne =>
    obtain ⟨d', hd'⟩ := asserted_ok hne
    refine ⟨d', hd', valid_asserted (fun r hr => ?_) hd'⟩
    exact (h.known.append hreasons) r (mem_sortedSet.1 hr)

end SourceDecision

/-! ## The evaluator -/

namespace FrigatePriorityEvaluator

variable {e e' : FrigatePriorityEvaluator} {reasons : List Text}

/-- An evaluator with a source has the time and the decision about it. -/
def Ready (e : FrigatePriorityEvaluator) : Prop :=
  ∀ source ∈ e.source, ∃ t d, e.sourceObservedNs = some t ∧ e.cachedBaseDecision = some d ∧ d.Valid

/-- The same source, with the same time. -/
structure SameSource (e e' : FrigatePriorityEvaluator) : Prop where
  source : e'.source = e.source
  observed : e'.sourceObservedNs = e.sourceObservedNs
  cached : e'.cachedBaseDecision = e.cachedBaseDecision

/-- Only the source matters. -/
theorem Ready.same (h : e.Ready) (hsame : SameSource e e') : e'.Ready := by
  rw [Ready, hsame.source, hsame.observed, hsame.cached]
  exact h

/-- The reasons that the evaluator gives are known. -/
theorem known_busy : Known [higherPriorityBusy] := by unfold Known; decide +kernel

/-- A degraded source is a known reason. -/
theorem known_degraded : Known [higherPriorityDegraded] := by unfold Known; decide +kernel

/-- So is one that is unavailable. -/
theorem known_unavailable : Known [higherPriorityUnavailable] := by unfold Known; decide +kernel

/-- So is a policy that drifted. -/
theorem known_policyDrift : Known [policyDriftReason] := by unfold Known; decide +kernel

/-- No reasons are known reasons. -/
theorem known_nil : Known [] := fun _ h => absurd h List.not_mem_nil

/-- A reason that is given or not. -/
theorem known_ite {p : Prop} [Decidable p] {l : List Text} (h : Known l) :
    Known (if p then l else []) := by
  split
  · exact h
  · exact known_nil

/-- The reasons of the other service are known. -/
theorem known_ollamaReasons (busy missing : Bool) : Known (ollamaReasons busy missing) :=
  (known_ite known_busy).append (known_ite known_unavailable)

/-- So are those of the source at once. -/
theorem known_immediateReasons (source : NormalizedSource) : Known (immediateReasons source) :=
  known_ite known_degraded

/-- So are those of the source over some observations. -/
theorem known_baseReasons (source : NormalizedSource) : Known (e.baseReasons source) :=
  ((known_immediateReasons source).append (known_ite known_busy)).append (known_ite known_degraded)

/-- A failure keeps the source, and there is a decision if there is one. -/
theorem ensures_failure (h : e.Ready) (hreasons : Known reasons) :
    Ensures (failure reasons) e
      (fun decision e' => SameSource e e' ∧
        (match decision with
          | none => e.source = none
          | some d => d.Valid ∧ e.source.isSome = true))
      (fun _ _ => False) := by
  rw [failure, ensures_bind, resetStreaks, ensures_modify, ensures_bind, ensures_get, ensures_ite]
  refine ⟨fun hnone => ⟨⟨rfl, rfl, rfl⟩, Option.isNone_iff_eq_none.1 hnone⟩, fun hsome => ?_⟩
  have hisSome : e.source.isSome = true := by simpa [Option.isSome_iff_ne_none] using hsome
  obtain ⟨source, hsource⟩ := Option.isSome_iff_exists.1 hisSome
  obtain ⟨t, d, _, hcached, hd⟩ := h source hsource
  obtain ⟨d', hunion, hd'⟩ := SourceDecision.union_ok hd hreasons
  have hcached' : e.cachedBaseDecision.getD .neutral = d := by rw [hcached]; rfl
  rw [ensures_map, ensures_ofExcept, hcached', hunion]
  refine ⟨fun _ heq => ?_, fun _ heq => by cases heq⟩
  obtain rfl := Except.ok.inj heq
  exact ⟨⟨rfl, rfl, rfl⟩, hd', hisSome⟩

/-- A refusal is a valid decision for its reasons. -/
theorem ensures_refuse (h : e.Ready) (hsome : e.source.isSome = true) (hreasons : Known reasons) :
    Ensures (refuse reasons) e (fun d e' => d.Valid ∧ SameSource e e') (fun _ _ => False) := by
  rw [refuse, ensures_bind]
  refine (ensures_failure h hreasons).mono ?_ fun _ _ hfalse => hfalse
  rintro decision e' ⟨hsame, hdecision⟩
  cases decision with
  | none =>
    change e.source = none at hdecision
    rw [hdecision] at hsome
    cases hsome
  | some d => exact ⟨hdecision.1, hsame⟩

/-- A new observation leads to a valid decision. -/
theorem ensures_decideNew (source : NormalizedSource) (policy : PriorityPolicy) (missing : Bool) :
    Ensures (decideNew source policy missing) e
      (fun d e' => d.Valid ∧ e'.source = e.source ∧ e'.sourceObservedNs = e.sourceObservedNs)
      (fun _ _ => False) := by
  have hasserted : ∀ {reasons : List Text} (e' : FrigatePriorityEvaluator), Known reasons →
      reasons ≠ [] → e'.source = e.source → e'.sourceObservedNs = e.sourceObservedNs →
      Ensures (ofExcept (SourceDecision.asserted reasons) : EvaluatorM SourceDecision) e'
        (fun d e' => d.Valid ∧ e'.source = e.source ∧ e'.sourceObservedNs = e.sourceObservedNs)
        (fun _ _ => False) := by
    intro reasons e' hreasons hne hsource hobserved
    obtain ⟨d, hd⟩ := SourceDecision.asserted_ok hne
    rw [ensures_ofExcept, hd]
    refine ⟨fun _ heq => ?_, fun _ heq => by cases heq⟩
    obtain rfl := Except.ok.inj heq
    exact ⟨SourceDecision.valid_asserted hreasons hd, hsource, hobserved⟩
  rw [decideNew, ensures_ite]
  constructor
  · intro _
    rw [ensures_bind, resetStreaks, ensures_modify, immediateDecision]
    split
    · rw [ensures_ofExcept]
      refine ⟨fun _ heq => ?_, fun _ heq => by cases heq⟩
      obtain rfl := Except.ok.inj heq
      exact ⟨SourceDecision.valid_neutral, rfl, rfl⟩
    · next hne => exact hasserted _ (known_immediateReasons source) hne rfl rfl
  · intro _
    rw [baseDecision, ensures_bind, ensures_modify, ensures_bind, ensures_get, ensures_ite,
      ensures_ite]
    refine ⟨fun hne => hasserted _ (known_baseReasons source) hne rfl rfl, fun _ => ⟨fun _ => ?_,
      fun _ => ?_⟩⟩
    · exact ⟨SourceDecision.valid_clear, rfl, rfl⟩
    · exact ⟨SourceDecision.valid_neutral, rfl, rfl⟩

/-- What an observation does to the source: it stays, or it is a newer one. -/
inductive Observed (e e' : FrigatePriorityEvaluator) (source : NormalizedSource) (observedNs : ℤ) :
    Prop
  | kept (hsame : SameSource e e') (hsome : e.source.isSome = true)
  | newer (hsource : e'.source = some source) (hobserved : e'.sourceObservedNs = some observedNs)
      (hnewer : ∀ last ∈ e.source, last.generation < source.generation)

/-- So it does with the streaks counted first. -/
theorem ensures_observeNew (source : NormalizedSource) (policy : PriorityPolicy) (observedNs : ℤ)
    (missing : Bool) (hreasons : Known reasons)
    (hnewer : ∀ last ∈ e.source, last.generation < source.generation) :
    Ensures (observeNew source policy observedNs reasons missing) e
      (fun d e' => d.Valid ∧ e'.Ready ∧ Observed e e' source observedNs) (fun _ _ => False) := by
  rw [observeNew, ensures_bind, ensures_modify, ensures_bind]
  refine (ensures_decideNew source policy missing).mono ?_ fun _ _ hfalse => hfalse
  rintro d e' ⟨hd, hsource, hobserved⟩
  obtain ⟨d', hunion, hd'⟩ := SourceDecision.union_ok hd hreasons
  rw [ensures_bind, ensures_modify, ensures_ofExcept, hunion]
  refine ⟨fun _ heq => ?_, fun _ heq => by cases heq⟩
  obtain rfl := Except.ok.inj heq
  exact ⟨hd', fun _ _ => ⟨observedNs, d, hobserved, rfl, hd⟩, .newer hsource hobserved hnewer⟩

/-- A new observation or an old one, the decision is valid. -/
theorem ensures_observe (h : e.Ready) (source : NormalizedSource) (policy : PriorityPolicy)
    (observedNs : ℤ) (busy missing : Bool) :
    Ensures (observe source policy observedNs busy missing) e
      (fun d e' => d.Valid ∧ e'.Ready ∧ Observed e e' source observedNs) (fun _ _ => False) := by
  have hollama := known_ollamaReasons busy missing
  have hrefuse : ∀ reasons, Known reasons → e.source.isSome = true →
      Ensures (refuse reasons) e
        (fun d e' => d.Valid ∧ e'.Ready ∧ Observed e e' source observedNs) (fun _ _ => False) := by
    intro reasons hreasons hsome
    refine (ensures_refuse h hsome hreasons).mono ?_ fun _ _ hfalse => hfalse
    rintro d e' ⟨hd, hsame⟩
    exact ⟨hd, h.same hsame, .kept hsame hsome⟩
  rw [observe, ensures_bind, ensures_get]
  split
  · next hnone =>
    exact ensures_observeNew source policy observedNs missing hollama (by simp [hnone])
  · next last hlast =>
    have hsome : e.source.isSome = true := by rw [hlast]; rfl
    have hold := hrefuse _ (hollama.append known_unavailable) hsome
    rw [ensures_ite, ensures_ite, ensures_ite]
    refine ⟨fun _ => hold, fun hnot => ⟨fun _ => ⟨fun _ => hold, fun _ => ?_⟩, fun hne => ?_⟩⟩
    · rw [observeAgain, ensures_ite]
      refine ⟨fun _ => hrefuse _ hollama hsome, fun _ => ?_⟩
      obtain ⟨t, d, hobserved, hcached, hd⟩ := h last hlast
      obtain ⟨d', hunion, hd'⟩ := SourceDecision.union_ok hd hollama
      rw [ensures_bind, ensures_get, hcached, ensures_ofExcept, hunion]
      refine ⟨fun _ heq => ?_, fun _ heq => by cases heq⟩
      obtain rfl := Except.ok.inj heq
      exact ⟨hd', h, .kept ⟨rfl, rfl, rfl⟩ hsome⟩
    · refine ensures_observeNew source policy observedNs missing hollama ?_
      intro last' hlast'
      obtain rfl := Option.some.inj (hlast.symm.trans hlast')
      omega

end FrigatePriorityEvaluator

/-! ## The producer -/

/-- A publication may follow another one: it has the next number, and its source is the same or a
    newer one. -/
structure Succeeds (a b : PublicationArguments) : Prop where
  sequence : b.sequence = a.sequence + 1
  source : (b.sourceGeneration = a.sourceGeneration ∧
      b.sourceObservedMonotonicNs = a.sourceObservedMonotonicNs) ∨
    (a.sourceGeneration < b.sourceGeneration ∧
      a.sourceObservedMonotonicNs < b.sourceObservedMonotonicNs)

/-- What the writer made of a decision. -/
structure Written.Sound (config : ProducerConfig) (w : Written) : Prop where
  valid : w.arguments.Valid
  payload : w.payload = w.arguments.bytes (.int 1)
  boot : w.arguments.bootIdSha256 = config.bootSha256
  epoch : w.arguments.producerEpoch = config.epoch
  state : w.arguments.state = w.decision.state

namespace FrigatePriorityMonitor

variable {config : ProducerConfig} {env : ProducerEnvironment} {m : FrigatePriorityMonitor}

variable (config) in
/-- The publications that were written follow each other, from the number one on. -/
structure Linked (ws : List Written) : Prop where
  sound : ∀ w ∈ ws, w.Sound config
  first : ∀ w ∈ ws.head?, w.arguments.sequence = 1
  chain : ws.IsChain fun v w => Succeeds v.arguments w.arguments

/-- Nothing has been written yet. -/
theorem linked_nil : Linked config [] :=
  ⟨fun _ h => absurd h List.not_mem_nil, fun _ h => (by cases h), .nil⟩

/-- A publication is appended to those that it follows on. -/
theorem Linked.append {ws : List Written} {w : Written} (h : Linked config ws)
    (hsound : w.Sound config) (hfirst : ws = [] → w.arguments.sequence = 1)
    (hlast : ∀ v ∈ ws.getLast?, Succeeds v.arguments w.arguments) : Linked config (ws ++ [w]) where
  sound := List.forall_mem_append.2 ⟨h.sound, by simpa using hsound⟩
  first := by
    cases ws with
    | nil => simpa using hfirst rfl
    | cons v ws => simpa using h.first v rfl
  chain := by
    refine List.isChain_append.2 ⟨h.chain, .singleton w, ?_⟩
    intro v hv w' hw'
    obtain rfl := Option.some.inj hw'
    exact hlast v hv

variable (config env) in
/-- What holds of the producer between two polls. -/
structure Inv (m : FrigatePriorityMonitor) : Prop where
  ready : m.evaluator.Ready
  observed : ∀ t ∈ m.evaluator.sourceObservedNs, 1 ≤ t ∧ t < env.clockNs m.ticks
  sequence_eq : m.sequence = m.written.length
  sequence_le : m.sequence ≤ m.ticks
  linked : Linked config m.written
  numbers : ∀ w ∈ m.written.getLast?, w.arguments.sequence = m.sequence
  newest : ∀ w ∈ m.written.getLast?, ∃ source t, m.evaluator.source = some source ∧
    m.evaluator.sourceObservedNs = some t ∧
    ((source.generation = w.arguments.sourceGeneration ∧ t = w.arguments.sourceObservedMonotonicNs) ∨
      (w.arguments.sourceGeneration < source.generation ∧ w.arguments.sourceObservedMonotonicNs < t))

/-- A new monitor has written nothing. -/
theorem inv_new : Inv config env new where
  ready := by rintro _ ⟨⟩
  observed := by rintro _ ⟨⟩
  sequence_eq := rfl
  sequence_le := le_rfl
  linked := linked_nil
  numbers := by rintro _ ⟨⟩
  newest := by rintro _ ⟨⟩

/-- The clock has run further than the number of its readings. -/
theorem lt_clockNs (hclock : 1 ≤ env.clockNs 0) (n : ℕ) : (n : ℤ) < env.clockNs n := by
  induction n with
  | zero => exact hclock
  | succ n ih =>
    have hlt := env.clock_strictMono (Nat.lt_add_one n)
    omega

/-- Another evaluator with the same source. -/
theorem Inv.same {e : FrigatePriorityEvaluator} (h : Inv config env m)
    (hsame : FrigatePriorityEvaluator.SameSource m.evaluator e) :
    Inv config env { m with evaluator := e } where
  ready := h.ready.same hsame
  observed := by rw [hsame.observed]; exact h.observed
  sequence_eq := h.sequence_eq
  sequence_le := h.sequence_le
  linked := h.linked
  numbers := h.numbers
  newest := by rw [hsame.observed, hsame.source]; exact h.newest

/-- The clock is read. -/
theorem Inv.tick (h : Inv config env m) : Inv config env { m with ticks := m.ticks + 1 } where
  ready := h.ready
  observed t ht := ⟨(h.observed t ht).1, (h.observed t ht).2.trans
    (env.clock_strictMono (Nat.lt_succ_self _))⟩
  sequence_eq := h.sequence_eq
  sequence_le := h.sequence_le.trans (Nat.le_succ _)
  linked := h.linked
  numbers := h.numbers
  newest := h.newest

/-- A newer source, seen at the reading of the clock before. -/
theorem Inv.newer {e : FrigatePriorityEvaluator} {source : NormalizedSource}
    (hclock : 1 ≤ env.clockNs 0) (h : Inv config env m) (hready : e.Ready)
    (hsource : e.source = some source) (hobserved : e.sourceObservedNs = some (env.clockNs m.ticks))
    (hnewer : ∀ last ∈ m.evaluator.source, last.generation < source.generation) :
    Inv config env { m with evaluator := e, ticks := m.ticks + 1 } where
  ready := hready
  observed t ht := by
    obtain rfl := Option.some.inj (hobserved.symm.trans ht)
    have hlt := lt_clockNs hclock m.ticks
    exact ⟨by omega, env.clock_strictMono (Nat.lt_succ_self _)⟩
  sequence_eq := h.sequence_eq
  sequence_le := h.sequence_le.trans (Nat.le_succ _)
  linked := h.linked
  numbers := h.numbers
  newest w hw := by
    obtain ⟨last, t, hlast, ht, hbefore⟩ := h.newest w hw
    have hgeneration := hnewer last hlast
    have htime := (h.observed t ht).2
    refine ⟨source, _, hsource, hobserved, .inr ?_⟩
    rcases hbefore with ⟨heq, heq'⟩ | ⟨hlt, hlt'⟩
    · exact ⟨heq ▸ hgeneration, heq' ▸ htime⟩
    · exact ⟨hlt.trans hgeneration, hlt'.trans htime⟩

/-- What may end a run: not that the writer refuses a publication. -/
def NotRefused (e : Exc) : Prop := ∀ message, e ≠ .valueError message

/-- A decision that can be published is written, or the run ends. -/
theorem ensures_publish (hclock : 1 ≤ env.clockNs 0) (h : Inv config env m)
    (hsome : m.evaluator.source.isSome = true) {d : SourceDecision} (hd : d.Valid)
    (result : WriteResult) :
    Ensures (publish config env d result) m (fun _ => Inv config env)
      (fun e m' => NotRefused e ∧ Linked config m'.written) := by
  obtain ⟨source, hsource⟩ := Option.isSome_iff_exists.1 hsome
  obtain ⟨t, _, ht, _⟩ := h.ready source hsource
  obtain ⟨hpos, hlt⟩ := h.observed t ht
  -- There are no more publications than ticks, so the next number is within its bound.
  have hnumber : (m.sequence : ℤ) + 1 ≤ env.clockNs m.ticks := by
    have hle := h.sequence_le
    have hlt := lt_clockNs hclock m.ticks
    omega
  rw [publish, ensures_bind, now, ensures_modifyGet, ensures_bind, ensures_ofExcept]
  refine ⟨fun _ hrange => ?_, fun e he => ?_⟩
  · have hrange' : 1 ≤ env.clockNs m.ticks ∧ env.clockNs m.ticks ≤ maxGeneration := by
      rw [requireClock] at hrange
      split_ifs at hrange with hok
      exact hok
    rw [ensures_bind, ensures_get, ensures_bind, ensures_ofExcept, sourceGeneration, hsource]
    refine ⟨fun generation hgeneration => ?_, fun e he => by cases he⟩
    obtain rfl := Except.ok.inj hgeneration
    rw [ensures_bind, ensures_ofExcept, sourceObservedNs, ht]
    refine ⟨fun observed hobserved => ?_, fun e he => by cases he⟩
    obtain rfl := Except.ok.inj hobserved
    -- What is published is valid, so that the writer has no reason to refuse it.
    let a := arguments config env { m with ticks := m.ticks + 1 } d (env.clockNs m.ticks)
      source.generation t
    have hvalid : a.Valid := {
      boot := config.boot_hex
      epoch := config.epoch_hex
      observation := env.token_hex _
      policy := config.policy_hex
      sequence := by
        change 1 ≤ (m.sequence : ℤ) + 1 ∧ (m.sequence : ℤ) + 1 ≤ maxGeneration
        omega
      observed := hrange'
      generation := ⟨source.generation_pos, source.generation_le⟩
      source := ⟨hpos, hlt.le.trans hrange'.2⟩
      times := hlt.le
      reasons := hd.reasons
      consistent := hd.consistent }
    have hencode : encodePriorityPublication a = .ok (a.bytes (.int 1)) :=
      (encodeAs_eq_ok rfl).2 ⟨hvalid, rfl⟩
    -- It follows the last publication: one number more, and a source that is not older.
    have hlinked : Linked config (m.written ++ [⟨d, a, a.bytes (.int 1)⟩]) := by
      refine h.linked.append ⟨hvalid, rfl, rfl, rfl, rfl⟩ (fun hnil => ?_) fun w hw => ⟨?_, ?_⟩
      · change (m.sequence : ℤ) + 1 = 1
        rw [h.sequence_eq, hnil]
        rfl
      · change (m.sequence : ℤ) + 1 = _
        rw [h.numbers w hw]
      · obtain ⟨source', t', hsource', ht', hbefore⟩ := h.newest w hw
        obtain rfl := Option.some.inj (hsource.symm.trans hsource')
        obtain rfl := Option.some.inj (ht.symm.trans ht')
        exact hbefore
    rw [ensures_bind, ensures_ofExcept]
    refine ⟨fun payload hpayload => ?_, fun e he => by cases hencode.symm.trans he⟩
    obtain rfl := Except.ok.inj (hencode.symm.trans hpayload)
    -- A write that fails behind the rename has published all the same.
    cases result with
    | failedBefore => exact ⟨fun _ hrefused => (by cases hrefused), h.linked⟩
    | failedBehind => exact ⟨fun _ hrefused => (by cases hrefused), hlinked⟩
    | written =>
      refine {
        ready := h.ready
        observed := h.tick.observed
        sequence_eq := by simp [h.sequence_eq]
        sequence_le := Nat.succ_le_succ h.sequence_le
        linked := hlinked
        numbers := ?_
        newest := ?_ }
      · intro w hw
        rw [List.getLast?_concat, Option.mem_some_iff] at hw
        subst hw
        rfl
      · intro w hw
        rw [List.getLast?_concat, Option.mem_some_iff] at hw
        subst hw
        exact ⟨source, t, hsource, ht, .inl ⟨rfl, rfl⟩⟩
  · refine ⟨fun message hrefused => ?_, h.linked⟩
    rw [requireClock] at he
    split_ifs at he
    obtain rfl := Except.error.inj he
    cases hrefused

/-- A valid decision is published, or the write fails. -/
theorem ensures_publishSome (hclock : 1 ≤ env.clockNs 0) (h : Inv config env m)
    {decision : Option SourceDecision} (hdecision : match decision with
      | none => m.evaluator.source = none
      | some d => d.Valid ∧ m.evaluator.source.isSome = true) (result : WriteResult) :
    Ensures (publishSome config env result decision) m (fun _ => Inv config env)
      (fun e m' => NotRefused e ∧ Linked config m'.written) := by
  cases decision with
  | none => exact h
  | some d =>
    rw [publishSome, ensures_bind]
    exact (ensures_publish hclock h hdecision.2 hdecision.1 result).mono (fun _ _ h => h)
      fun _ _ h => h

/-- A failure of the sources is published, if there was a source. -/
theorem ensures_publishFailure (hclock : 1 ≤ env.clockNs 0) (h : Inv config env m)
    {reasons : List Text} (hreasons : Known reasons) (result : WriteResult) :
    Ensures (onEvaluator (FrigatePriorityEvaluator.failure reasons) >>=
        publishSome config env result) m (fun _ => Inv config env)
      (fun e m' => NotRefused e ∧ Linked config m'.written) := by
  rw [ensures_bind, onEvaluator, ensures_zoom]
  refine (FrigatePriorityEvaluator.ensures_failure h.ready hreasons).mono ?_ fun _ _ hfalse => hfalse.elim
  rintro decision e ⟨hsame, hdecision⟩
  refine ensures_publishSome hclock (h.same hsame) ?_ result
  cases decision with
  | none => exact hsame.source.trans hdecision
  | some d => exact ⟨hdecision.1, hsame.source ▸ hdecision.2⟩

/-- The reasons of a failed probe are known. -/
theorem known_probeReasons {α : Type} (result : ProbeResult α) : Known (probeReasons result) := by
  cases result with
  | value _ => exact FrigatePriorityEvaluator.known_nil
  | drifted => exact FrigatePriorityEvaluator.known_policyDrift
  | failed => exact FrigatePriorityEvaluator.known_unavailable

/-- So are those of probes that cannot be normalized. -/
theorem known_of_normalize {probes : Probes} {policy : PriorityPolicy} {reasons : List Text}
    (h : normalize probes policy = .error reasons) : Known reasons := by
  rw [normalize] at h
  split at h
  · split at h
    · cases h
    · next e _ =>
      obtain rfl := Except.error.inj h
      cases e with
      | policyDrift _ => exact FrigatePriorityEvaluator.known_policyDrift
      | sourceUnavailable _ => exact FrigatePriorityEvaluator.known_unavailable
  · obtain rfl := Except.error.inj h
    exact ((known_probeReasons _).append (known_probeReasons _)).append (known_probeReasons _)

/-- What may end a poll: what the policy store raised, and nothing of the writer. -/
def MayEnd (probes : Probes) (e : Exc) : Prop := NotRefused e ∨ probes.policy = .raised e

/-- A poll keeps the invariant. -/
theorem ensures_pollOnce (hclock : 1 ≤ env.clockNs 0) (h : Inv config env m) (probes : Probes) :
    Ensures (pollOnce config env probes) m (fun _ => Inv config env)
      (fun e m' => MayEnd probes e ∧ Linked config m'.written) := by
  have hends : ∀ (e : Exc) (m' : FrigatePriorityMonitor), NotRefused e ∧ Linked config m'.written →
      MayEnd probes e ∧ Linked config m'.written := fun _ _ h => ⟨.inl h.1, h.2⟩
  rw [pollOnce]
  split
  · exact (ensures_publishFailure hclock h FrigatePriorityEvaluator.known_policyDrift _).mono
      (fun _ _ h => h) hends
  · next e he => exact ⟨.inr he, h.linked⟩
  · next policy _ =>
    rw [pollSource]
    simp only []
    split
    · next reasons hreasons =>
      exact (ensures_publishFailure hclock h ((known_of_normalize hreasons).append
        (FrigatePriorityEvaluator.known_ollamaReasons _ _)) _).mono (fun _ _ h => h) hends
    · next source _ =>
      rw [ensures_bind, now, ensures_modifyGet, ensures_bind, onEvaluator, ensures_zoom]
      -- A normalized source is always answered, new or not.
      refine (FrigatePriorityEvaluator.ensures_observe h.ready source policy _ _ _).mono ?_
        fun _ _ hfalse => hfalse.elim
      rintro d e ⟨hd, hready, hobserved⟩
      refine (ensures_publishSome hclock ?_ ?_ _).mono (fun _ _ h => h) hends
      · cases hobserved with
        | kept hsame _ => exact h.tick.same hsame
        | newer hsource hobserved hnewer => exact h.newer hclock hready hsource hobserved hnewer
      · refine ⟨hd, ?_⟩
        cases hobserved with
        | kept hsame hsome =>
          change e.source.isSome = true
          rw [hsame.source]
          exact hsome
        | newer hsource _ _ =>
          change e.source.isSome = true
          rw [hsource]
          rfl

variable (env) in
/-- The first two readings of the clock are of use, or the first publication fails for the second
    one: the producer looks at that, and not at the first one. -/
def ClockUsable : Prop :=
  1 ≤ env.clockNs 0 ∨ ¬ (1 ≤ env.clockNs 1 ∧ env.clockNs 1 ≤ maxGeneration)

/-- A producer that has not seen a source. -/
structure Silent (m : FrigatePriorityMonitor) : Prop where
  source : m.evaluator.source = none
  ticks : m.ticks = 0
  written : m.written = []

/-- A monitor whose clock cannot be used is ready. -/
theorem Silent.ready (h : Silent m) : m.evaluator.Ready := by
  intro source hsource
  rw [h.source] at hsource
  cases hsource

/-- It has written nothing. -/
theorem Silent.linked (h : Silent m) : Linked config m.written := by
  rw [h.written]
  exact linked_nil

/-- Its failures are not written either. -/
theorem Silent.ensures_publishFailure (h : Silent m) {reasons : List Text} (hreasons : Known reasons)
    (result : WriteResult) :
    Ensures (onEvaluator (FrigatePriorityEvaluator.failure reasons) >>=
        publishSome config env result) m (fun _ => Silent) (fun _ _ => False) := by
  rw [ensures_bind, onEvaluator, ensures_zoom]
  refine (FrigatePriorityEvaluator.ensures_failure h.ready hreasons).mono ?_ fun _ _ hfalse => hfalse
  rintro decision e ⟨hsame, hdecision⟩
  cases decision with
  | none => exact ⟨hsame.source.trans h.source, h.ticks, h.written⟩
  | some d => simp [h.source] at hdecision

/-- Without a second reading the first source ends the run. -/
theorem Silent.ensures_pollOnce (hclock : ¬ (1 ≤ env.clockNs 1 ∧ env.clockNs 1 ≤ maxGeneration))
    (h : Silent m) (probes : Probes) :
    Ensures (pollOnce config env probes) m (fun _ => Silent)
      (fun e m' => MayEnd probes e ∧ Linked config m'.written) := by
  rw [pollOnce]
  split
  · exact (h.ensures_publishFailure FrigatePriorityEvaluator.known_policyDrift _).mono
      (fun _ _ h => h) fun _ _ hfalse => hfalse.elim
  · next e he => exact ⟨.inr he, h.linked⟩
  · next policy _ =>
    rw [pollSource]
    simp only []
    split
    · next reasons hreasons =>
      exact (h.ensures_publishFailure ((known_of_normalize hreasons).append
        (FrigatePriorityEvaluator.known_ollamaReasons _ _)) _).mono (fun _ _ h => h)
        fun _ _ hfalse => hfalse.elim
    · next source _ =>
      rw [ensures_bind, now, ensures_modifyGet, ensures_bind, onEvaluator, ensures_zoom]
      refine (FrigatePriorityEvaluator.ensures_observe h.ready source policy _ _ _).mono ?_
        fun _ _ hfalse => hfalse.elim
      intro d e _
      have hinvalid : requireClock (env.clockNs (m.ticks + 1)) =
          .error (.runtimeError "monotonic clock is invalid") := by
        rw [h.ticks, requireClock, if_neg hclock]
      rw [publishSome, ensures_bind, publish, ensures_bind, now, ensures_modifyGet, ensures_bind,
        ensures_ofExcept]
      refine ⟨fun _ hok => (by cases hinvalid.symm.trans hok), fun e' he' => ?_⟩
      obtain rfl := Except.error.inj (hinvalid.symm.trans he')
      exact ⟨.inl fun message hrefused => (by cases hrefused), h.linked⟩

/-- What every poll keeps up holds along a run. -/
theorem runPolls_of_invariant {I : FrigatePriorityMonitor → Prop}
    (hlinked : ∀ m, I m → Linked config m.written)
    (hpoll : ∀ m probes, I m → Ensures (pollOnce config env probes) m (fun _ => I)
      (fun e m' => MayEnd probes e ∧ Linked config m'.written))
    (hI : I m) (polls : List Probes) :
    Linked config (runPolls config env m polls).1.written ∧
      ∀ e ∈ (runPolls config env m polls).2, ∃ probes ∈ polls, MayEnd probes e := by
  induction polls generalizing m with
  | nil => exact ⟨hlinked m hI, fun e he => by cases he⟩
  | cons probes rest ih =>
    have h := hpoll m probes hI
    rw [runPolls]
    split
    · next m' heq =>
      obtain ⟨hwritten, hends⟩ := ih ((ensures_of_ok heq).1 h)
      refine ⟨hwritten, fun e he => ?_⟩
      obtain ⟨probes', hmem, hend⟩ := hends e he
      exact ⟨probes', List.mem_cons_of_mem _ hmem, hend⟩
    · next e m' heq =>
      obtain ⟨hend, hwritten⟩ := (ensures_of_error heq).1 h
      refine ⟨hwritten, fun e' he' => ⟨probes, List.mem_cons_self, ?_⟩⟩
      rwa [← Option.some.inj he']

variable (config) in
/-- All that a monitor writes is linked, however many polls it runs. -/
theorem runPolls_linked (hclock : ClockUsable env) (polls : List Probes) :
    Linked config (runPolls config env new polls).1.written ∧
      ∀ e ∈ (runPolls config env new polls).2, ∃ probes ∈ polls, MayEnd probes e := by
  rcases hclock with hclock | hclock
  · exact runPolls_of_invariant (fun _ h => Inv.linked h)
      (fun _ probes h => ensures_pollOnce hclock h probes) inv_new polls
  · exact runPolls_of_invariant (fun _ h => Silent.linked h)
      (fun _ probes h => Silent.ensures_pollOnce hclock h probes) ⟨rfl, rfl, rfl⟩ polls

end FrigatePriorityMonitor

end Subgen

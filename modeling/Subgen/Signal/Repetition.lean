import Subgen.Signal.Production

/-!
# Repeated observations

A source that the evaluator already has carries no evidence: to observe it once more, while the
other workload can be asked, changes nothing (`after_of_repeats`), so that a run decides what it
decides without such calls (`freshDecisions_eq`). A streak counts new generations only, which
follow each other without a failure between them (`Evidence`).

What one call does is said once, by cases: it meets the same source again, it fails, it ends the streaks,
or the source is newer, and the other workload can be asked about it or not (`Answer`, `ensures_perform`).
That a call never raises, and what a run as a whole has, both follow from the answers.

* `afterAll_strip`: a run and the run without its repeated calls end in the same state;
* `freshDecisions_eq`: and decide the same in between;
* `Inv`: the streaks, and the reasons of the cached decision, have their evidence, which is the
  invariant of a run (`inv_run`);
* `repeats_carry_no_evidence`: the results together, for every run.
-/

namespace Subgen

open Procedure

/-! ## Decisions -/

namespace SourceDecision

/-- Reasons are given if and only if pressure is asserted, in order and each once, and a decision that
    asserts pressure clears nothing. -/
structure WellFormed (d : SourceDecision) : Prop where
  pressure_iff : d.pressure = true ↔ d.reasonCodes ≠ []
  not_clear : d.pressure = true → d.clearEligible = false
  sorted : d.reasonCodes.Pairwise (· ≤ ·)
  nodup : d.reasonCodes.Nodup

/-- The neutral decision is well formed. -/
theorem wellFormed_neutral : neutral.WellFormed := ⟨by decide, fun _ => rfl, .nil, .nil⟩

/-- So is the clear one. -/
theorem wellFormed_clear : clear.WellFormed := ⟨by decide, nofun, .nil, .nil⟩

variable {d : SourceDecision} {reasons : List Text}

/-- A reason is enough to assert a decision, which has no other reasons. -/
theorem exists_asserted (hne : reasons ≠ []) :
    ∃ d, asserted reasons = .ok d ∧ d.WellFormed ∧ ∀ r ∈ d.reasonCodes, r ∈ reasons := by
  obtain ⟨r, hr⟩ := List.exists_mem_of_ne_nil _ hne
  have hsorted : sortedSet reasons ≠ [] := List.ne_nil_of_mem (mem_sortedSet.2 hr)
  rw [asserted, if_neg hsorted]
  refine ⟨_, rfl, ⟨iff_of_true rfl hsorted, fun _ => rfl, ?_, nodup_sortedSet _⟩, fun r hr => ?_⟩
  · exact List.pairwise_insertionSort (· ≤ ·) reasons.dedup
  · exact mem_sortedSet.1 hr

/-- More reasons always make a decision, with no others than these. -/
theorem exists_union (hd : d.WellFormed) (reasons : List Text) :
    ∃ d', d.union reasons = .ok d' ∧ d'.WellFormed ∧
      ∀ r ∈ d'.reasonCodes, r ∈ d.reasonCodes ∨ r ∈ reasons := by
  rw [union]
  split
  · exact ⟨d, rfl, hd, fun _ hr => .inl hr⟩
  · next hne =>
    obtain ⟨d', hd', hformed, hmem⟩ := exists_asserted hne
    exact ⟨d', hd', hformed, fun r hr => List.mem_append.1 (mem_sortedSet.1 (hmem r hr))⟩

end SourceDecision

/-! ## Calls -/

/-- The calls of an evaluator. -/
inductive EvaluatorCall
  | observe (source : NormalizedSource) (policy : PriorityPolicy) (observedNs : ℤ)
      (ollamaBusy ollamaUnavailable : Bool)
  | failure (reasons : List Text)
  | resetStreaks

namespace EvaluatorCall

/-- A call of the evaluator. -/
def perform : EvaluatorCall → EvaluatorM (Option SourceDecision)
  | observe source policy observedNs ollamaBusy ollamaUnavailable =>
    some <$> FrigatePriorityEvaluator.observe source policy observedNs ollamaBusy ollamaUnavailable
  | failure reasons => FrigatePriorityEvaluator.failure reasons
  | resetStreaks => do
    FrigatePriorityEvaluator.resetStreaks
    pure none

/-- The reasons that the call itself brings, apart from those of its source. -/
def reasons : EvaluatorCall → List Text
  | observe _ _ _ ollamaBusy ollamaUnavailable =>
    FrigatePriorityEvaluator.ollamaReasons ollamaBusy ollamaUnavailable ++ [higherPriorityUnavailable]
  | failure reasons => reasons
  | resetStreaks => []

end EvaluatorCall

namespace FrigatePriorityEvaluator

/-- The evaluator behind a call. -/
def after (e : FrigatePriorityEvaluator) (c : EvaluatorCall) : FrigatePriorityEvaluator :=
  match c.perform e with
  | .ok _ e' => e'
  | .error _ e' => e'

/-- What a call returns or raises. -/
def decision (e : FrigatePriorityEvaluator) (c : EvaluatorCall) : Except Exc (Option SourceDecision) :=
  match c.perform e with
  | .ok d _ => .ok d
  | .error x _ => .error x

/-- The evaluator behind some calls. -/
def afterAll (e : FrigatePriorityEvaluator) (calls : List EvaluatorCall) : FrigatePriorityEvaluator :=
  calls.foldl after e

/-- What the calls return. -/
def decisions (e : FrigatePriorityEvaluator) :
    List EvaluatorCall → List (Except Exc (Option SourceDecision))
  | [] => []
  | c :: calls => e.decision c :: decisions (e.after c) calls

/-- The call observes the source that the evaluator already has, while the other workload can be
    asked. -/
def repeats (e : FrigatePriorityEvaluator) : EvaluatorCall → Bool
  | .observe source _ _ _ false => e.source = some source
  | _ => false

/-- A run without the calls that observe the source once more. -/
def strip (e : FrigatePriorityEvaluator) : List EvaluatorCall → List EvaluatorCall
  | [] => []
  | c :: calls => if e.repeats c then strip e calls else c :: strip (e.after c) calls

/-- The decisions of the calls that do not observe the source once more. -/
def freshDecisions (e : FrigatePriorityEvaluator) :
    List EvaluatorCall → List (Except Exc (Option SourceDecision))
  | [] => []
  | c :: calls =>
    if e.repeats c then freshDecisions (e.after c) calls
    else e.decision c :: freshDecisions (e.after c) calls

/-! ## One call -/

/-- Without streaks. -/
def rested (e : FrigatePriorityEvaluator) : FrigatePriorityEvaluator :=
  { e with highStreak := 0, lowStreak := 0, skipStreak := 0 }

/-- The evaluator that has seen a new generation, and has come to a decision about it. -/
def seen (e : FrigatePriorityEvaluator) (source : NormalizedSource) (observedNs : ℤ)
    (decision : SourceDecision) : FrigatePriorityEvaluator :=
  { e with source := some source, sourceObservedNs := some observedNs, cachedBaseDecision := some decision }

/-- An evaluator with a source has a decision about it. -/
structure Held (e : FrigatePriorityEvaluator) : Prop where
  cached : e.source.isSome → e.cachedBaseDecision.isSome
  formed : ∀ d ∈ e.cachedBaseDecision, d.WellFormed

/-- The newest generation. -/
def Newer (e : FrigatePriorityEvaluator) (source : NormalizedSource) : Prop :=
  ∀ last ∈ e.source, last.generation < source.generation

/-- What a call does and returns: it observes the source once more; it fails, with or without a source;
    or a new generation comes, while the other workload cannot be asked, or counts. -/
inductive Answer (e : FrigatePriorityEvaluator) :
    EvaluatorCall → Option SourceDecision → FrigatePriorityEvaluator → Prop
  | again {source policy t busy d d'} (hsource : e.source = some source)
      (hcached : e.cachedBaseDecision = some d) (hd : d.union (ollamaReasons busy false) = .ok d') :
      Answer e (.observe source policy t busy false) (some d') e
  | failed {c reasons d d'} (hfresh : e.repeats c = false) (hreasons : ∀ r ∈ reasons, r ∈ c.reasons)
      (hcached : e.cachedBaseDecision = some d) (hd : d.union reasons = .ok d') :
      Answer e c (some d') e.rested
  | idle {c} (hfresh : e.repeats c = false) : Answer e c none e.rested
  | unavailable {source policy t busy d d'} (hnewer : e.Newer source)
      (hformed : d.WellFormed) (hd : ∀ r ∈ d.reasonCodes, r ∈ immediateReasons source)
      (hd' : d.union (ollamaReasons busy true) = .ok d') :
      Answer e (.observe source policy t busy true) (some d') (e.rested.seen source t d)
  | counted {source policy t busy d d'} (hnewer : e.Newer source)
      (hformed : d.WellFormed) (hd : ∀ r ∈ d.reasonCodes, r ∈ (e.counted source policy).baseReasons source)
      (hd' : d.union (ollamaReasons busy false) = .ok d') :
      Answer e (.observe source policy t busy false) (some d') ((e.counted source policy).seen source t d)

variable {e e' : FrigatePriorityEvaluator} {c : EvaluatorCall}

/-- An evaluator with a source has a decision for it. -/
theorem Held.exists_cached (h : e.Held) {source : NormalizedSource} (hsource : e.source = some source) :
    ∃ d, e.cachedBaseDecision = some d ∧ d.WellFormed := by
  obtain ⟨d, hd⟩ := Option.isSome_iff_exists.1 (h.cached (by rw [hsource]; rfl))
  exact ⟨d, hd, h.formed d hd⟩

/-- The reasons of the other service are those of the call. -/
theorem mem_ollamaReasons {r : Text} {busy missing : Bool} {source : NormalizedSource}
    {policy : PriorityPolicy} {t : ℤ} (hr : r ∈ ollamaReasons busy missing) :
    r ∈ (EvaluatorCall.observe source policy t busy missing).reasons :=
  List.mem_append.2 (.inl hr)

/-- A failure is answered with its reasons. -/
theorem ensures_failure_answer (h : e.Held) (hfresh : e.repeats c = false) {reasons : List Text}
    (hreasons : ∀ r ∈ reasons, r ∈ c.reasons) :
    Ensures (failure reasons) e (fun d e' => Answer e c d e' ∧ (e.source.isSome → d.isSome))
      (fun _ _ => False) := by
  rw [failure, ensures_bind, resetStreaks, ensures_modify, ensures_bind, ensures_get, ensures_ite]
  refine ⟨fun hnone => ⟨.idle hfresh, fun hsome => ?_⟩, fun hsome => ?_⟩
  · rw [Option.isNone_iff_eq_none.1 hnone] at hsome
    cases hsome
  · obtain ⟨source, hsource⟩ := Option.ne_none_iff_exists'.1 (mt Option.isNone_iff_eq_none.2 hsome)
    obtain ⟨d, hcached, hd⟩ := h.exists_cached hsource
    obtain ⟨d', hunion, -⟩ := SourceDecision.exists_union hd reasons
    have hcached' : e.cachedBaseDecision.getD .neutral = d := by rw [hcached]; rfl
    rw [ensures_map, ensures_ofExcept, hcached', hunion]
    refine ⟨fun _ heq => ?_, fun _ heq => by cases heq⟩
    obtain rfl := Except.ok.inj heq
    exact ⟨.failed hfresh hreasons hcached hunion, fun _ => rfl⟩

/-- A refusal is answered with its reasons. -/
theorem ensures_refuse_answer (h : e.Held) (hfresh : e.repeats c = false) {reasons : List Text}
    (hreasons : ∀ r ∈ reasons, r ∈ c.reasons) (hsource : e.source.isSome) :
    Ensures (refuse reasons) e (fun d e' => Answer e c (some d) e') (fun _ _ => False) := by
  rw [refuse, ensures_bind]
  refine (ensures_failure_answer h hfresh hreasons).mono ?_ fun _ _ hfalse => hfalse
  rintro d e' ⟨hanswer, hsome⟩
  obtain ⟨d, rfl⟩ := Option.isSome_iff_exists.1 (hsome hsource)
  exact hanswer

/-- The decision about a new generation, and the streaks behind it. -/
theorem ensures_decideNew_answer (source : NormalizedSource) (policy : PriorityPolicy) (missing : Bool) :
    Ensures (decideNew source policy missing) e
      (fun d e' => d.WellFormed ∧ (if missing then
          e' = e.rested ∧ ∀ r ∈ d.reasonCodes, r ∈ immediateReasons source
        else
          e' = e.counted source policy ∧
            ∀ r ∈ d.reasonCodes, r ∈ (e.counted source policy).baseReasons source))
      (fun _ _ => False) := by
  have hnone : ∀ {l : List Text}, ∀ r ∈ ([] : List Text), r ∈ l := fun _ hr => absurd hr List.not_mem_nil
  rw [decideNew, ensures_ite]
  refine ⟨fun hmissing => ?_, fun hmissing => ?_⟩
  · subst hmissing
    rw [ensures_bind, resetStreaks, ensures_modify, immediateDecision]
    split
    · rw [ensures_ofExcept]
      refine ⟨fun _ heq => ?_, fun _ heq => by cases heq⟩
      obtain rfl := Except.ok.inj heq
      exact ⟨SourceDecision.wellFormed_neutral, rfl, hnone⟩
    · next hne =>
      obtain ⟨d, hd, hformed, hmem⟩ := SourceDecision.exists_asserted hne
      rw [ensures_ofExcept, hd]
      refine ⟨fun _ heq => ?_, fun _ heq => by cases heq⟩
      obtain rfl := Except.ok.inj heq
      exact ⟨hformed, rfl, hmem⟩
  · obtain rfl := Bool.eq_false_of_not_eq_true hmissing
    rw [baseDecision, ensures_bind, ensures_modify, ensures_bind, ensures_get, ensures_ite, ensures_ite]
    refine ⟨fun hne => ?_, fun _ => ⟨fun _ => ?_, fun _ => ?_⟩⟩
    · obtain ⟨d, hd, hformed, hmem⟩ := SourceDecision.exists_asserted hne
      rw [ensures_ofExcept, hd]
      refine ⟨fun _ heq => ?_, fun _ heq => by cases heq⟩
      obtain rfl := Except.ok.inj heq
      exact ⟨hformed, rfl, hmem⟩
    · exact ⟨SourceDecision.wellFormed_clear, rfl, hnone⟩
    · exact ⟨SourceDecision.wellFormed_neutral, rfl, hnone⟩

/-- A new observation is answered by its own decision. -/
theorem ensures_observeNew_answer {source : NormalizedSource} {policy : PriorityPolicy} {t : ℤ}
    {busy missing : Bool} (hnewer : e.Newer source) :
    Ensures (observeNew source policy t (ollamaReasons busy missing) missing) e
      (fun d e' => Answer e (.observe source policy t busy missing) (some d) e') (fun _ _ => False) := by
  rw [observeNew, ensures_bind, ensures_modify, ensures_bind]
  refine (ensures_decideNew_answer source policy missing).mono ?_ fun _ _ hfalse => hfalse
  rintro d e' ⟨hformed, hd⟩
  obtain ⟨d', hunion, -⟩ := SourceDecision.exists_union hformed (ollamaReasons busy missing)
  rw [ensures_bind, ensures_modify, ensures_ofExcept, hunion]
  refine ⟨fun _ heq => ?_, fun _ heq => by cases heq⟩
  obtain rfl := Except.ok.inj heq
  rcases missing with _ | _
  · obtain ⟨rfl, hmem⟩ := hd
    exact .counted hnewer hformed hmem hunion
  · obtain ⟨rfl, hmem⟩ := hd
    exact .unavailable hnewer hformed hmem hunion

/-- An observation is answered, be it new or not. -/
theorem ensures_observe_answer (h : e.Held) (source : NormalizedSource) (policy : PriorityPolicy) (t : ℤ)
    (busy missing : Bool) : Ensures (observe source policy t busy missing) e
      (fun d e' => Answer e (.observe source policy t busy missing) (some d) e') (fun _ _ => False) := by
  rw [observe, ensures_bind, ensures_get]
  split
  · next hnone => exact ensures_observeNew_answer fun last hlast => by simp [hnone] at hlast
  · next last hlast =>
    have hsome : e.source.isSome := by rw [hlast]; rfl
    have hreasons : ∀ r ∈ ollamaReasons busy missing ++ [higherPriorityUnavailable],
        r ∈ (EvaluatorCall.observe source policy t busy missing).reasons := fun _ hr => hr
    -- Only the same source, with the Ollama state known, is a repetition.
    have hfresh : source ≠ last ∨ missing = true →
        e.repeats (.observe source policy t busy missing) = false := by
      rintro (hne | rfl)
      · rcases missing with _ | _
        · have hne' : e.source ≠ some source := by
            rw [hlast]
            exact fun heq => hne (Option.some.inj heq).symm
          simp [repeats, hne']
        · rfl
      · rfl
    rw [ensures_ite, ensures_ite, ensures_ite]
    refine ⟨fun hlt => ?_, fun hge => ⟨fun hgeneration => ⟨fun hne => ?_, fun heq => ?_⟩, fun hne => ?_⟩⟩
    · exact ensures_refuse_answer h (hfresh (.inl fun heq => by rw [heq] at hlt; omega)) hreasons hsome
    · exact ensures_refuse_answer h (hfresh (.inl hne)) hreasons hsome
    · obtain rfl := not_not.1 heq
      rw [observeAgain, ensures_ite]
      refine ⟨fun hmissing => ?_, fun hmissing => ?_⟩
      · exact ensures_refuse_answer h (hfresh (.inr hmissing)) (fun _ hr => mem_ollamaReasons hr) hsome
      · obtain rfl := Bool.eq_false_of_not_eq_true hmissing
        -- The cached decision is given again, with the reasons that are new.
        obtain ⟨d, hcached, hd⟩ := h.exists_cached hlast
        obtain ⟨d', hunion, -⟩ := SourceDecision.exists_union hd (ollamaReasons busy false)
        rw [ensures_bind, ensures_get, hcached, ensures_ofExcept, hunion]
        refine ⟨fun _ heq => ?_, fun _ heq => by cases heq⟩
        obtain rfl := Except.ok.inj heq
        exact .again hlast hcached hunion
    · refine ensures_observeNew_answer fun last' hlast' => ?_
      obtain rfl := Option.some.inj (hlast.symm.trans hlast')
      omega

/-- A call never raises. -/
theorem ensures_perform (h : e.Held) (c : EvaluatorCall) :
    Ensures c.perform e (fun d e' => Answer e c d e') (fun _ _ => False) := by
  rcases c with ⟨source, policy, t, busy, missing⟩ | reasons | _
  · rw [EvaluatorCall.perform, ensures_map]
    exact ensures_observe_answer h source policy t busy missing
  · have hfresh : e.repeats (.failure reasons) = false := rfl
    have hreasons : ∀ r ∈ reasons, r ∈ (EvaluatorCall.failure reasons).reasons := fun _ hr => hr
    refine (ensures_failure_answer h hfresh hreasons).mono ?_ fun _ _ hfalse => hfalse
    exact fun _ _ hd => hd.1
  · have hidle : Answer e .resetStreaks none e.rested := .idle rfl
    rw [EvaluatorCall.perform, ensures_bind, resetStreaks, ensures_modify, ensures_pure]
    exact hidle

/-- Every call is answered. -/
theorem exists_answer (h : e.Held) (c : EvaluatorCall) :
    ∃ d, e.decision c = .ok d ∧ Answer e c d (e.after c) := by
  have hperform := ensures_perform h c
  rw [Ensures] at hperform
  rw [decision, after]
  rcases hc : c.perform e with ⟨d, e'⟩ | ⟨x, e'⟩
  · rw [hc] at hperform
    exact ⟨d, rfl, hperform⟩
  · rw [hc] at hperform
    exact hperform.elim

/-! ## Runs -/

/-- One more call. -/
theorem afterAll_concat (calls : List EvaluatorCall) (c : EvaluatorCall) :
    e.afterAll (calls ++ [c]) = (e.afterAll calls).after c := by
  rw [afterAll, List.foldl_append]
  rfl

/-- A new evaluator holds no source. -/
theorem held_new : new.Held := ⟨nofun, fun _ hd => by cases hd⟩

/-- An answer leaves an evaluator with a decision for its source. -/
theorem Answer.held {d : Option SourceDecision} (h : e.Held) (ha : Answer e c d e') : e'.Held := by
  rcases ha with _ | _ | _ | ⟨_, hformed, _, _⟩ | ⟨_, hformed, _, _⟩
  · exact h
  · exact ⟨h.cached, h.formed⟩
  · exact ⟨h.cached, h.formed⟩
  · refine ⟨fun _ => rfl, fun d hd => ?_⟩
    obtain rfl := Option.some.inj hd
    exact hformed
  · refine ⟨fun _ => rfl, fun d hd => ?_⟩
    obtain rfl := Option.some.inj hd
    exact hformed

/-- So does a call. -/
theorem held_after (h : e.Held) (c : EvaluatorCall) : (e.after c).Held := by
  obtain ⟨d, -, ha⟩ := exists_answer h c
  exact ha.held h

/-- So do some calls. -/
theorem held_afterAll (h : e.Held) (calls : List EvaluatorCall) : (e.afterAll calls).Held := by
  induction calls generalizing e with
  | nil => exact h
  | cons c calls ih => exact ih (held_after h c)

/-- A new generation is not the source that the evaluator has. -/
theorem Newer.fresh {source : NormalizedSource} (h : e.Newer source) {policy : PriorityPolicy} {t : ℤ}
    {busy missing : Bool} : e.repeats (.observe source policy t busy missing) = false := by
  rcases missing with _ | _
  · have hne : e.source ≠ some source := fun hsource => absurd (h source hsource) (lt_irrefl _)
    simp [repeats, hne]
  · rfl

/-- To observe the source once more changes nothing. -/
theorem after_of_repeats (h : e.Held) (hrepeats : e.repeats c = true) : e.after c = e := by
  obtain ⟨d, -, ha⟩ := exists_answer h c
  generalize e.after c = e' at ha
  rcases ha with _ | ⟨hfresh, _, _, _⟩ | hfresh | ⟨hnewer, _, _, _⟩ | ⟨hnewer, _, _, _⟩
  · rfl
  · rw [hfresh] at hrepeats
    cases hrepeats
  · rw [hfresh] at hrepeats
    cases hrepeats
  · cases hrepeats
  · rw [hnewer.fresh] at hrepeats
    cases hrepeats

/-- Observations that are repeated leave the evaluator as it is. -/
theorem afterAll_of_repeats (h : e.Held) {calls : List EvaluatorCall}
    (hrepeats : ∀ c ∈ calls, e.repeats c = true) : e.afterAll calls = e := by
  induction calls with
  | nil => rfl
  | cons c calls ih =>
    obtain ⟨hc, hcalls⟩ := List.forall_mem_cons.1 hrepeats
    rw [afterAll, List.foldl_cons, after_of_repeats h hc]
    exact ih hcalls

/-- The repetitions are taken out of two parts for themselves. -/
theorem strip_append (h : e.Held) (calls later : List EvaluatorCall) :
    e.strip (calls ++ later) = e.strip calls ++ (e.afterAll calls).strip later := by
  induction calls generalizing e with
  | nil => rfl
  | cons c calls ih =>
    have hafter : e.afterAll (c :: calls) = (e.after c).afterAll calls := rfl
    rw [List.cons_append, strip, strip, hafter]
    by_cases hc : e.repeats c = true
    · rw [if_pos hc, if_pos hc, after_of_repeats h hc, ih h]
    · rw [if_neg hc, if_neg hc, ih (held_after h c), List.cons_append]

/-- Without the repetitions the evaluator comes to the same state. -/
theorem afterAll_strip (h : e.Held) (calls : List EvaluatorCall) :
    e.afterAll (e.strip calls) = e.afterAll calls := by
  induction calls generalizing e with
  | nil => rfl
  | cons c calls ih =>
    have hafter : e.afterAll (c :: calls) = (e.after c).afterAll calls := rfl
    rw [strip, hafter]
    by_cases hc : e.repeats c = true
    · rw [if_pos hc, ih h, after_of_repeats h hc]
    · rw [if_neg hc]
      exact ih (held_after h c)

/-- The other calls of a run decide what they decide without the repetitions. -/
theorem freshDecisions_eq (h : e.Held) (calls : List EvaluatorCall) :
    e.freshDecisions calls = e.decisions (e.strip calls) := by
  induction calls generalizing e with
  | nil => rfl
  | cons c calls ih =>
    rw [freshDecisions, strip]
    by_cases hc : e.repeats c = true
    · rw [if_pos hc, if_pos hc, after_of_repeats h hc, ih h]
    · rw [if_neg hc, if_neg hc, decisions, ih (held_after h c)]

/-! ## Evidence -/

/-- A new generation that counts: it is observed while the other workload can be asked. -/
structure CountedObservation where
  source : NormalizedSource
  policy : PriorityPolicy
  observedNs : ℤ
  ollamaBusy : Bool

/-- The call that made the observation. -/
def CountedObservation.call (o : CountedObservation) : EvaluatorCall :=
  .observe o.source o.policy o.observedNs o.ollamaBusy false

/-- Apart from repetitions, a run ends with `n` generations that count, each newer than the one before
    it, of which `p` is true. The evaluator has the last one. -/
def Evidence (p : NormalizedSource → PriorityPolicy → Prop) (n : ℕ) (calls : List EvaluatorCall) : Prop :=
  ∃ before since, calls = before ++ since ∧ ∃ l : List CountedObservation,
    (new.afterAll before).strip since = l.map CountedObservation.call ∧ l.length = n ∧
    (∀ o ∈ l, p o.source o.policy) ∧
    l.Pairwise (fun o o' => o.source.generation < o'.source.generation) ∧
    ∀ o ∈ l, ∃ last, (new.afterAll calls).source = some last ∧ o.source.generation ≤ last.generation

variable {p : NormalizedSource → PriorityPolicy → Prop} {n : ℕ} {calls : List EvaluatorCall}

/-- No observations are found everywhere. -/
theorem evidence_zero (p : NormalizedSource → PriorityPolicy → Prop) (calls : List EvaluatorCall) :
    Evidence p 0 calls :=
  ⟨calls, [], (List.append_nil _).symm, [], rfl, rfl, fun _ ho => absurd ho List.not_mem_nil, .nil,
    fun _ ho => absurd ho List.not_mem_nil⟩

/-- A repetition leaves the evidence. -/
theorem Evidence.again (h : Evidence p n calls) (hc : (new.afterAll calls).repeats c = true) :
    Evidence p n (calls ++ [c]) := by
  obtain ⟨before, since, rfl, l, hl, hlength, hp, hnewer, hlast⟩ := h
  have hafter := after_of_repeats (held_afterAll held_new (before ++ since)) hc
  refine ⟨before, since ++ [c], List.append_assoc _ _ _, l, ?_, hlength, hp, hnewer, ?_⟩
  · have hstate : (new.afterAll before).afterAll since = new.afterAll (before ++ since) :=
      (List.foldl_append ..).symm
    rw [strip_append (held_afterAll held_new before), hl, hstate, strip, if_pos hc, strip,
      List.append_nil]
  · rw [afterAll_concat, hafter]
    exact hlast

/-- A new observation of the kind is one more. -/
theorem Evidence.succ (h : Evidence p n calls) {o : CountedObservation} (ho : p o.source o.policy)
    (hnewer : (new.afterAll calls).Newer o.source)
    (hsource : ((new.afterAll calls).after o.call).source = some o.source) :
    Evidence p (n + 1) (calls ++ [o.call]) := by
  obtain ⟨before, since, rfl, l, hl, hlength, hp, hincreasing, hlast⟩ := h
  have hlater : ∀ o' ∈ l, o'.source.generation < o.source.generation := fun o' ho' => by
    obtain ⟨last, hlast', hle⟩ := hlast o' ho'
    exact hle.trans_lt (hnewer last hlast')
  refine ⟨before, since ++ [o.call], List.append_assoc _ _ _, l ++ [o], ?_, ?_, ?_, ?_, fun o' ho' => ?_⟩
  · have hstate : (new.afterAll before).afterAll since = new.afterAll (before ++ since) :=
      (List.foldl_append ..).symm
    have hfresh : (new.afterAll (before ++ since)).repeats o.call = false := hnewer.fresh
    rw [strip_append (held_afterAll held_new before), hl, hstate, strip, hfresh, List.map_append]
    rfl
  · rw [List.length_append, hlength, List.length_singleton]
  · exact fun o' ho' => (List.mem_append.1 ho').elim (hp o') fun ho' => List.mem_singleton.1 ho' ▸ ho
  · refine List.pairwise_append.2 ⟨hincreasing, List.pairwise_singleton _ _, fun o' ho' o'' ho'' => ?_⟩
    rw [List.mem_singleton.1 ho'']
    exact hlater o' ho'
  · rw [afterAll_concat]
    refine ⟨o.source, hsource, ?_⟩
    rcases List.mem_append.1 ho' with ho' | ho'
    · exact (hlater o' ho').le
    · exact (congrArg (·.source.generation) (List.mem_singleton.1 ho')).le

/-- The frames per second reach the limit. -/
def HighFps (source : NormalizedSource) (policy : PriorityPolicy) : Prop :=
  policy.detectionFpsLimit ≤ source.detectionFps

/-- A camera has too few frames. -/
def LowRatio (source : NormalizedSource) (policy : PriorityPolicy) : Prop :=
  (source.ratios policy).any (· < degradedRatio) = true

/-- A camera skips frames. -/
def Skipping (source : NormalizedSource) (_ : PriorityPolicy) : Prop := source.hasSkips = true

/-- When the evaluator saw its source, the run ended with so many generations that count. -/
def Streak (p : NormalizedSource → PriorityPolicy → Prop) (n : ℕ) (calls : List EvaluatorCall) : Prop :=
  ∃ m, n ≤ m ∧ ∃ before, before <+: calls ∧ Evidence p m before ∧
    (new.afterAll before).source = (new.afterAll calls).source

/-- Where a reason of the cached decision comes from: from the source itself, or from a streak. -/
inductive Grounded (calls : List EvaluatorCall) : Text → Prop
  | immediate {source r} (hsource : (new.afterAll calls).source = some source)
      (hr : r ∈ immediateReasons source) : Grounded calls r
  | high (h : Streak HighFps 2 calls) : Grounded calls higherPriorityBusy
  | low (h : Streak LowRatio 2 calls) : Grounded calls higherPriorityDegraded
  | skip (h : Streak Skipping 3 calls) : Grounded calls higherPriorityDegraded

/-- The streaks and the cached decision of a run have their evidence. -/
structure Inv (calls : List EvaluatorCall) : Prop where
  high : Evidence HighFps (new.afterAll calls).highStreak calls
  low : Evidence LowRatio (new.afterAll calls).lowStreak calls
  skip : Evidence Skipping (new.afterAll calls).skipStreak calls
  cached : ∀ d ∈ (new.afterAll calls).cachedBaseDecision, ∀ r ∈ d.reasonCodes, Grounded calls r

/-- At first nothing was counted. -/
theorem inv_nil : Inv [] :=
  ⟨evidence_zero _ _, evidence_zero _ _, evidence_zero _ _, fun _ hd => by cases hd⟩

/-- A call that leaves the source leaves the streak. -/
theorem Streak.keep (h : Streak p n calls)
    (hsource : (new.afterAll (calls ++ [c])).source = (new.afterAll calls).source) :
    Streak p n (calls ++ [c]) := by
  obtain ⟨m, hm, before, hbefore, hevidence, hsame⟩ := h
  exact ⟨m, hm, before, hbefore.trans (List.prefix_append _ _), hevidence, hsame.trans hsource.symm⟩

/-- It leaves the grounds of a reason. -/
theorem Grounded.keep {r : Text} (h : Grounded calls r)
    (hsource : (new.afterAll (calls ++ [c])).source = (new.afterAll calls).source) :
    Grounded (calls ++ [c]) r := by
  rcases h with ⟨hcurrent, hr⟩ | h | h | h
  · exact .immediate (hsource.trans hcurrent) hr
  · exact .high (h.keep hsource)
  · exact .low (h.keep hsource)
  · exact .skip (h.keep hsource)

/-- A streak goes on with a generation that counts for it, and begins anew otherwise. -/
theorem Evidence.count (h : Evidence p n calls) {o : CountedObservation} {m : ℕ}
    (hnewer : (new.afterAll calls).Newer o.source)
    (hsource : ((new.afterAll calls).after o.call).source = some o.source)
    (hm : p o.source o.policy ∧ m = n + 1 ∨ m = 0) : Evidence p m (calls ++ [o.call]) := by
  rcases hm with ⟨hp, rfl⟩ | rfl
  · exact h.succ hp hnewer hsource
  · exact evidence_zero _ _

/-- The streak of high rates goes on or is broken. -/
theorem counted_highStreak (source : NormalizedSource) (policy : PriorityPolicy) :
    HighFps source policy ∧ (e.counted source policy).highStreak = e.highStreak + 1 ∨
      (e.counted source policy).highStreak = 0 := by
  by_cases h : policy.detectionFpsLimit ≤ source.detectionFps
  · exact .inl ⟨h, if_pos h⟩
  · exact .inr (if_neg h)

/-- So does the streak of low ratios. -/
theorem counted_lowStreak (source : NormalizedSource) (policy : PriorityPolicy) :
    LowRatio source policy ∧ (e.counted source policy).lowStreak = e.lowStreak + 1 ∨
      (e.counted source policy).lowStreak = 0 := by
  by_cases h : (source.ratios policy).any (· < degradedRatio) = true
  · exact .inl ⟨h, if_pos h⟩
  · have hall : (source.ratios policy).all (degradedRatio ≤ ·) = true := by
      simp only [List.any_eq_true, not_exists, not_and, decide_eq_true_eq] at h
      exact List.all_eq_true.2 fun q hq => decide_eq_true (not_lt.1 (h q hq))
    exact .inr ((if_neg h).trans (if_pos hall))

/-- So does the streak of skipped frames. -/
theorem counted_skipStreak (source : NormalizedSource) (policy : PriorityPolicy) :
    Skipping source policy ∧ (e.counted source policy).skipStreak = e.skipStreak + 1 ∨
      (e.counted source policy).skipStreak = 0 := by
  by_cases h : source.hasSkips = true
  · exact .inl ⟨h, if_pos h⟩
  · exact .inr (if_neg h)

/-- One more call keeps the invariant. -/
theorem Inv.concat (h : Inv calls) (c : EvaluatorCall) : Inv (calls ++ [c]) := by
  have hheld : (new.afterAll calls).Held := held_afterAll held_new calls
  obtain ⟨d, -, ha⟩ := exists_answer hheld c
  have hafter := afterAll_concat (e := new) calls c
  -- Without streaks, and with the decision there was.
  have hrested : (new.afterAll calls).after c = (new.afterAll calls).rested → Inv (calls ++ [c]) := by
    intro heq
    have hstate : new.afterAll (calls ++ [c]) = (new.afterAll calls).rested := hafter.trans heq
    have hsame : (new.afterAll (calls ++ [c])).source = (new.afterAll calls).source := by
      rw [hstate]
      rfl
    refine ⟨?_, ?_, ?_, fun d hd r hr => ?_⟩
    · rw [hstate]
      exact evidence_zero _ _
    · rw [hstate]
      exact evidence_zero _ _
    · rw [hstate]
      exact evidence_zero _ _
    · rw [hstate] at hd
      exact (h.cached d hd r hr).keep hsame
  generalize hlater : (new.afterAll calls).after c = e' at ha hrested
  rw [hlater] at hafter
  rcases ha with ⟨hsource, hcached, hd⟩ | _ | _ | ⟨hnewer, hformed, hd, _⟩ | ⟨hnewer, hformed, hd, _⟩
  · next source policy t busy _ _ =>
    have hrepeats : (new.afterAll calls).repeats (.observe source policy t busy false) = true :=
      decide_eq_true hsource
    refine ⟨?_, ?_, ?_, fun d hd r hr => ?_⟩
    · rw [hafter]
      exact h.high.again hrepeats
    · rw [hafter]
      exact h.low.again hrepeats
    · rw [hafter]
      exact h.skip.again hrepeats
    · rw [hafter] at hd
      exact (h.cached d hd r hr).keep (congrArg FrigatePriorityEvaluator.source hafter)
  · exact hrested rfl
  · exact hrested rfl
  · refine ⟨?_, ?_, ?_, fun d' hd' r hr => ?_⟩
    · rw [hafter]
      exact evidence_zero _ _
    · rw [hafter]
      exact evidence_zero _ _
    · rw [hafter]
      exact evidence_zero _ _
    · rw [hafter] at hd'
      obtain rfl := Option.some.inj hd'
      exact .immediate (congrArg source hafter) (hd r hr)
  · next s policy t busy _ _ _ =>
    have hsource : ((new.afterAll calls).after (CountedObservation.call ⟨s, policy, t, busy⟩)).source =
        some s := congrArg source hlater
    have hhigh := h.high.count hnewer hsource (counted_highStreak s policy)
    have hlow := h.low.count hnewer hsource (counted_lowStreak s policy)
    have hskip := h.skip.count hnewer hsource (counted_skipStreak s policy)
    refine ⟨?_, ?_, ?_, fun d' hd' r hr => ?_⟩
    · rw [hafter]
      exact hhigh
    · rw [hafter]
      exact hlow
    · rw [hafter]
      exact hskip
    · rw [hafter] at hd'
      obtain rfl := Option.some.inj hd'
      have hr' := hd r hr
      rw [baseReasons, List.mem_append, List.mem_append, List.mem_ite_nil_right, List.mem_ite_nil_right,
        List.mem_singleton, List.mem_singleton] at hr'
      rcases hr' with (hr' | ⟨hstreak, rfl⟩) | ⟨hstreak | hstreak, rfl⟩
      · exact .immediate (congrArg source hafter) hr'
      · exact .high ⟨_, hstreak, _, List.prefix_rfl, hhigh, rfl⟩
      · exact .low ⟨_, hstreak, _, List.prefix_rfl, hlow, rfl⟩
      · exact .skip ⟨_, hstreak, _, List.prefix_rfl, hskip, rfl⟩

/-- It holds behind all calls. -/
theorem inv_run (calls : List EvaluatorCall) : Inv calls := by
  induction calls using List.reverseRecOn with
  | nil => exact inv_nil
  | append_singleton calls c ih => exact ih.concat c

/-- What a call of a run decides: it is well formed, and a reason that the call does not bring itself
    comes from the source or from a streak. -/
theorem exists_decision (calls : List EvaluatorCall) (c : EvaluatorCall) :
    ∃ d, (new.afterAll calls).decision c = .ok d ∧ ∀ d' ∈ d, d'.WellFormed ∧
      ∀ r ∈ d'.reasonCodes, r ∈ c.reasons ∨ Grounded (calls ++ [c]) r := by
  have hheld : (new.afterAll calls).Held := held_afterAll held_new calls
  obtain ⟨d, hdecision, ha⟩ := exists_answer hheld c
  refine ⟨d, hdecision, fun d' hd' => ?_⟩
  have hcached := (inv_run (calls ++ [c])).cached
  rw [afterAll_concat] at hcached
  -- The decision is the cached one behind the call, with reasons that the call brings.
  have hunion : ∃ d₀ ∈ ((new.afterAll calls).after c).cachedBaseDecision, ∃ reasons,
      (∀ r ∈ reasons, r ∈ c.reasons) ∧ d₀.union reasons = .ok d' := by
    generalize (new.afterAll calls).after c = e' at ha
    rcases ha with ⟨_, hd₀, hd⟩ | ⟨_, hreasons, hd₀, hd⟩ | _ | ⟨_, _, _, hd⟩ | ⟨_, _, _, hd⟩
    · exact ⟨_, hd₀, _, fun _ hr => mem_ollamaReasons hr, Option.some.inj hd' ▸ hd⟩
    · exact ⟨_, hd₀, _, hreasons, Option.some.inj hd' ▸ hd⟩
    · cases hd'
    · exact ⟨_, rfl, _, fun _ hr => mem_ollamaReasons hr, Option.some.inj hd' ▸ hd⟩
    · exact ⟨_, rfl, _, fun _ hr => mem_ollamaReasons hr, Option.some.inj hd' ▸ hd⟩
  obtain ⟨d₀, hd₀, reasons, hreasons, hd⟩ := hunion
  obtain ⟨d'', hd'', hformed, hmem⟩ :=
    SourceDecision.exists_union ((held_after hheld c).formed d₀ hd₀) reasons
  obtain rfl := Except.ok.inj (hd.symm.trans hd'')
  refine ⟨hformed, fun r hr => ?_⟩
  rcases hmem r hr with hr | hr
  · exact .inr (hcached d₀ hd₀ r hr)
  · exact .inl (hreasons r hr)

/-- Observing the source once more, any number of times and anywhere in a run, leaves what comes later as
    it is; so the decisions are those of the run without these calls. What a call decides is well
    formed, and a streak has so many generations in a row. -/
theorem repeats_carry_no_evidence :
    (∀ before repeated later, (∀ c ∈ repeated, (new.afterAll before).repeats c = true) →
      (new.afterAll (before ++ repeated)).decisions later = (new.afterAll before).decisions later) ∧
    (∀ calls, new.freshDecisions calls = new.decisions (new.strip calls)) ∧
    (∀ calls c, (new.afterAll calls).decision c = (new.afterAll (new.strip calls)).decision c) ∧
    ∀ calls c d, (new.afterAll calls).decision c = .ok (some d) → d.WellFormed ∧
      ∀ r ∈ d.reasonCodes, r ∈ c.reasons ∨ Grounded (calls ++ [c]) r := by
  refine ⟨fun before repeated later hrepeats => ?_, freshDecisions_eq held_new, fun calls c => ?_,
    fun calls c d hd => ?_⟩
  · have hstate : new.afterAll (before ++ repeated) = (new.afterAll before).afterAll repeated :=
      List.foldl_append ..
    rw [hstate, afterAll_of_repeats (held_afterAll held_new before) hrepeats]
  · rw [afterAll_strip held_new]
  · obtain ⟨d', hd', hformed⟩ := exists_decision calls c
    obtain rfl := Except.ok.inj (hd'.symm.trans hd)
    exact hformed d rfl

end FrigatePriorityEvaluator

end Subgen

import Subgen.Segmentation.Adaptive
import Mathlib.Analysis.SpecialFunctions.Log.Base

/-!
# The budget of a file

What the adaptive duration does over any history of calls.

A call is one of those that the driver and the recovery make (`AdaptiveCall`): an allocation failed, with the
seconds that were attempted if they are known, a chunk succeeded, the driver gave way to the pressure, or an
external pressure was over. Seconds that are none are refused (`Rejected`), and then nothing changes.

How often a failure can come before it is reported is bounded by a number that each of them lowers
(`failuresLeft`): it counts the halvings from the duration down to the minimum, which are a logarithm
(`halvings`), and what is left of the two failures at the minimum.

* `inRange_after`: it stays between the minimum and the baseline;
* `reports_iff`: an allocation failure reports that the file is exhausted iff it and the recorded failure
  before it were both at the minimum, and nothing came between them;
* `exists_reports`: failures without anything between them report it after as many as it takes to halve
  the baseline down to the minimum, and two.
-/

namespace Subgen

/-- The calls of the adaptive policy. -/
inductive AdaptiveCall
  | pressureYield
  | allocationFailure (attemptedSeconds : Option ℚ)
  | externalPressureRecovery
  | success (healthy : Bool)

namespace AdaptiveChunkState

/-- A size that is no size: the call raises. -/
def Rejected (attemptedSeconds : Option ℚ) : Prop := ∃ x, attemptedSeconds = some x ∧ x ≤ 0

instance (q : Option ℚ) : Decidable (Rejected q) :=
  match q with
  | none => isFalse fun ⟨_, h, _⟩ => nomatch h
  | some x => decidable_of_iff (x ≤ 0) ⟨fun h => ⟨x, rfl, h⟩, fun ⟨_, h, hle⟩ => Option.some.inj h ▸ hle⟩

/-- The state behind a call. -/
def record (a : AdaptiveChunkState) : AdaptiveCall → AdaptiveChunkState
  | .pressureYield => a.recordPressureYield
  | .allocationFailure q =>
    match a.recordAllocationFailure q with
    | .ok a' => a'
    | .error _ => a
  | .externalPressureRecovery => a.recordExternalPressureRecovery
  | .success healthy => a.recordSuccess healthy

/-- Whether `record_allocation_failure` returns `True`. -/
def reports (a : AdaptiveChunkState) (q : Option ℚ) : Bool :=
  match a.recordAllocationFailure q with
  | .ok a' => a'.exhausted
  | .error _ => false

/-- The state behind some calls. -/
def after (a : AdaptiveChunkState) (calls : List AdaptiveCall) : AdaptiveChunkState := calls.foldl record a

/-- The size that counts as failed. -/
def limited (a : AdaptiveChunkState) : Option ℚ → AdaptiveChunkState
  | none => a
  | some q => a.limitToAttempt q

/-- A failure is recorded with the size at the minimum. -/
def FailsAtMinimum (a : AdaptiveChunkState) (q : Option ℚ) : Prop :=
  ¬ Rejected q ∧ (a.limited q).currentSeconds = (a.limited q).minimumSeconds

variable {a : AdaptiveChunkState} {q : Option ℚ} {calls : List AdaptiveCall}

theorem after_append (calls calls' : List AdaptiveCall) : a.after (calls ++ calls') = (a.after calls).after calls' :=
  List.foldl_append

theorem after_concat (c : AdaptiveCall) : a.after (calls ++ [c]) = (a.after calls).record c := after_append calls [c]

theorem recordAllocationFailure_of_not_rejected (h : ¬ Rejected q) :
    a.recordAllocationFailure q = .ok (recordAllocationFailure.failed (a.limited q)) := by
  rcases q with _ | x
  · rfl
  · rw [recordAllocationFailure, if_neg fun hle => h ⟨x, rfl, hle⟩]
    rfl

theorem recordAllocationFailure_of_rejected (h : Rejected q) : ∃ e, a.recordAllocationFailure q = .error e := by
  obtain ⟨x, rfl, hle⟩ := h
  exact ⟨_, by rw [recordAllocationFailure, if_pos hle]⟩

theorem record_of_rejected (h : Rejected q) : a.record (.allocationFailure q) = a := by
  obtain ⟨e, he⟩ := recordAllocationFailure_of_rejected (a := a) h
  rw [record, he]

theorem record_of_not_rejected (h : ¬ Rejected q) :
    a.record (.allocationFailure q) = recordAllocationFailure.failed (a.limited q) := by
  rw [record, recordAllocationFailure_of_not_rejected h]

/-! ## The range -/

/-- The bounds are those of the start, and the duration is not above the baseline. -/
structure InRange (m b : ℕ) (a : AdaptiveChunkState) : Prop where
  minimum : a.minimumSeconds = m
  baseline : a.baselineSeconds = b
  le : a.currentSeconds ≤ b

variable {m b : ℕ}

theorem InRange.shrink (h : InRange m b a) : InRange m b a.shrink where
  minimum := h.minimum
  baseline := h.baseline
  le := max_le (h.baseline ▸ a.baseline_le) ((Nat.div_le_self _ _).trans h.le)

theorem InRange.limited (h : InRange m b a) (q : Option ℚ) : InRange m b (a.limited q) := by
  rcases q with _ | x
  · exact h
  · exact ⟨h.minimum, h.baseline, (min_le_left _ _).trans h.le⟩

theorem InRange.failed (h : InRange m b a) : InRange m b (recordAllocationFailure.failed a) :=
  ⟨h.shrink.minimum, h.shrink.baseline, h.shrink.le⟩

theorem InRange.recordSuccess (h : InRange m b a) (healthy : Bool) : InRange m b (a.recordSuccess healthy) := by
  rw [AdaptiveChunkState.recordSuccess]
  split
  · exact ⟨h.minimum, h.baseline, h.le⟩
  · split
    · exact ⟨h.minimum, h.baseline, h.baseline ▸ min_le_left _ _⟩
    · exact ⟨h.minimum, h.baseline, h.le⟩

theorem InRange.record (h : InRange m b a) (c : AdaptiveCall) : InRange m b (a.record c) := by
  cases c with
  | pressureYield => exact InRange.shrink ⟨h.minimum, h.baseline, h.le⟩
  | allocationFailure q =>
    by_cases hq : Rejected q
    · rw [record_of_rejected hq]
      exact h
    · rw [record_of_not_rejected hq]
      exact (h.limited q).failed
  | externalPressureRecovery => exact ⟨h.minimum, h.baseline, h.le⟩
  | success healthy => exact h.recordSuccess healthy

theorem inRange_after (h : InRange m b a) (calls : List AdaptiveCall) : InRange m b (a.after calls) := by
  induction calls using List.reverseRecOn with
  | nil => exact h
  | append_singleton calls c ih =>
    rw [after_concat]
    exact ih.record c

/-! ## Failures at the minimum -/

/-- The failures that count are those at the end of the history, but for calls that have raised. -/
def LastFailure (a : AdaptiveChunkState) (calls : List AdaptiveCall) : Prop :=
  ∃ before q between, calls = before ++ .allocationFailure q :: between ∧ (a.after before).FailsAtMinimum q ∧
    ∀ c ∈ between, ∃ x, c = .allocationFailure x ∧ Rejected x

theorem lastFailure_concat_rejected (hq : Rejected q) :
    LastFailure a (calls ++ [.allocationFailure q]) ↔ LastFailure a calls := by
  constructor
  · rintro ⟨before, q', between, heq, hfails, hbetween⟩
    rcases List.eq_nil_or_concat between with rfl | ⟨between, c, rfl⟩
    · obtain ⟨-, hlast⟩ := List.append_inj' heq rfl
      cases hlast
      exact absurd hq hfails.1
    · rw [List.concat_eq_append, ← List.cons_append, ← List.append_assoc] at heq
      obtain ⟨hcalls, -⟩ := List.append_inj' heq rfl
      refine ⟨before, q', between, hcalls, hfails, fun c' hc' => hbetween c' ?_⟩
      rw [List.concat_eq_append]
      exact List.mem_append_left _ hc'
  · rintro ⟨before, q', between, rfl, hfails, hbetween⟩
    refine ⟨before, q', between ++ [.allocationFailure q], by simp, hfails, ?_⟩
    exact List.forall_mem_append.2 ⟨hbetween, List.forall_mem_singleton.2 ⟨q, rfl, hq⟩⟩

/-- A call that does not raise is the last failure only if it is one. -/
theorem lastFailure_concat {c : AdaptiveCall} (hc : ∀ x, c = .allocationFailure x → ¬ Rejected x) :
    LastFailure a (calls ++ [c]) ↔ ∃ q, c = .allocationFailure q ∧ (a.after calls).FailsAtMinimum q := by
  constructor
  · rintro ⟨before, q', between, heq, hfails, hbetween⟩
    rcases List.eq_nil_or_concat between with rfl | ⟨between, c', rfl⟩
    · obtain ⟨hcalls, hlast⟩ := List.append_inj' heq rfl
      exact ⟨q', List.singleton_inj.1 hlast, hcalls ▸ hfails⟩
    · rw [List.concat_eq_append, ← List.cons_append, ← List.append_assoc] at heq
      obtain ⟨-, hlast⟩ := List.append_inj' heq rfl
      obtain ⟨x, hx, hrejected⟩ := hbetween c' (by simp)
      exact absurd hrejected (hc x ((List.singleton_inj.1 hlast).trans hx))
  · rintro ⟨q, rfl, hfails⟩
    exact ⟨calls, q, [], rfl, hfails, fun _ h => absurd h List.not_mem_nil⟩

/-- What a failure leaves of the count. -/
theorem failures_failed :
    (recordAllocationFailure.failed a).minimumAllocationFailures =
      if a.currentSeconds = a.minimumSeconds then a.minimumAllocationFailures + 1 else 0 := rfl

theorem failures_limited (q : Option ℚ) :
    (a.limited q).minimumAllocationFailures = a.minimumAllocationFailures := by
  rcases q with _ | x <;> rfl

/-- A failure is counted iff the last call that did not raise is one at the minimum. -/
theorem failures_pos_iff (h : a.minimumAllocationFailures = 0) (calls : List AdaptiveCall) :
    0 < (a.after calls).minimumAllocationFailures ↔ LastFailure a calls := by
  induction calls using List.reverseRecOn with
  | nil =>
    rw [after, List.foldl_nil, h]
    refine ⟨fun hpos => absurd hpos (lt_irrefl 0), fun ⟨before, q, between, heq, _⟩ => ?_⟩
    exact absurd heq.symm (List.append_ne_nil_of_right_ne_nil _ (List.cons_ne_nil _ _))
  | append_singleton calls c ih =>
    rw [after_concat]
    -- Only a failure at the minimum leaves something of the count.
    have hreset : ∀ c', (∀ x, c' ≠ AdaptiveCall.allocationFailure x) →
        ((a.after calls).record c').minimumAllocationFailures = 0 →
        (0 < ((a.after calls).record c').minimumAllocationFailures ↔ LastFailure a (calls ++ [c'])) := by
      intro c' hc' hzero
      rw [hzero, lastFailure_concat fun x hx => absurd hx (hc' x)]
      exact ⟨fun hpos => absurd hpos (lt_irrefl 0), fun ⟨q, hq, _⟩ => absurd hq (hc' q)⟩
    cases c with
    | pressureYield => exact hreset _ nofun rfl
    | allocationFailure q =>
      by_cases hq : Rejected q
      · rw [record_of_rejected hq, ih, lastFailure_concat_rejected hq]
      · rw [record_of_not_rejected hq, lastFailure_concat (fun x hx => by cases hx; exact hq), failures_failed]
        constructor
        · intro hpos
          refine ⟨q, rfl, hq, ?_⟩
          by_contra hnot
          rw [if_neg hnot] at hpos
          exact absurd hpos (lt_irrefl 0)
        · rintro ⟨x, hx, hfails⟩
          cases hx
          rw [if_pos hfails.2]
          exact Nat.succ_pos _
    | externalPressureRecovery => exact hreset _ nofun rfl
    | success healthy =>
      refine hreset _ nofun ?_
      change ((a.after calls).recordSuccess healthy).minimumAllocationFailures = 0
      rw [recordSuccess]
      split
      · rfl
      · split
        · rfl
        · rfl

theorem reports_of_not_rejected (h : ¬ Rejected q) :
    a.reports q = decide (2 ≤ (recordAllocationFailure.failed (a.limited q)).minimumAllocationFailures) := by
  rw [reports, recordAllocationFailure_of_not_rejected h]
  rfl

/-- A failure reports that the file is exhausted iff it is the second one at the minimum. -/
theorem reports_iff (h : a.minimumAllocationFailures = 0) (calls : List AdaptiveCall) (q : Option ℚ) :
    (a.after calls).reports q = true ↔ (a.after calls).FailsAtMinimum q ∧ LastFailure a calls := by
  by_cases hq : Rejected q
  · obtain ⟨e, he⟩ := recordAllocationFailure_of_rejected (a := a.after calls) hq
    rw [reports, he]
    exact ⟨nofun, fun hfails => absurd hq hfails.1.1⟩
  · rw [reports_of_not_rejected hq, decide_eq_true_iff, failures_failed, failures_limited,
      ← failures_pos_iff h]
    constructor
    · intro htwo
      by_cases hat : ((a.after calls).limited q).currentSeconds = ((a.after calls).limited q).minimumSeconds
      · rw [if_pos hat] at htwo
        exact ⟨⟨hq, hat⟩, by omega⟩
      · rw [if_neg hat] at htwo
        omega
    · rintro ⟨⟨-, hat⟩, hpos⟩
      rw [if_pos hat]
      omega

/-! ## Failures in a row -/

theorem currentSeconds_limited_le (a : AdaptiveChunkState) (q : Option ℚ) :
    (a.limited q).currentSeconds ≤ a.currentSeconds := by
  rcases q with _ | x
  · exact le_refl _
  · exact min_le_left _ _

theorem InRange.currentSeconds_record_le (h : InRange m b a) (hq : ¬ Rejected q) :
    (a.record (.allocationFailure q)).currentSeconds ≤ max m (a.currentSeconds / 2) := by
  rw [record_of_not_rejected hq]
  refine max_le_max ((h.limited q).minimum).le ?_
  exact Nat.div_le_div_right (currentSeconds_limited_le a q)

/-- Each failure halves what is above the minimum. -/
theorem InRange.currentSeconds_after_le (h : InRange m b a) {qs : List (Option ℚ)}
    (hqs : ∀ q ∈ qs, ¬ Rejected q) :
    (a.after (qs.map .allocationFailure)).currentSeconds ≤ max m (a.currentSeconds / 2 ^ qs.length) := by
  induction qs using List.reverseRecOn with
  | nil =>
    rw [List.length_nil, pow_zero, Nat.div_one]
    exact le_max_right _ _
  | append_singleton qs q ih =>
    obtain ⟨hqs, hq⟩ := List.forall_mem_append.1 hqs
    have hrange := inRange_after h (qs.map AdaptiveCall.allocationFailure)
    have hstep := hrange.currentSeconds_record_le (hq q (List.mem_singleton_self q))
    rw [List.map_append, List.map_singleton, after_concat, List.length_append, List.length_singleton, pow_succ,
      ← Nat.div_div_eq_div_mul]
    refine hstep.trans (max_le (le_max_left _ _) ?_)
    rcases le_max_iff.1 (ih hqs) with hle | hle
    · exact le_max_of_le_left ((Nat.div_le_self _ _).trans hle)
    · exact le_max_of_le_right (Nat.div_le_div_right hle)

/-- At the minimum, a failure is counted and leaves the size there. -/
theorem InRange.record_at_minimum (h : InRange m b a) (hat : a.currentSeconds = m) (hq : ¬ Rejected q) :
    (a.record (.allocationFailure q)).currentSeconds = m ∧
      (a.record (.allocationFailure q)).minimumAllocationFailures = a.minimumAllocationFailures + 1 := by
  have hlimited : (a.limited q).currentSeconds = m :=
    le_antisymm ((currentSeconds_limited_le a q).trans hat.le) ((h.limited q).minimum ▸ (a.limited q).minimum_le)
  rw [record_of_not_rejected hq, failures_failed, failures_limited, if_pos (hlimited.trans (h.limited q).minimum.symm)]
  refine ⟨?_, rfl⟩
  change max (a.limited q).minimumSeconds ((a.limited q).currentSeconds / 2) = m
  rw [hlimited, (h.limited q).minimum]
  exact max_eq_left (Nat.div_le_self _ _)

-- The base of the logarithms here and in the bounds of the rounds.
instance : Nat.AtLeastTwo 2 := ⟨le_rfl⟩

/-- So many halvings lead from the baseline to the minimum. -/
noncomputable def halvings (b m : ℕ) : ℕ := ⌈Real.logb 2 ((b : ℝ) / m)⌉₊

theorem le_halvings (hm : 0 < m) (b : ℕ) : b ≤ m * 2 ^ halvings b m := by
  rcases Nat.eq_zero_or_pos b with rfl | hb
  · exact Nat.zero_le _
  · have hm' : (0 : ℝ) < m := Nat.cast_pos.2 hm
    have hquotient : (0 : ℝ) < (b : ℝ) / m := div_pos (Nat.cast_pos.2 hb) hm'
    have hlog : Real.logb 2 ((b : ℝ) / m) ≤ (halvings b m : ℝ) := Nat.le_ceil _
    have hpow := (Real.logb_le_iff_le_rpow one_lt_two hquotient).1 hlog
    rw [Real.rpow_natCast, div_le_iff₀ hm'] at hpow
    rw [mul_comm]
    exact_mod_cast hpow

theorem halvings_le_iff {b m k : ℕ} (hm : 0 < m) (hb : 0 < b) : halvings b m ≤ k ↔ b ≤ m * 2 ^ k := by
  have hm' : (0 : ℝ) < m := Nat.cast_pos.2 hm
  have hquotient : (0 : ℝ) < (b : ℝ) / m := div_pos (Nat.cast_pos.2 hb) hm'
  rw [halvings, Nat.ceil_le, Real.logb_le_iff_le_rpow one_lt_two hquotient, Real.rpow_natCast, div_le_iff₀ hm',
    mul_comm]
  exact_mod_cast Iff.rfl

theorem halvings_mono {b b' m : ℕ} (hm : 0 < m) (hb : 0 < b) (h : b ≤ b') : halvings b m ≤ halvings b' m :=
  (halvings_le_iff hm hb).2 (h.trans (le_halvings hm b'))

/-- Above the minimum, a halving is one less to come. -/
theorem halvings_half_lt {c m : ℕ} (hm : 0 < m) (h : m < c) : halvings (max m (c / 2)) m < halvings c m := by
  obtain ⟨k, hk⟩ : ∃ k, halvings c m = k + 1 := by
    refine Nat.exists_eq_succ_of_ne_zero fun hzero => ?_
    have hle := le_halvings hm c
    rw [hzero, pow_zero, mul_one] at hle
    exact absurd h hle.not_gt
  rw [hk, Nat.lt_succ_iff, halvings_le_iff hm (lt_max_of_lt_left hm)]
  refine max_le (Nat.le_mul_of_pos_right m (Nat.two_pow_pos k)) ?_
  have hle := le_halvings hm c
  rw [hk, pow_succ, ← mul_assoc] at hle
  exact Nat.div_le_of_le_mul (hle.trans_eq (mul_comm _ _))

/-- A bound on the failures that are left: those above the minimum, and two at it. A failure above the
    minimum also takes back one that was counted. -/
noncomputable def failuresLeft (a : AdaptiveChunkState) : ℕ :=
  3 * halvings a.currentSeconds a.minimumSeconds + (2 - a.minimumAllocationFailures)

theorem failuresLeft_le (h : a.currentSeconds ≤ a.baselineSeconds) :
    a.failuresLeft ≤ 3 * halvings a.baselineSeconds a.minimumSeconds + 2 := by
  have hmono := halvings_mono a.minimum_pos (a.minimum_pos.trans_le a.minimum_le) h
  rw [failuresLeft]
  omega

/-- A failure that does not exhaust the file leaves fewer. -/
theorem failuresLeft_lt {a' : AdaptiveChunkState} (h : a.recordAllocationFailure q = .ok a')
    (hexhausted : a'.exhausted = false) : a'.failuresLeft < a.failuresLeft := by
  have hq : ¬ Rejected q := fun hq => by
    obtain ⟨e, he⟩ := recordAllocationFailure_of_rejected (a := a) hq
    rw [he] at h
    cases h
  rw [recordAllocationFailure_of_not_rejected hq] at h
  obtain rfl := Except.ok.inj h
  have hminimum : (a.limited q).minimumSeconds = a.minimumSeconds := by
    rcases q with _ | x <;> rfl
  have hcurrent := currentSeconds_limited_le a q
  have hfew : (recordAllocationFailure.failed (a.limited q)).minimumAllocationFailures < 2 :=
    not_le.1 (of_decide_eq_false hexhausted)
  have hpos := a.minimum_pos
  have hle := hminimum ▸ (a.limited q).minimum_le
  rw [failures_failed, failures_limited] at hfew
  rw [failuresLeft, failuresLeft, failures_failed, failures_limited]
  change 3 * halvings (max (a.limited q).minimumSeconds ((a.limited q).currentSeconds / 2))
    (a.limited q).minimumSeconds + _ < _
  by_cases hat : (a.limited q).currentSeconds = (a.limited q).minimumSeconds
  · -- One more is counted, and there is nothing left to halve.
    rw [if_pos hat] at hfew ⊢
    have hzero : halvings (max (a.limited q).minimumSeconds ((a.limited q).currentSeconds / 2))
        (a.limited q).minimumSeconds = 0 := by
      refine Nat.le_zero.1 ((halvings_le_iff (hminimum ▸ hpos) (lt_max_of_lt_left (hminimum ▸ hpos))).2 ?_)
      rw [hat, pow_zero, mul_one]
      exact max_le le_rfl (Nat.div_le_self _ _)
    omega
  · rw [if_neg hat, hminimum]
    have hlt := halvings_half_lt hpos (lt_of_le_of_ne hle fun heq => hat (heq.symm.trans hminimum.symm))
    have hmono := halvings_mono hpos (hpos.trans_le hle) hcurrent
    omega

/-- The failures of a row report that the file is exhausted, two behind those that halve the baseline
    down to the minimum at the latest. -/
theorem InRange.exists_reports (h : InRange m b a) {qs : List (Option ℚ)} (hqs : ∀ q ∈ qs, ¬ Rejected q)
    (hlength : halvings b m + 2 ≤ qs.length) :
    ∃ k < halvings b m + 2, ∃ q, qs[k]? = some q ∧
      (a.after ((qs.take k).map .allocationFailure)).reports q = true := by
  have hm : 0 < m := h.minimum ▸ a.minimum_pos
  obtain ⟨q, hq⟩ : ∃ q, qs[halvings b m]? = some q := ⟨_, List.getElem?_eq_getElem (by omega)⟩
  obtain ⟨q', hq'⟩ : ∃ q', qs[halvings b m + 1]? = some q' := ⟨_, List.getElem?_eq_getElem (by omega)⟩
  refine ⟨halvings b m + 1, Nat.lt_succ_self _, q', hq', ?_⟩
  have htake : ∀ q ∈ qs.take (halvings b m), ¬ Rejected q := fun q hq => hqs q (List.mem_of_mem_take hq)
  have hrange := inRange_after h ((qs.take (halvings b m)).map AdaptiveCall.allocationFailure)
  have hat : (a.after ((qs.take (halvings b m)).map .allocationFailure)).currentSeconds = m := by
    refine le_antisymm ?_ (hrange.minimum.symm.le.trans (minimum_le _))
    have hle := h.currentSeconds_after_le htake
    rw [List.length_take, min_eq_left (by omega)] at hle
    refine hle.trans (max_le (le_refl m) ?_)
    refine Nat.div_le_of_le_mul ?_
    rw [mul_comm]
    exact h.le.trans (le_halvings hm b)
  have hmem := List.mem_of_getElem? hq
  obtain ⟨hat', hcount⟩ := hrange.record_at_minimum hat (hqs q hmem)
  have hnext : (qs.take (halvings b m + 1)).map AdaptiveCall.allocationFailure =
      (qs.take (halvings b m)).map .allocationFailure ++ [.allocationFailure q] := by
    rw [List.take_add_one, hq, List.map_append]
    rfl
  have hmem' := List.mem_of_getElem? hq'
  have hrange' := hrange.record (.allocationFailure q)
  have hcount' := (hrange'.record_at_minimum hat' (hqs q' hmem')).2
  rw [record_of_not_rejected (hqs q' hmem')] at hcount'
  rw [hnext, after_concat, reports_of_not_rejected (hqs q' hmem'), decide_eq_true_iff, hcount', hcount]
  omega

end AdaptiveChunkState

end Subgen

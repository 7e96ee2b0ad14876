import Subgen.Cohort.Runtime
import Subgen.Lib.Interleaving

/-!
# The memory lease of a cohort

Any number of threads that call `load`, `transcribe`, `cancel` and `release` on any number of runtimes
with one reservation.

* `CohortRuntime.Valid`: a runtime with workers that have not confirmed their release, or with an
  active chunk, holds the token;
* `Effect`: what a step of a call keeps up, what it may change under the feet of the call that holds
  the lifecycle lock (`Rely`), and what it does to the lease (`LeaseStep`);
* `lease_exclusive`: it holds of all runtimes in every run, so that the workers of one runtime at most
  are unconfirmed; a token is given back when everything is confirmed, and a result is returned in the
  generation in which its call started.
-/

namespace Subgen

open Interleaving

variable {σ ι : Type}

namespace CohortRuntime

/-- The workers that were made and have not confirmed their release. -/
def Unconfirmed (r : CohortRuntime σ) (selector : σ) : Prop := selector ∈ r.made ∧ selector ∉ r.confirmed

/-- What a runtime that holds the reservation promises, and what one that does not hold it promises. -/
structure Valid (r : CohortRuntime σ) (reservation : CohortReservation) : Prop where
  token : ∀ token, r.token = some token → reservation.token = some token
  unconfirmed : ∀ selector, r.Unconfirmed selector → selector ∈ r.workers
  workers : r.workers ≠ [] → r.token ≠ none
  active : r.active ≠ ∅ → r.token ≠ none
  quiet : r.state = .cold ∨ r.state = .loading ∨ r.state = .released → r.active = ∅
  ready : r.state = .ready → r.cancelled = false ∧ r.token ≠ none
  cold : r.state = .cold → r.made = [] ∧ r.token = none
  made : r.made.Nodup
  workersMade : ∀ selector ∈ r.workers, selector ∈ r.made
  workersNodup : r.workers.Nodup
  specs : r.specs.Nodup

end CohortRuntime

namespace CohortCall

/-- Whether the call holds `_operation`. -/
def held : CohortCall σ → ℕ
  | stopping | transcribing _ _ | checking _ _ | faulting _ _ | leaving _ _ => 0
  | _ => 1

/-- The chunk that the call has registered. -/
def chunk : CohortCall σ → Multiset σ
  | transcribing selector _ | checking selector _ | faulting selector _ | leaving selector _ => {selector}
  | _ => 0

/-- What the point of a call says about its runtime. -/
def Sound (r : CohortRuntime σ) : CohortCall σ → Prop
  | verifying | acquiring => r.state = .loading ∧ r.made = [] ∧ r.workers = [] ∧ r.token = none
  | making rest | loading _ rest => r.state = .loading ∧ r.token ≠ none ∧ r.made ++ rest = r.specs
  | readying => r.state = .loading ∧ r.token ≠ none
  | failing _ => r.state = .loading
  | releasing rest failed =>
    r.state ≠ .ready ∧ r.active = ∅ ∧ (failed = false → ∀ selector ∈ r.workers, selector ∈ rest)
  | stopping | draining | awaiting => r.cancelled = true
  | _ => True

end CohortCall

/-! ## The steps of a call -/

/-- What a call that does not hold the lifecycle lock may change. -/
structure Rely (r r' : CohortRuntime σ) : Prop where
  token : r'.token = r.token
  workers : r'.workers = r.workers
  made : r'.made = r.made
  specs : r'.specs = r.specs
  state : r.state ≠ .ready → r'.state = r.state
  active : r.state ≠ .ready → r.active = ∅ → r'.active = ∅

/-- The lease stays where it is, or a token is handed out or given back. -/
inductive LeaseStep (r : CohortRuntime σ) (reservation : CohortReservation) :
    CohortRuntime σ → CohortReservation → Prop
  | stays {r' : CohortRuntime σ} (h : r'.token = r.token) : LeaseStep r reservation r' reservation
  | acquires {r' : CohortRuntime σ} {reservation' : CohortReservation} (hfree : reservation.token = none)
      (h : r'.token = reservation'.token) : LeaseStep r reservation r' reservation'
  | returns {r' : CohortRuntime σ} {reservation' : CohortReservation}
      (hheld : r.token = reservation.token) (hconfirmed : ∀ selector, ¬ r.Unconfirmed selector)
      (hactive : r.active = ∅) (h : r'.token = none) (h' : reservation'.token = none) :
      LeaseStep r reservation r' reservation'

/-- What a step of a call does. -/
structure Effect (r : CohortRuntime σ) (reservation : CohortReservation) (held : ℕ) (chunk : Multiset σ)
    (r' : CohortRuntime σ) (reservation' : CohortReservation) (call' : Option (CohortCall σ)) : Prop where
  valid : r'.Valid reservation'
  sound : ∀ call ∈ call', call.Sound r'
  cancelled : r.cancelled = true → r'.cancelled = true
  operation : (if r'.operation then 0 else 1) + (call'.map CohortCall.held).getD 0 =
    (if r.operation then 0 else 1) + held
  rely : held = 0 → Rely r r'
  active : r'.active.val + chunk = r.active.val + (call'.map CohortCall.chunk).getD 0
  lease : LeaseStep r reservation r' reservation'

namespace CohortRuntime.Valid

variable {r : CohortRuntime σ} {reservation : CohortReservation}

/-- The cancellation keeps a runtime valid. -/
theorem cancel (h : r.Valid reservation) (reason : CancelReason) : (r.cancel reason).Valid reservation := by
  have hstate : ∀ s, s ≠ .draining → (r.cancel reason).state = s → r.state = s ∧ s ≠ .ready := by
    intro s hs heq
    rw [CohortRuntime.cancel] at heq
    by_cases hready : r.state = .ready
    · simp only [if_pos hready] at heq
      exact absurd heq.symm hs
    · simp only [if_neg hready] at heq
      exact ⟨heq, heq ▸ hready⟩
  refine ⟨h.token, h.unconfirmed, h.workers, h.active, fun hquiet => ?_, fun hready => ?_,
    fun hcold => h.cold (hstate .cold nofun hcold).1, h.made, h.workersMade, h.workersNodup, h.specs⟩
  · refine h.quiet (hquiet.imp (fun hs => (hstate .cold nofun hs).1) fun hs => ?_)
    exact hs.imp (fun hs => (hstate .loading nofun hs).1) fun hs => (hstate .released nofun hs).1
  · exact absurd rfl (hstate .ready nofun hready).2

/-- Another state. -/
theorem of_state (h : r.Valid reservation) (state : CohortState) (generation : ℕ)
    (hquiet : state = .loading ∨ state = .released → r.active = ∅)
    (hready : state = .ready → r.cancelled = false ∧ r.token ≠ none) (hcold : state ≠ .cold) :
    CohortRuntime.Valid { r with state := state, generation := generation } reservation :=
  ⟨h.token, h.unconfirmed, h.workers, h.active, fun hs => hquiet (hs.resolve_left hcold), hready,
    fun hs => absurd hs hcold, h.made, h.workersMade, h.workersNodup, h.specs⟩

/-- Nothing but the lock has changed. -/
theorem of_operation (h : r.Valid reservation) (operation : Bool) :
    CohortRuntime.Valid { r with operation := operation } reservation :=
  ⟨h.token, h.unconfirmed, h.workers, h.active, h.quiet, h.ready, h.cold, h.made,
    h.workersMade, h.workersNodup, h.specs⟩

end CohortRuntime.Valid

theorem rely_refl (r : CohortRuntime σ) : Rely r r := ⟨rfl, rfl, rfl, rfl, fun _ => rfl, fun _ => id⟩

theorem rely_cancel (r : CohortRuntime σ) (reason : CancelReason) : Rely r (r.cancel reason) where
  token := rfl
  workers := rfl
  made := rfl
  specs := rfl
  state hready := if_neg hready
  active _ := id

section Effects

variable {r : CohortRuntime σ} {reservation : CohortReservation} {held : ℕ} {chunk : Multiset σ}

/-- A step that changes neither the runtime nor the reservation. -/
theorem effect_stays (h : r.Valid reservation) (call' : CohortCall σ) (hsound : call'.Sound r)
    (hheld : call'.held = held) (hchunk : call'.chunk = chunk) :
    Effect r reservation held chunk r reservation (some call') where
  valid := h
  sound := fun _ hcall => Option.some.inj hcall ▸ hsound
  cancelled := id
  operation := congrArg _ hheld
  rely _ := rely_refl r
  active := congrArg _ hchunk.symm
  lease := .stays rfl

/-- A call that holds the lifecycle lock goes on in another state. -/
theorem effect_state (state : CohortState) (generation : ℕ) (call' : CohortCall σ)
    (hvalid : CohortRuntime.Valid { r with state := state, generation := generation } reservation)
    (hsound : call'.Sound { r with state := state, generation := generation }) (hheld : call'.held = 1)
    (hchunk : call'.chunk = 0) :
    Effect r reservation 1 0 { r with state := state, generation := generation } reservation
      (some call') where
  valid := hvalid
  sound := fun _ hcall => Option.some.inj hcall ▸ hsound
  cancelled := id
  operation := congrArg _ hheld
  rely := nofun
  active := congrArg _ hchunk.symm
  lease := .stays rfl

theorem effect_cancel (h : r.Valid reservation) (reason : CancelReason) (call' : CohortCall σ)
    (hsound : call'.Sound (r.cancel reason)) (hheld : call'.held = held) (hchunk : call'.chunk = chunk) :
    Effect r reservation held chunk (r.cancel reason) reservation (some call') where
  valid := h.cancel reason
  sound := fun _ hcall => Option.some.inj hcall ▸ hsound
  cancelled _ := rfl
  operation := congrArg _ hheld
  rely _ := rely_cancel r reason
  active := congrArg _ hchunk.symm
  lease := .stays rfl

/-- A change of the lifecycle lock. -/
theorem effect_operation (h : r.Valid reservation) (operation : Bool) (call' : Option (CohortCall σ))
    (hsound : ∀ call ∈ call', call.Sound { r with operation := operation })
    (hheld : (if operation then 0 else 1) + (call'.map CohortCall.held).getD 0 =
      (if r.operation then 0 else 1) + held) (hchunk : (call'.map CohortCall.chunk).getD 0 = 0) :
    Effect r reservation held 0 { r with operation := operation } reservation call' where
  valid := h.of_operation operation
  sound := hsound
  cancelled := id
  operation := hheld
  rely _ := ⟨rfl, rfl, rfl, rfl, fun _ => rfl, fun _ => id⟩
  active := congrArg _ hchunk.symm
  lease := .stays rfl

/-- The reservation hands out a token. -/
theorem effect_acquire (h : r.Valid reservation) (hsound : CohortCall.acquiring.Sound r)
    (hfree : reservation.token = none) :
    Effect r reservation 1 0 { r with token := some reservation.tokens }
      ⟨some reservation.tokens, reservation.tokens + 1⟩ (some (.making r.specs)) where
  valid := by
    obtain ⟨hstate, -⟩ := hsound
    refine ⟨fun _ => id, h.unconfirmed, fun _ => nofun, fun _ => nofun, h.quiet, fun hready => ?_,
      fun hcold => ?_, h.made, h.workersMade, h.workersNodup, h.specs⟩
    · cases hstate.symm.trans hready
    · cases hstate.symm.trans hcold
  sound call' hcall := by
    obtain rfl := Option.some.inj hcall
    obtain ⟨hstate, hmade, -⟩ := hsound
    refine ⟨hstate, nofun, ?_⟩
    change r.made ++ r.specs = r.specs
    rw [hmade, List.nil_append]
  cancelled := id
  operation := rfl
  rely := nofun
  active := rfl
  lease := .acquires hfree rfl

/-- A worker is made. -/
theorem effect_make (h : r.Valid reservation) {selector : σ} {rest : List σ}
    (hsound : (CohortCall.making (selector :: rest)).Sound r) :
    Effect r reservation 1 0
      { r with workers := r.workers ++ [selector], made := r.made ++ [selector] } reservation
      (some (.loading selector rest)) where
  valid := by
    obtain ⟨hstate, htoken, hspecs⟩ := hsound
    have hnodup : (r.made ++ [selector]).Nodup := by
      have hall := h.specs
      rw [← hspecs, List.append_cons] at hall
      exact hall.of_append_left
    have hnew : selector ∉ r.made := fun hmem =>
      (List.nodup_append.1 hnodup).2.2 selector hmem selector (List.mem_singleton_self _) rfl
    refine ⟨h.token, fun s hs => ?_, fun _ => htoken, h.active, h.quiet, h.ready, fun hcold => ?_, hnodup,
      fun s hs => ?_, ?_, h.specs⟩
    · rcases List.mem_append.1 hs.1 with hmade | hs'
      · exact List.mem_append_left _ (h.unconfirmed s ⟨hmade, hs.2⟩)
      · exact List.mem_append_right _ hs'
    · cases hstate.symm.trans hcold
    · exact List.mem_append.2 ((List.mem_append.1 hs).imp_left (h.workersMade s))
    · refine List.nodup_append.2 ⟨h.workersNodup, List.nodup_singleton _, fun a ha b hb heq => ?_⟩
      obtain rfl := List.mem_singleton.1 hb
      exact hnew (heq ▸ h.workersMade a ha)
  sound call' hcall := by
    obtain rfl := Option.some.inj hcall
    obtain ⟨hstate, htoken, hspecs⟩ := hsound
    exact ⟨hstate, htoken, by rw [← hspecs, List.append_assoc]; rfl⟩
  cancelled := id
  operation := rfl
  rely := nofun
  active := rfl
  lease := .stays rfl

variable [DecidableEq σ]

/-- A worker confirms its release. -/
theorem effect_confirm (h : r.Valid reservation) {selector : σ} {rest : List σ} {failed : Bool}
    (hsound : (CohortCall.releasing (selector :: rest) failed).Sound r) :
    Effect r reservation 1 0
      { r with workers := r.workers.erase selector, confirmed := r.confirmed ++ [selector] } reservation
      (some (.releasing rest failed)) where
  valid := by
    refine ⟨h.token, fun s hs => ?_, fun hne => h.workers fun hnil => hne (by rw [hnil]; rfl), h.active,
      h.quiet, h.ready, h.cold, h.made, fun s hs => h.workersMade s (List.mem_of_mem_erase hs),
      h.workersNodup.erase _, h.specs⟩
    obtain ⟨hmade, hconfirmed⟩ := hs
    have hnot := not_or.1 (mt List.mem_append.2 hconfirmed)
    have hne : s ≠ selector := fun heq => hnot.2 (heq ▸ List.mem_singleton_self _)
    exact (List.mem_erase_of_ne hne).2 (h.unconfirmed s ⟨hmade, hnot.1⟩)
  sound call' hcall := by
    obtain rfl := Option.some.inj hcall
    obtain ⟨hstate, hactive, hrest⟩ := hsound
    refine ⟨hstate, hactive, fun hfailed s hs => ?_⟩
    obtain ⟨hne, hmem⟩ := h.workersNodup.mem_erase_iff.1 hs
    exact (List.mem_cons.1 (hrest hfailed s hmem)).resolve_left hne
  cancelled := id
  operation := rfl
  rely := nofun
  active := rfl
  lease := .stays rfl

/-- The end of `_release_workers`. -/
theorem effect_settle (h : r.Valid reservation) {failed : Bool}
    (hsound : (CohortCall.releasing ([] : List σ) failed).Sound r) :
    Effect r reservation 1 0 (r.settle reservation failed).1 (r.settle reservation failed).2
      (some .unlocking) := by
  obtain ⟨hstate, hactive, hworkers⟩ := hsound
  rw [CohortRuntime.settle]
  cases failed with
  | true =>
    rw [if_pos rfl]
    exact effect_state .blocked r.generation .unlocking
      (h.of_state .blocked r.generation nofun nofun nofun) trivial rfl rfl
  | false =>
    have hnil : r.workers = [] := List.eq_nil_iff_forall_not_mem.2 fun s hs =>
      List.not_mem_nil (hworkers rfl s hs)
    have hconfirmed : ∀ selector, ¬ r.Unconfirmed selector := fun s hs =>
      List.not_mem_nil (hnil ▸ h.unconfirmed s hs)
    rw [if_neg Bool.false_ne_true]
    split
    · exact effect_state .released r.generation .unlocking
        (h.of_state .released r.generation (fun _ => hactive) nofun nofun) trivial rfl rfl
    · next token htoken =>
      split
      · exact {
          valid := ⟨nofun, h.unconfirmed, fun hne => absurd hnil hne, fun hne => absurd hactive hne,
            fun _ => hactive, nofun, nofun, h.made, h.workersMade, h.workersNodup, h.specs⟩
          sound := fun _ hcall => Option.some.inj hcall ▸ trivial
          cancelled := id
          operation := rfl
          rely := nofun
          active := rfl
          lease := .returns (htoken.trans (h.token token htoken).symm) hconfirmed hactive rfl rfl }
      · exact effect_stays h .unlocking trivial rfl rfl

/-- `transcribe` registers a chunk. -/
theorem effect_register (h : r.Valid reservation) {selector : σ} (hstate : r.state = .ready)
    (hselector : selector ∉ r.active) :
    Effect r reservation 0 0 { r with active := insert selector r.active } reservation
      (some (.transcribing selector r.generation)) where
  valid := by
    refine ⟨h.token, h.unconfirmed, h.workers, fun _ => (h.ready hstate).2, fun hquiet => ?_, h.ready,
      h.cold, h.made, h.workersMade, h.workersNodup, h.specs⟩
    simp [hstate] at hquiet
  sound := fun _ hcall => Option.some.inj hcall ▸ trivial
  cancelled := id
  operation := rfl
  rely _ := ⟨rfl, rfl, rfl, rfl, fun _ => rfl, fun hne => absurd hstate hne⟩
  active := by
    change (insert selector r.active).val + 0 = r.active.val + {selector}
    rw [Finset.insert_val_of_notMem hselector, add_zero, add_comm, Multiset.singleton_add]
  lease := .stays rfl

theorem erase_eq_empty {s : Finset σ} (a : σ) (h : s = ∅) : s.erase a = ∅ :=
  Finset.subset_empty.1 (h ▸ Finset.erase_subset _ _)

/-- `transcribe` takes its chunk back. -/
theorem effect_leave (h : r.Valid reservation) {selector : σ} (hselector : selector ∈ r.active) :
    Effect r reservation 0 {selector} { r with active := r.active.erase selector } reservation none where
  valid := ⟨h.token, h.unconfirmed, h.workers, fun hne => h.active (mt (erase_eq_empty _) hne),
    fun hquiet => erase_eq_empty _ (h.quiet hquiet), h.ready, h.cold, h.made, h.workersMade,
    h.workersNodup, h.specs⟩
  sound := nofun
  cancelled := id
  operation := rfl
  rely _ := ⟨rfl, rfl, rfl, rfl, fun _ => rfl, fun _ => erase_eq_empty _⟩
  active := by
    change (r.active.erase selector).val + {selector} = r.active.val + 0
    rw [Finset.erase_val, add_zero, add_comm, Multiset.singleton_add, Multiset.cons_erase hselector]
  lease := .stays rfl

theorem effect_of_callStep {input : CohortInput σ} {call : CohortCall σ} {r' : CohortRuntime σ}
    {reservation' : CohortReservation} {call' : Option (CohortCall σ)} (h : r.Valid reservation)
    (hsound : call.Sound r) (hop : call.held = 1 → r.operation = true)
    (hchunk : ∀ s ∈ call.chunk, s ∈ r.active)
    (hstep : callStep input r reservation call = some (r', reservation', call')) :
    Effect r reservation call.held call.chunk r' reservation' call' := by
  -- A failure of `load` is handled in the `loading` state.
  have hfailing : ∀ reason, r.state = .loading →
      Effect r reservation 1 0 r reservation (some (.failing reason)) :=
    fun reason hstate => effect_stays h (.failing reason) hstate rfl rfl
  cases call with
  | beginning =>
    rw [callStep] at hstep
    split at hstep <;> cases hstep
    · next hstate =>
      obtain ⟨hmade, htoken⟩ := h.cold hstate
      have hworkers : r.workers = [] := List.eq_nil_iff_forall_not_mem.2 fun s hs =>
        List.not_mem_nil (hmade ▸ h.workersMade s hs)
      exact effect_state .loading (r.generation + 1) .verifying
        (h.of_state .loading _ (fun _ => h.quiet (.inl hstate)) nofun nofun)
        ⟨rfl, hmade, hworkers, htoken⟩ rfl rfl
    · exact effect_stays h .unlocking trivial rfl rfl
  | verifying =>
    cases input with
    | passes =>
      obtain ⟨-, hstep⟩ := Option.ite_none_left_eq_some.1 hstep
      cases hstep
      exact effect_stays h .acquiring hsound rfl rfl
    | fails reason =>
      cases hstep
      exact hfailing reason hsound.1
    | load | release | cancel | transcribe => cases hstep
  | acquiring =>
    cases input with
    | passes =>
      cases hfree : reservation.token with
      | none =>
        simp only [callStep, hfree] at hstep
        cases hstep
        exact effect_acquire h hsound hfree
      | some token =>
        simp only [callStep, hfree] at hstep
        cases hstep
        exact hfailing .failure hsound.1
    | fails reason =>
      cases hstep
      exact hfailing reason hsound.1
    | load | release | cancel | transcribe => cases hstep
  | making rest =>
    cases input with
    | passes =>
      obtain ⟨-, hstep⟩ := Option.ite_none_left_eq_some.1 hstep
      cases rest with
      | nil =>
        cases hstep
        exact effect_stays h .readying ⟨hsound.1, hsound.2.1⟩ rfl rfl
      | cons selector rest =>
        cases hstep
        exact effect_make h hsound
    | fails reason =>
      cases hstep
      exact hfailing reason hsound.1
    | load | release | cancel | transcribe => cases hstep
  | loading selector rest =>
    cases input with
    | passes =>
      obtain ⟨-, hstep⟩ := Option.ite_none_left_eq_some.1 hstep
      cases hstep
      exact effect_stays h (.making rest) hsound rfl rfl
    | fails reason =>
      cases hstep
      exact hfailing reason hsound.1
    | load | release | cancel | transcribe => cases hstep
  | readying =>
    rw [callStep] at hstep
    split at hstep <;> cases hstep
    · exact hfailing _ hsound.1
    · next hcancelled =>
      refine effect_state .ready r.generation .unlocking ?_ trivial rfl rfl
      refine h.of_state .ready r.generation nofun (fun _ => ⟨?_, hsound.2⟩) nofun
      exact Bool.eq_false_of_not_eq_true hcancelled
  | failing reason =>
    cases hstep
    have hstate : r.state ≠ .ready := fun hready => by cases hready.symm.trans hsound
    refine effect_cancel h reason _ ⟨?_, h.quiet (.inr (.inl hsound)), fun _ _ => id⟩ rfl rfl
    rw [CohortRuntime.cancel]
    simp only [if_neg hstate]
    exact hstate
  | releasing rest failed =>
    cases rest with
    | nil =>
      cases hstep
      exact effect_settle h hsound
    | cons selector rest =>
      cases input with
      | passes =>
        cases hstep
        exact effect_confirm h hsound
      | fails reason =>
        cases hstep
        exact effect_stays h (.releasing rest true) ⟨hsound.1, hsound.2.1, nofun⟩ rfl rfl
      | load | release | cancel | transcribe => cases hstep
  | unlocking =>
    cases hstep
    exact effect_operation h false none nofun (by rw [hop rfl]; rfl) rfl
  | stopping =>
    cases input with
    | passes =>
      obtain ⟨hfree, hstep⟩ := Option.ite_none_left_eq_some.1 hstep
      cases hstep
      refine effect_operation h true (some .draining) (fun _ hcall => ?_) ?_ rfl
      · exact Option.some.inj hcall ▸ hsound
      · rw [if_neg hfree]
        rfl
    | fails reason =>
      cases hstep
      exact effect_operation h r.operation none nofun rfl rfl
    | load | release | cancel | transcribe => cases hstep
  | draining =>
    cases hstep
    refine effect_state .draining (r.generation + 1) _ (h.of_state .draining _ nofun nofun nofun) ?_ ?_ ?_
    · split
      · next hactive => exact ⟨nofun, hactive, fun _ _ => id⟩
      · exact hsound
    · split <;> rfl
    · split <;> rfl
  | awaiting =>
    have hstate : r.state ≠ .ready := fun hready => by
      cases (h.ready hready).1.symm.trans hsound
    by_cases hactive : r.active = ∅
    · simp only [callStep, if_pos hactive] at hstep
      cases hstep
      exact effect_stays h (.releasing r.workers false) ⟨hstate, hactive, fun _ _ => id⟩ rfl rfl
    · cases input with
      | fails reason =>
        simp only [callStep, if_neg hactive] at hstep
        cases hstep
        exact effect_state .blocked r.generation .unlocking
          (h.of_state .blocked r.generation nofun nofun nofun) trivial rfl rfl
      | passes | load | release | cancel | transcribe =>
        simp only [callStep, if_neg hactive] at hstep
        cases hstep
  | transcribing selector generation =>
    cases input with
    | passes =>
      obtain ⟨-, hstep⟩ := Option.ite_none_left_eq_some.1 hstep
      cases hstep
      exact effect_stays h (.checking selector generation) trivial rfl rfl
    | fails reason =>
      cases hstep
      exact effect_stays h (.faulting selector reason) trivial rfl rfl
    | load | release | cancel | transcribe => cases hstep
  | checking selector generation =>
    rw [callStep] at hstep
    split at hstep <;> cases hstep
    · exact effect_stays h (.leaving selector true) trivial rfl rfl
    · exact effect_stays h (.faulting selector .stop) trivial rfl rfl
  | faulting selector reason =>
    cases hstep
    exact effect_cancel h reason (.leaving selector false) trivial rfl rfl
  | leaving selector result =>
    cases hstep
    exact effect_leave h (hchunk selector (Multiset.mem_singleton_self _))

theorem effect_of_beginCall {input : CohortInput σ} {r' : CohortRuntime σ}
    {call' : Option (CohortCall σ)} (h : r.Valid reservation)
    (hstep : r.beginCall input = some (r', call')) :
    Effect r reservation 0 0 r' reservation call' := by
  -- A call that raises at once.
  have hraises : Effect r reservation 0 0 r reservation none :=
    effect_operation h r.operation none nofun rfl rfl
  cases input with
  | load =>
    rw [CohortRuntime.beginCall] at hstep
    split at hstep <;> cases hstep
    · exact hraises
    · next hfree =>
      refine effect_operation h true (some .beginning) (fun _ hcall => ?_) ?_ rfl
      · exact Option.some.inj hcall ▸ trivial
      · rw [if_neg hfree]
        rfl
  | release =>
    cases hstep
    exact effect_cancel h .stop .stopping rfl rfl rfl
  | cancel reason =>
    cases hstep
    exact {
      valid := h.cancel reason
      sound := nofun
      cancelled := fun _ => rfl
      operation := rfl
      rely := fun _ => rely_cancel r reason
      active := rfl
      lease := .stays rfl }
  | transcribe selector =>
    rw [CohortRuntime.beginCall] at hstep
    split at hstep <;> cases hstep
    · exact hraises
    · next hready =>
      simp only [not_or, not_not] at hready
      exact effect_register h hready.1 hready.2.2.2
  | passes | fails => cases hstep

end Effects

/-! ## The other calls -/

namespace CohortCall

variable {r r' : CohortRuntime σ}

theorem held_le (call : CohortCall σ) : call.held ≤ 1 := by
  cases call <;> simp [held]

/-- What a call knows stays true if the call that moves does not hold the lifecycle lock. -/
theorem Sound.rely {call : CohortCall σ} (h : call.Sound r) (hrely : Rely r r')
    (hcancelled : r.cancelled = true → r'.cancelled = true) : call.Sound r' := by
  have hloading : r.state = .loading → r'.state = .loading := fun hstate =>
    (hrely.state (by rw [hstate]; nofun)).trans hstate
  cases call with
  | verifying | acquiring =>
    obtain ⟨hstate, hmade, hworkers, htoken⟩ := h
    exact ⟨hloading hstate, hrely.made.trans hmade, hrely.workers.trans hworkers,
      hrely.token.trans htoken⟩
  | making rest | loading selector rest =>
    obtain ⟨hstate, htoken, hspecs⟩ := h
    refine ⟨hloading hstate, hrely.token ▸ htoken, ?_⟩
    rw [hrely.made, hrely.specs, hspecs]
  | readying => exact ⟨hloading h.1, hrely.token ▸ h.2⟩
  | failing reason => exact hloading h
  | releasing rest failed =>
    obtain ⟨hstate, hactive, hworkers⟩ := h
    refine ⟨?_, hrely.active hstate hactive, hrely.workers ▸ hworkers⟩
    rw [hrely.state hstate]
    exact hstate
  | stopping | draining | awaiting => exact hcancelled h
  | beginning | unlocking | transcribing | checking | faulting | leaving => trivial

/-- A call that does not hold the lock only knows of the cancellation. -/
theorem Sound.of_not_held {call : CohortCall σ} (h : call.Sound r) (hheld : call.held = 0)
    (hcancelled : r.cancelled = true → r'.cancelled = true) : call.Sound r' := by
  cases call with
  | stopping => exact hcancelled h
  | transcribing | checking | faulting | leaving => trivial
  | beginning | verifying | acquiring | making | loading | readying | failing | releasing | unlocking
    | draining | awaiting => cases hheld

end CohortCall

/-! ## Runs -/

section Threads

variable [DecidableEq ι] (k : ι)

/-- The call of a thread on a runtime. -/
def callAt : CohortThread ι σ → Option (CohortCall σ)
  | some (k', call) => if k' = k then some call else none
  | none => none

/-- How many reservations a thread holds for one runtime. -/
def heldAt (l : CohortThread ι σ) : ℕ := ((callAt k l).map CohortCall.held).getD 0

/-- The selectors whose sections a thread is in, for one runtime. -/
def chunkAt (l : CohortThread ι σ) : Multiset σ := ((callAt k l).map CohortCall.chunk).getD 0

theorem callAt_map (call : Option (CohortCall σ)) : callAt k (call.map (k, ·)) = call := by
  cases call with
  | none => rfl
  | some call => exact if_pos rfl

theorem callAt_map_ne {j : ι} (hj : j ≠ k) (call : Option (CohortCall σ)) :
    callAt j (call.map (k, ·)) = none := by
  cases call with
  | none => rfl
  | some call => exact if_neg (Ne.symm hj)

theorem callAt_eq_some {l : CohortThread ι σ} {call : CohortCall σ} :
    callAt k l = some call ↔ l = some (k, call) := by
  rcases l with _ | ⟨k', call'⟩
  · simp [callAt]
  · by_cases hk : k' = k <;> simp [callAt, hk]

end Threads

/-- The runtimes, with the threads that call them. -/
abbrev CohortConfig (ι σ : Type) := Config (Cohorts ι σ) (CohortThread ι σ)

/-- Runtimes that are cold, a reservation that is free, and threads that have called nothing. -/
def startCohorts (specs : ι → CohortSpecs σ) (n : ℕ) : CohortConfig ι σ :=
  ⟨⟨fun k => .new (specs k), ⟨none, 0⟩⟩, List.replicate n none⟩

section Runs

variable [DecidableEq ι]

/-- The invariant of all runs: every runtime is valid, and at most one of them holds the reservation. -/
structure Leased (c : CohortConfig ι σ) : Prop where
  valid : ∀ k, (c.shared.runtimes k).Valid c.shared.reservation
  unique : ∀ k j token, (c.shared.runtimes k).token = some token →
    (c.shared.runtimes j).token = some token → k = j
  operation : ∀ k, Conserved (heldAt k)
    (fun u : Cohorts ι σ => if (u.runtimes k).operation then 0 else 1) 1 c
  active : ∀ k, (c.shared.runtimes k).active.val = gathered (chunkAt k) c.locals
  sound : ∀ k call, some (k, call) ∈ c.locals → call.Sound (c.shared.runtimes k)

theorem leased_start (specs : ι → CohortSpecs σ) (n : ℕ) : Leased (startCohorts specs n) where
  valid k := by
    refine ⟨nofun, fun _ hs => absurd hs.1 List.not_mem_nil, fun hne => absurd rfl hne,
      fun hne => absurd rfl hne, fun _ => rfl, nofun, fun _ => ⟨rfl, rfl⟩, List.nodup_nil,
      fun _ hs => absurd hs List.not_mem_nil, List.nodup_nil, (specs k).distinct⟩
  unique _ _ _ h := by cases h
  operation k := by
    simp [Conserved, startCohorts, total, heldAt, callAt, CohortRuntime.new]
  active k := by
    simp [startCohorts, gathered, chunkAt, callAt, CohortRuntime.new]
  sound k call hmem := by cases List.eq_of_mem_replicate hmem

/-- The runtime has the token that is out. -/
def Holds (c : CohortConfig ι σ) (k : ι) : Prop :=
  ∃ token, (c.shared.runtimes k).token = some token ∧ c.shared.reservation.token = some token

/-- A thread transcribes on the runtime. -/
def Transcribing (c : CohortConfig ι σ) (k : ι) : Prop := ∃ l ∈ c.locals, chunkAt k l ≠ 0

theorem Leased.holds {c : CohortConfig ι σ} {k : ι} (h : Leased c)
    (hk : (∃ selector, (c.shared.runtimes k).Unconfirmed selector) ∨ Transcribing c k) : Holds c k := by
  have htoken : (c.shared.runtimes k).token ≠ none := by
    rcases hk with ⟨selector, hselector⟩ | ⟨l, hl, hchunk⟩
    · exact (h.valid k).workers (List.ne_nil_of_mem ((h.valid k).unconfirmed selector hselector))
    · obtain ⟨selector, hselector⟩ := Multiset.exists_mem_of_ne_zero hchunk
      have hmem : selector ∈ (c.shared.runtimes k).active := by
        rw [← Finset.mem_val, h.active k]
        exact mem_gathered.2 ⟨l, hl, hselector⟩
      exact (h.valid k).active (Finset.ne_empty_of_mem hmem)
  obtain ⟨token, hsome⟩ := Option.ne_none_iff_exists'.1 htoken
  exact ⟨token, hsome, (h.valid k).token token hsome⟩

/-- A step of a thread is one of a call on one runtime. -/
structure CohortEffect (k : ι) (u : Cohorts ι σ) (l : CohortThread ι σ) (u' : Cohorts ι σ)
    (l' : CohortThread ι σ) : Prop where
  effect : Effect (u.runtimes k) u.reservation (heldAt k l) (chunkAt k l) (u'.runtimes k)
    u'.reservation (callAt k l')
  others : ∀ j, j ≠ k → u'.runtimes j = u.runtimes j ∧ callAt j l = none ∧ callAt j l' = none

variable [DecidableEq σ]

theorem cohortEffect_of_step {c c' : CohortConfig ι σ} {i : ℕ} {l l' : CohortThread ι σ}
    (h : Leased c) (hmoves : Moves (ofStep cohortStep) c c' i l l') :
    ∃ k, CohortEffect k c.shared l c'.shared l' := by
  obtain ⟨u', ls'⟩ := c'
  obtain ⟨hthread, ⟨⟨k, input⟩, hstep⟩, -⟩ := hmoves
  rcases l with _ | ⟨k', call⟩
  · obtain ⟨⟨r', call'⟩, hbegin, heq⟩ := Option.map_eq_some_iff.1 hstep
    obtain ⟨rfl, rfl⟩ := Prod.mk.inj heq
    refine ⟨k, ?_, fun j hj => ⟨Function.update_of_ne hj _ _, rfl, callAt_map_ne k hj call'⟩⟩
    rw [callAt_map]
    simp only [Function.update_self]
    exact effect_of_beginCall (h.valid k) hbegin
  · obtain ⟨⟨r', reservation', call'⟩, hcall, heq⟩ := Option.map_eq_some_iff.1 hstep
    obtain ⟨rfl, rfl⟩ := Prod.mk.inj heq
    have hmem : some (k', call) ∈ c.locals := List.mem_of_getElem? hthread
    have hat : callAt k' (some (k', call)) = some call := if_pos rfl
    refine ⟨k', ?_, fun j hj => ⟨Function.update_of_ne hj _ _, if_neg (Ne.symm hj),
      callAt_map_ne k' hj call'⟩⟩
    rw [callAt_map]
    simp only [Function.update_self, heldAt, chunkAt, hat]
    refine effect_of_callStep (h.valid k') (h.sound k' call hmem) (fun hheld => ?_) (fun s hs => ?_) hcall
    · have hle := held_le_total (heldAt k') hthread
      have hop := h.operation k'
      rw [heldAt, hat, Option.map_some, Option.getD_some, hheld] at hle
      rw [Conserved] at hop
      by_contra hfree
      rw [if_neg hfree] at hop
      omega
    · rw [← Finset.mem_val, h.active k']
      refine mem_gathered.2 ⟨_, hmem, ?_⟩
      rwa [chunkAt, hat]

theorem Leased.moves {c c' : CohortConfig ι σ} {i : ℕ} {l l' : CohortThread ι σ} (h : Leased c)
    (hmoves : Moves (ofStep cohortStep) c c' i l l') : Leased c' := by
  obtain ⟨k, heffect, hothers⟩ := cohortEffect_of_step h hmoves
  have hthread := hmoves.thread
  have hlocals := hmoves.locals
  have hne : ∀ j, j ≠ k → c'.shared.runtimes j = c.shared.runtimes j := fun j hj => (hothers j hj).1
  -- The token of another runtime stays the one that is out.
  have htoken : ∀ j, j ≠ k → ∀ token, (c.shared.runtimes j).token = some token →
      c'.shared.reservation.token = some token := by
    intro j hj token hsome
    have hreservation := (h.valid j).token token hsome
    have hlease := heffect.lease
    generalize c'.shared.reservation = reservation' at hlease ⊢
    cases hlease with
    | stays => exact hreservation
    | acquires hfree => cases hfree.symm.trans hreservation
    | returns hheld => exact absurd (h.unique j k token hsome (hheld.trans hreservation)) hj
  -- Only the runtime of the call may have got a token.
  have hunique : ∀ j, j ≠ k → ∀ token, (c'.shared.runtimes k).token = some token →
      (c.shared.runtimes j).token ≠ some token := by
    intro j hj token hnew hsome
    have hreservation := (h.valid j).token token hsome
    have hlease := heffect.lease
    generalize c'.shared.reservation = reservation' at hlease
    cases hlease with
    | stays heq => exact hj (h.unique j k token hsome (heq.symm.trans hnew))
    | acquires hfree => cases hfree.symm.trans hreservation
    | returns _ _ _ hnone => cases hnone.symm.trans hnew
  refine ⟨fun j => ?_, fun a b token ha hb => ?_, fun j => ?_, fun j => ?_, fun j call hmem => ?_⟩
  · by_cases hj : j = k
    · exact hj ▸ heffect.valid
    · rw [hne j hj]
      exact ⟨htoken j hj, (h.valid j).unconfirmed, (h.valid j).workers, (h.valid j).active,
        (h.valid j).quiet, (h.valid j).ready, (h.valid j).cold, (h.valid j).made,
        (h.valid j).workersMade, (h.valid j).workersNodup, (h.valid j).specs⟩
  · by_cases hak : a = k <;> by_cases hbk : b = k
    · exact hak.trans hbk.symm
    · rw [hne b hbk] at hb
      exact absurd hb (hunique b hbk token (hak ▸ ha))
    · rw [hne a hak] at ha
      exact absurd ha (hunique a hak token (hbk ▸ hb))
    · rw [hne a hak] at ha
      rw [hne b hbk] at hb
      exact h.unique a b token ha hb
  · refine (h.operation j).moves hmoves ?_
    by_cases hj : j = k
    · subst hj
      exact heffect.operation
    · obtain ⟨hr, hl, hl'⟩ := hothers j hj
      rw [hr, heldAt, heldAt, hl, hl']
  · have hset := gathered_set (chunkAt j) hthread l'
    rw [hlocals]
    by_cases hj : j = k
    · subst hj
      have hactive := heffect.active
      rw [h.active j, ← chunkAt, ← hset] at hactive
      exact add_right_cancel hactive
    · obtain ⟨hr, hl, hl'⟩ := hothers j hj
      rw [hr, h.active j]
      exact (gathered_set_of_eq _ hthread (by rw [chunkAt, chunkAt, hl, hl'])).symm
  · obtain ⟨m, hm⟩ := List.mem_iff_getElem?.1 hmem
    rw [hlocals] at hm
    by_cases hmi : m = i
    · subst hmi
      rw [List.getElem?_set_self'] at hm
      obtain ⟨_, -, rfl⟩ := Option.map_eq_some_iff.1 hm
      have hat : callAt j (some (j, call)) = some call := if_pos rfl
      by_cases hj : j = k
      · exact hj ▸ heffect.sound call (hj ▸ hat)
      · cases hat.symm.trans (hothers j hj).2.2
    · rw [List.getElem?_set_ne (Ne.symm hmi)] at hm
      have hsound := h.sound j call (List.mem_of_getElem? hm)
      by_cases hj : j = k
      · subst hj
        rcases Nat.le_one_iff_eq_zero_or_eq_one.1 call.held_le with hheld | hheld
        · exact hsound.of_not_held hheld heffect.cancelled
        · -- The call holds the lifecycle lock, so that the one that moves does not.
          have hheldAt : heldAt j (some (j, call)) = 1 := by
            rw [heldAt, callAt_eq_some j |>.2 rfl]
            exact hheld
          have hzero : heldAt j l = 0 :=
            (h.operation j).eq_zero (Ne.symm hmi) hm hthread hheldAt.ge
          exact hsound.rely (heffect.rely hzero) heffect.cancelled
      · rw [hne j hj]
        exact hsound

theorem leased_of_runs {specs : ι → CohortSpecs σ} {n : ℕ} {c : CohortConfig ι σ}
    (h : Runs (ofStep cohortStep) (startCohorts specs n) c) : Leased c :=
  h.invariant (leased_start specs n) fun _ _ _ _ _ hleased hmoves => hleased.moves hmoves

/-- Where a token is given back, everything is confirmed and no chunk is active. -/
theorem Leased.returned {c c' : CohortConfig ι σ} {i : ℕ} {l l' : CohortThread ι σ} {token : ℕ}
    (h : Leased c) (hmoves : Moves (ofStep cohortStep) c c' i l l')
    (hout : c.shared.reservation.token = some token) (hback : c'.shared.reservation.token ≠ some token) :
    ∃ k, (c.shared.runtimes k).token = some token ∧
      (∀ selector ∈ (c.shared.runtimes k).made, selector ∈ (c.shared.runtimes k).confirmed) ∧
      ¬ Transcribing c k := by
  obtain ⟨k, heffect, -⟩ := cohortEffect_of_step h hmoves
  have hlease := heffect.lease
  generalize c'.shared.reservation = reservation' at hlease hback
  cases hlease with
  | stays => exact absurd hout hback
  | acquires hfree => cases hfree.symm.trans hout
  | returns hheld hconfirmed hactive =>
    refine ⟨k, hheld.trans hout, fun selector hmade => ?_, fun ⟨l, hl, hchunk⟩ => ?_⟩
    · by_contra hselector
      exact hconfirmed selector ⟨hmade, hselector⟩
    · obtain ⟨selector, hselector⟩ := Multiset.exists_mem_of_ne_zero hchunk
      have hmem : selector ∈ (c.shared.runtimes k).active := by
        rw [← Finset.mem_val, h.active k]
        exact mem_gathered.2 ⟨l, hl, hselector⟩
      rw [hactive] at hmem
      exact absurd hmem (Finset.notMem_empty _)

/-- A call begins with its first region. -/
theorem beginCall_ne_leaving {input : CohortInput σ} {r r' : CohortRuntime σ} {selector : σ}
    {result : Bool} : r.beginCall input ≠ some (r', some (.leaving selector result)) := by
  intro h
  cases input with
  | load | transcribe =>
    rw [CohortRuntime.beginCall] at h
    split at h <;> cases h
  | release | cancel | passes | fails => cases h

/-- A result leaves the last check of its call. -/
theorem callStep_result {input : CohortInput σ} {r r' : CohortRuntime σ}
    {reservation reservation' : CohortReservation} {call : CohortCall σ} {selector : σ}
    (h : callStep input r reservation call = some (r', reservation', some (.leaving selector true))) :
    call = .checking selector r.generation ∧ r.state = .ready := by
  cases call with
  | checking selector' generation =>
    rw [callStep] at h
    split at h <;> cases h
    next hready => exact ⟨hready.2 ▸ rfl, hready.1⟩
  | failing | unlocking | faulting | leaving => cases h
  | beginning | readying =>
    rw [callStep] at h
    split at h <;> cases h
  | draining =>
    have hnext := (Prod.mk.inj (Prod.mk.inj (Option.some.inj h)).2).2
    split at hnext <;> cases hnext
  | verifying | loading | stopping | transcribing =>
    cases input with
    | passes => cases (Option.ite_none_left_eq_some.1 h).2
    | fails | load | release | cancel | transcribe => cases h
  | acquiring =>
    cases htoken : reservation.token <;> cases input <;> simp only [callStep, htoken] at h <;> cases h
  | making rest =>
    cases input with
    | passes =>
      obtain ⟨-, h⟩ := Option.ite_none_left_eq_some.1 h
      cases rest <;> cases h
    | fails | load | release | cancel | transcribe => cases h
  | releasing rest failed => cases rest <;> cases input <;> cases h
  | awaiting =>
    by_cases hactive : r.active = ∅
    · simp only [callStep, if_pos hactive] at h
      cases h
    · cases input <;> simp only [callStep, if_neg hactive] at h <;> cases h

/-- In every run of any number of calls on any number of runtimes that share a reservation:
    the workers of one runtime at most are unconfirmed, each of them made once; a runtime with
    unconfirmed workers or an active chunk holds the token; a token is given back when all of its
    workers have confirmed their release and no chunk is active; and a result is returned where the
    runtime is ready in the generation in which the call started. -/
theorem lease_exclusive (specs : ι → CohortSpecs σ) (n : ℕ) (c : CohortConfig ι σ)
    (h : Runs (ofStep cohortStep) (startCohorts specs n) c) :
    (∀ k j selector selector', (c.shared.runtimes k).Unconfirmed selector →
      (c.shared.runtimes j).Unconfirmed selector' → k = j) ∧
    (∀ k, (c.shared.runtimes k).made.Nodup) ∧
    (∀ k, (∃ selector, (c.shared.runtimes k).Unconfirmed selector) ∨ Transcribing c k → Holds c k) ∧
    (∀ c' i l l' token, Moves (ofStep cohortStep) c c' i l l' →
      c.shared.reservation.token = some token → c'.shared.reservation.token ≠ some token →
      ∃ k, (c.shared.runtimes k).token = some token ∧
        (∀ selector ∈ (c.shared.runtimes k).made, selector ∈ (c.shared.runtimes k).confirmed) ∧
        ¬ Transcribing c k) ∧
    (∀ c' i l k selector, Moves (ofStep cohortStep) c c' i l (some (k, .leaving selector true)) →
      l = some (k, .checking selector (c.shared.runtimes k).generation) ∧
      (c.shared.runtimes k).state = .ready) := by
  have hleased := leased_of_runs h
  refine ⟨fun k j selector selector' hk hj => ?_, fun k => (hleased.valid k).made,
    fun k => hleased.holds, fun c' i l l' token hmoves => hleased.returned hmoves,
    fun c' i l k selector hmoves => ?_⟩
  · -- Both hold the reservation, and there is one token only.
    obtain ⟨token, htoken, hout⟩ := hleased.holds (.inl ⟨selector, hk⟩)
    obtain ⟨token', htoken', hout'⟩ := hleased.holds (.inl ⟨selector', hj⟩)
    obtain rfl := Option.some.inj (hout.symm.trans hout')
    exact hleased.unique k j token htoken htoken'
  · -- A result is returned by the step behind the final check alone.
    obtain ⟨-, ⟨⟨k₀, input⟩, hstep⟩, -⟩ := hmoves
    rcases l with _ | ⟨k', call⟩
    · obtain ⟨⟨r', call'⟩, hbegin, heq⟩ := Option.map_eq_some_iff.1 hstep
      obtain ⟨call, rfl, heq'⟩ := Option.map_eq_some_iff.1 (Prod.mk.inj heq).2
      obtain rfl := (Prod.mk.inj heq').2
      exact absurd hbegin beginCall_ne_leaving
    · obtain ⟨⟨r', reservation', call'⟩, hcall, heq⟩ := Option.map_eq_some_iff.1 hstep
      obtain ⟨call'', rfl, heq'⟩ := Option.map_eq_some_iff.1 (Prod.mk.inj heq).2
      obtain ⟨rfl, rfl⟩ := Prod.mk.inj heq'
      obtain ⟨rfl, hready⟩ := callStep_result hcall
      exact ⟨rfl, hready⟩

end Runs

/-! ## One cohort -/

/-- Two runtimes, each with one worker. -/
def twoCohorts (_ : Bool) : CohortSpecs ℕ := ⟨[0], by decide, by decide⟩

/-- The first runtime loads its worker, and the second one does not get the reservation. -/
def loadedCohort : List (ℕ × Bool × CohortInput ℕ) :=
  [(0, true, .load), (0, true, .passes), (0, true, .passes), (0, true, .passes), (0, true, .passes),
   (1, false, .load), (1, false, .passes), (1, false, .passes), (1, false, .passes),
   (0, true, .passes), (0, true, .passes), (0, true, .passes), (0, true, .passes),
   (0, true, .transcribe 0), (1, false, .passes), (1, false, .passes), (1, false, .passes)]

theorem lease_exclusive_loaded : ∃ c,
    Runs (ofStep cohortStep) (startCohorts twoCohorts 2) c ∧
    (c.shared.runtimes true).Unconfirmed 0 ∧ Transcribing c true ∧ Holds c true ∧
    (c.shared.runtimes false).state = .released := by
  have hexec : ((exec cohortStep (startCohorts twoCohorts 2) loadedCohort).map fun c =>
      (c.locals, (c.shared.runtimes true).made, (c.shared.runtimes true).confirmed,
        (c.shared.runtimes false).state)) =
      some ([some (true, .transcribing 0 1), none], [0], [], .released) := by
    decide +kernel
  obtain ⟨c, hc, heq⟩ := Option.map_eq_some_iff.1 hexec
  simp only [Prod.mk.injEq] at heq
  obtain ⟨hlocals, hmade, hconfirmed, hreleased⟩ := heq
  have hruns : Runs (ofStep cohortStep) (startCohorts twoCohorts 2) c :=
    runs_of_exec _ hc fun a _ _ _ _ h => ⟨a, h⟩
  have hunconfirmed : (c.shared.runtimes true).Unconfirmed 0 := by
    rw [CohortRuntime.Unconfirmed, hmade, hconfirmed]
    decide
  have htranscribing : Transcribing c true := by
    refine ⟨some (true, .transcribing 0 1), ?_, by decide⟩
    rw [hlocals]
    exact List.mem_cons_self
  obtain ⟨-, -, hholds, -⟩ := lease_exclusive twoCohorts 2 c hruns
  exact ⟨c, hruns, hunconfirmed, htranscribing, hholds true (.inr htranscribing), hreleased⟩

end Subgen

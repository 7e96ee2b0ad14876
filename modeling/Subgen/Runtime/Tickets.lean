import Subgen.Runtime.Release

/-!
# Tickets

An inference that fails carries the generation under which it was admitted. A release with
such a ticket may come late, behind other transitions and loads (`stale_tickets`).

* It unloads nothing once a transition of a later generation is complete (`Sequenced`).
* The tickets of one generation unload at most one model, and each is bound to a transition of
  a later generation (`Ticketed`). For this a ticket has to be older than the next transition
  (`Ledger.Fresh`), that is, the admission must not be closed without a new generation.

Which transition it is depends on the time: it is the last one as the ticket is redeemed.
-/

namespace Subgen

open Interleaving ModelRuntime

namespace Phase

/-- The ticket that a thread holds, or the generation that may become one. -/
def pledge : Phase → Option ℤ
  | .outside generation => generation
  | .slot g => some g
  | .locked g => some g
  | .loading g => some g
  | .loaded g => some g
  | .inference g => some g
  | .deciding call => call.source
  | _ => none

/-- The transition in which a release takes part. -/
def binding : Phase → Option (ReleaseCall × ℕ)
  | .joining call t => some (call, t)
  | .draining call t _ => some (call, t)
  | .unloading call t => some (call, t)
  | .unloaded call t _ => some (call, t)
  | .returning call t _ _ => some (call, t)
  | _ => none

/-- The release that is still to unload the model, with its transition. -/
def pending : Phase → Option (ReleaseCall × ℕ)
  | .draining call t _ => some (call, t)
  | .unloading call t => some (call, t)
  | _ => none

/-- A pending ticket is owned by its thread. -/
theorem owned_of_pending {φ : Phase} {call : ReleaseCall} {t : ℕ} (h : φ.pending = some (call, t)) :
    φ.owned = some t := by
  cases φ with
  | draining _ _ _ =>
    obtain ⟨rfl, rfl⟩ := Prod.mk.inj (Option.some.inj h)
    rfl
  | unloading _ _ =>
    obtain ⟨rfl, rfl⟩ := Prod.mk.inj (Option.some.inj h)
    rfl
  | _ => cases h

end Phase

/-! ## What one step does -/

/-- How an event comes about. -/
inductive Cause (L : Ledger) (φ : Phase) (L' : Ledger) : RuntimeEvent → Prop
  | loaded (m : ℕ) : Cause L φ L' (.loaded m)
  | ticket (g : ℤ) (h : g ∈ φ.pledge) : Cause L φ L' (.ticket g)
  | joined (call : ReleaseCall) (g : ℤ) (hφ : φ = .deciding call) (hsource : call.source = some g)
      (h : L.served (some g) = true) : Cause L φ L' (.bound g (L.transitions.length - 1))
  | owned (call : ReleaseCall) (g : ℤ) (hφ : φ = .deciding call) (hsource : call.source = some g)
      (h : L'.transitions = L.opened.transitions) : Cause L φ L' (.bound g L.transitions.length)
  | unloaded (m : ℕ) (call : ReleaseCall) (t : ℕ) (hφ : φ = .unloading call t) :
      Cause L φ L' (.unloaded m call.source t)
  | completed (call : ReleaseCall) (t : ℕ) (result : ReleaseResult)
      (hφ : φ = .returning call t 0 result) (h : L'.transitions = (L.completed t result).transitions) :
      Cause L φ L' (.completed t)

namespace Protocol

variable {config : RuntimeConfig} {L L' : Ledger} {φ φ' : Phase}

/-- A step notes at most one event, which has its cause in the state before. -/
theorem event_cases (h : Protocol config L φ L' φ') :
    L'.history = L.history ∨ ∃ e, L'.history = e :: L.history ∧ Cause L φ L' e := by
  cases h with
  | shift φ h => exact .inl h.history_eq
  | fail g h => exact .inl h.history_eq
  | forget g h => exact .inl h.history_eq
  | done call h => exact .inl h.history_eq
  | ticket g h => exact .inr ⟨_, congrArg _ h.history_eq, .ticket g rfl⟩
  | publish g => exact .inr ⟨_, rfl, .loaded _⟩
  | discard g h kept => exact .inr ⟨_, congrArg _ h.history_eq, .loaded _⟩
  | join call h =>
    cases hsource : call.source with
    | none => exact .inl rfl
    | some g => exact .inr ⟨_, rfl, .joined call g rfl hsource (hsource ▸ h)⟩
  | own call h =>
    cases hsource : call.source with
    | none => exact .inl rfl
    | some g => exact .inr ⟨_, rfl, .owned call g rfl hsource rfl⟩
  | abandon call h =>
    cases hsource : call.source with
    | none => exact .inl rfl
    | some g => exact .inr ⟨_, rfl, .owned call g rfl hsource rfl⟩
  -- An idle cleanup that is aborted unloads nothing, so that nothing is noted.
  | abort call t hidle =>
    split
    · exact .inl rfl
    · exact .inl rfl
  | @unload L₁ call t result hresult h =>
    cases hmodel : L₁.model with
    | none =>
      refine .inl ?_
      rw [Ledger.emptied, Ledger.update, Ledger.unloaded, hmodel]
      exact h.history_eq
    | some m =>
      refine .inr ⟨_, ?_, .unloaded m call t rfl⟩
      rw [Ledger.emptied, Ledger.update, Ledger.unloaded, hmodel]
      exact congrArg _ h.history_eq
  | complete call t result closed hclosed hφ => exact .inr ⟨_, rfl, .completed call t result rfl rfl⟩
  | _ => exact .inl rfl

/-- What was noted stays noted. -/
theorem history_mono (h : Protocol config L φ L' φ') {e : RuntimeEvent} (he : e ∈ L.history) :
    e ∈ L'.history := by
  rcases h.event_cases with heq | ⟨e', heq, _⟩
  · rwa [heq]
  · rw [heq]
    exact List.mem_cons_of_mem _ he

/-- A ticket is held on, or it is one of this time, or one that was given out. -/
theorem pledge_cases (h : Protocol config L φ L' φ') {g : ℤ} (hg : g ∈ φ'.pledge) :
    g ∈ φ.pledge ∨ (L.closed = false ∧ g = L.generation) ∨ g = L.commit ∨ .ticket g ∈ L.history := by
  cases h with
  | shift φ h => exact .inl hg
  | grant hopen hinactive => exact .inr (.inl ⟨hopen, (Option.some.inj hg).symm⟩)
  | commit => exact .inr (.inr (.inl (Option.some.inj hg).symm))
  | redeem g' hticket =>
    obtain rfl := Option.some.inj hg
    exact .inr (.inr (.inr hticket))
  | complete call t result closed hclosed hφ =>
    rcases hφ with rfl | ⟨rfl, _⟩ <;> cases hg
  | _ => first | exact .inl hg | cases hg

/-- A thread binds at most what it was about to bind. -/
theorem binding_cases (h : Protocol config L φ L' φ') :
    φ'.binding = none ∨ φ'.binding = φ.binding ∨
      ∃ call t, φ'.binding = some (call, t) ∧ ∀ g ∈ call.source, .bound g t ∈ L'.history := by
  have hbound : ∀ (M : Ledger) (source : Option ℤ) (t : ℕ), ∀ g ∈ source,
      RuntimeEvent.bound g t ∈ (M.bound source t).history := by
    rintro M _ t g rfl
    exact List.mem_cons_self
  cases h with
  | shift φ h => exact .inr (.inl rfl)
  | join call h => exact .inr (.inr ⟨call, _, rfl, hbound _ _ _⟩)
  | own call h => exact .inr (.inr ⟨call, _, rfl, hbound _ _ _⟩)
  | complete call t result closed hclosed hφ =>
    rcases hφ with rfl | ⟨rfl, _⟩ <;> exact .inl rfl
  | _ => first | exact .inl rfl | exact .inr (.inl rfl)

/-- A pending ticket stays so, or is the one that was just bound. -/
theorem pending_cases (h : Protocol config L φ L' φ') :
    φ'.pending = none ∨ (φ'.pending = φ.pending ∧ L'.history = L.history) ∨
      ∃ call, φ = .deciding call ∧ L.served call.source = false ∧
        φ'.pending = some (call, L.transitions.length) ∧
        L' = L.opened.bound call.source L.transitions.length := by
  cases h with
  | shift φ h => exact .inr (.inl ⟨rfl, h.history_eq⟩)
  | drain call t taken n _ _ => exact .inr (.inl ⟨rfl, rfl⟩)
  | lockRelease call t taken _ _ => exact .inr (.inl ⟨rfl, rfl⟩)
  | own call h => exact .inr (.inr ⟨call, rfl, h, rfl, rfl⟩)
  | complete call t result closed hclosed hφ =>
    rcases hφ with rfl | ⟨rfl, _⟩ <;> exact .inl rfl
  | _ => exact .inl rfl

/-- A transition keeps its generation, and it stays complete. -/
theorem transition_of_mem (h : Protocol config L φ L' φ') {i : ℕ} {r : ReleaseTransition}
    (hr : r ∈ L.transitions[i]?) :
    ∃ r' ∈ L'.transitions[i]?, r'.generation = r.generation ∧
      (r.complete = true → r'.complete = true) := by
  have hmodify : ∀ (t : ℕ) (f : ReleaseTransition → ReleaseTransition),
      (∀ r, (f r).generation = r.generation) → (∀ r, r.complete = true → (f r).complete = true) →
      ∃ r' ∈ (L.transitions.modify t f)[i]?, r'.generation = r.generation ∧
        (r.complete = true → r'.complete = true) := by
    intro t f hgeneration hcomplete
    rw [List.getElem?_modify, Option.map_eq_map]
    refine ⟨_, Option.mem_map_of_mem _ hr, ?_, ?_⟩
    · split
      · exact hgeneration r
      · rfl
    · split
      · exact hcomplete r
      · exact id
  rcases h.transitions_cases with ⟨heq, _⟩ | ⟨call, rfl, _, heq, _⟩ | ⟨call, t, _, heq, _, _⟩ |
    ⟨call, t, result, _, heq, _⟩
  · exact ⟨r, heq ▸ hr, rfl, id⟩
  · refine ⟨r, ?_, rfl, id⟩
    rw [heq, Ledger.transitions_bound, Ledger.opened]
    exact (List.getElem?_append_left (List.getElem?_eq_some_iff.1 hr).1).trans hr
  · rw [heq]
    exact hmodify t _ (fun _ => rfl) fun _ hr => hr
  · rw [heq]
    exact hmodify t (fun r => _) (fun _ => rfl) fun _ _ => rfl

/-- A transition was there before, or it is the new one. -/
theorem transition_cases (h : Protocol config L φ L' φ') {i : ℕ} {r' : ReleaseTransition}
    (hr' : r' ∈ L'.transitions[i]?) :
    (∃ r ∈ L.transitions[i]?, r'.generation = r.generation) ∨
      (i = L.transitions.length ∧ r'.generation = L.next) := by
  by_cases hlt : i < L.transitions.length
  · obtain ⟨r, hr⟩ : ∃ r, r ∈ L.transitions[i]? := ⟨_, List.getElem?_eq_getElem hlt⟩
    obtain ⟨r₁, hr₁, heq, _⟩ := h.transition_of_mem hr
    obtain rfl := Option.some.inj (hr₁.symm.trans hr')
    exact .inl ⟨r, hr, heq⟩
  · obtain ⟨hlt', _⟩ := List.getElem?_eq_some_iff.1 hr'
    rcases h.transitions_cases with ⟨heq, _⟩ | ⟨call, rfl, _, heq, _⟩ | ⟨call, t, _, heq, _, _⟩ |
      ⟨call, t, result, _, heq, _⟩
    · rw [heq] at hlt'
      omega
    · rw [heq, Ledger.transitions_bound, Ledger.opened] at hr' hlt'
      simp only [List.length_append, List.length_singleton] at hlt'
      obtain rfl : i = L.transitions.length := by omega
      rw [List.getElem?_concat_length] at hr'
      exact .inr ⟨rfl, by rw [← Option.some.inj hr']⟩
    · rw [heq, Ledger.emptied, Ledger.update, List.length_modify] at hlt'
      omega
    · rw [heq, Ledger.completed, Ledger.update, List.length_modify] at hlt'
      omega

/-- While a transition is active the admission stays as it is. -/
theorem admission_of_active (h : Protocol config L φ L' φ') (hactive : L.active = true)
    (hclosed : L.closed = true) :
    (L'.closed = true ∧ L'.generation = L.generation) ∨
      ∃ call t result, φ = .returning call t 0 result ∧
        L'.transitions = (L.completed t result).transitions := by
  have hshift : ∀ {L' : Ledger}, Shift L L' → L'.closed = true ∧ L'.generation = L.generation := by
    intro L' h
    cases h with
    | same => exact ⟨hclosed, rfl⟩
    | close hopen => exact absurd (hclosed.symm.trans hopen) Bool.true_eq_false_eq_False
    | reopen hinactive => exact absurd (hactive.symm.trans hinactive) Bool.true_eq_false_eq_False
    | direct => exact ⟨rfl, rfl⟩
  -- While a transition is active, every call finds one to join.
  have hserved : ∀ source, L.served source = true := by
    intro source
    obtain ⟨r, hr, hnot⟩ := (Option.any_eq_true _ _).1 hactive
    exact (Option.any_eq_true _ _).2 ⟨r, hr, by rw [hnot, Bool.true_or]⟩
  cases h with
  | shift φ h => exact .inl (hshift h)
  | fail g h => exact .inl (hshift h)
  | discard g h kept =>
    have hsame := hshift h
    exact .inl hsame
  | forget g h => exact .inl (hshift h)
  | ticket g h =>
    have hsame := hshift h
    exact .inl hsame
  | done call h => exact .inl (hshift h)
  | unload call t result _ h =>
    have hsame := hshift h
    exact .inl hsame
  | join call h => exact .inl ⟨(Ledger.closed_bound _ _ _).trans hclosed, Ledger.generation_bound _ _ _⟩
  -- Nobody opens a transition of his own beside the active one.
  | own call h => exact absurd ((hserved _).symm.trans h) Bool.true_eq_false_eq_False
  | abandon call h => exact absurd ((hserved _).symm.trans h) Bool.true_eq_false_eq_False
  | abort call t hidle =>
    refine .inl ?_
    split
    · exact ⟨hclosed, rfl⟩
    · exact ⟨hclosed, rfl⟩
  | complete call t result closed hclosed hφ => exact .inr ⟨call, t, result, rfl, rfl⟩
  | _ => exact .inl ⟨hclosed, rfl⟩

end Protocol

/-! ## The order of events -/

/-- What holds of an event and an earlier one: nothing is unloaded with a ticket older than a
    transition that is complete, and a ticket is bound to the last transition. -/
def Ledger.Ordered (L : Ledger) : RuntimeEvent → RuntimeEvent → Prop
  | .unloaded _ (some g) _, .completed t => ∀ r ∈ L.transitions[t]?, (r.generation : ℤ) ≤ g
  | .bound _ t, .bound _ t' => t' ≤ t
  | _, _ => True

/-- A later transition is of a later generation. -/
def Ledger.Sorted (L : Ledger) : Prop :=
  ∀ (i j : ℕ) (r r' : ReleaseTransition), i ≤ j → r ∈ L.transitions[i]? → r' ∈ L.transitions[j]? →
    r.generation ≤ r'.generation

/-- What holds along every run. -/
structure Sequenced (c : Config Ledger Phase) : Prop where
  generations : ∀ r ∈ c.shared.transitions, r.generation ≤ c.shared.generation
  sorted : c.shared.Sorted
  completed : ∀ t, .completed t ∈ c.shared.history →
    ∃ r ∈ c.shared.transitions[t]?, r.complete = true
  bound : ∀ g t, .bound g t ∈ c.shared.history → t < c.shared.transitions.length
  binding : ∀ φ ∈ c.locals, ∀ call t, φ.binding = some (call, t) → ∀ g ∈ call.source,
    .bound g t ∈ c.shared.history
  pending : ∀ φ ∈ c.locals, ∀ call t, φ.pending = some (call, t) → ∀ g ∈ call.source, ∀ i < t,
    ∀ r ∈ c.shared.transitions[i]?, (r.generation : ℤ) ≤ g
  ordered : c.shared.history.Pairwise c.shared.Ordered

/-- A ticket that the last transition does not serve is not older than any transition. -/
theorem Ledger.Sorted.le_of_served {L : Ledger} {g : ℤ} (hsorted : L.Sorted)
    (h : L.served (some g) = false) {i : ℕ} {r : ReleaseTransition} (hr : r ∈ L.transitions[i]?) :
    (r.generation : ℤ) ≤ g := by
  obtain ⟨hlt, _⟩ := List.getElem?_eq_some_iff.1 hr
  obtain ⟨l, hl⟩ : ∃ l, l ∈ L.transitions[L.transitions.length - 1]? :=
    ⟨_, List.getElem?_eq_getElem (by omega)⟩
  have hle := hsorted i _ r l (by omega) hr hl
  rw [served, last, List.getLast?_eq_getElem?, hl, Option.any_some, Bool.or_eq_false_iff] at h
  have hnot : ¬ g < l.generation := by simpa using h.2
  omega

/-- The generations of the tickets are sorted. -/
theorem Protocol.sorted {config : RuntimeConfig} {L L' : Ledger} {φ φ' : Phase}
    (h : Protocol config L φ L' φ') (hgenerations : ∀ r ∈ L.transitions, r.generation ≤ L.generation)
    (hsorted : L.Sorted) : L'.Sorted := by
  intro i j r r' hij hr hr'
  rcases h.transition_cases hr with ⟨r₀, hr₀, heq⟩ | ⟨hi, heq⟩ <;>
    rcases h.transition_cases hr' with ⟨r₁, hr₁, heq'⟩ | ⟨hj, heq'⟩
  · rw [heq, heq']
    exact hsorted i j r₀ r₁ hij hr₀ hr₁
  · rw [heq, heq']
    exact (hgenerations r₀ (List.mem_of_getElem? hr₀)).trans L.generation_le_next
  · obtain ⟨hlt, _⟩ := List.getElem?_eq_some_iff.1 hr₁
    omega
  · rw [heq, heq']

namespace Sequenced

variable {config : RuntimeConfig} {c c' : Config Ledger Phase} {i : ℕ} {φ φ' : Phase}

/-- A completed ticket is one of the transitions that are over. -/
theorem moves_completed (h : Sequenced c) (howned : Owned c)
    (hmoves : Moves (Protocol config) c c' i φ φ') (t : ℕ) (ht : .completed t ∈ c'.shared.history) :
    ∃ r ∈ c'.shared.transitions[t]?, r.complete = true := by
  have hold : .completed t ∈ c.shared.history → ∃ r ∈ c'.shared.transitions[t]?, r.complete = true := by
    intro ht
    obtain ⟨r, hr, hcomplete⟩ := h.completed t ht
    obtain ⟨r', hr', _, hcomplete'⟩ := hmoves.step.transition_of_mem hr
    exact ⟨r', hr', hcomplete' hcomplete⟩
  rcases hmoves.step.event_cases with heq | ⟨e, heq, hcause⟩
  · exact hold (heq ▸ ht)
  · rcases List.mem_cons.1 (heq ▸ ht) with rfl | ht
    · cases hcause with
      | completed call t result hφ htransitions =>
        have hlength := howned.length_of_owned hmoves.thread (t := t) (by rw [hφ]; rfl)
        rw [htransitions, Ledger.completed, Ledger.update, List.getElem?_modify_eq,
          List.getElem?_eq_getElem (show t < c.shared.transitions.length by omega)]
        exact ⟨_, rfl, rfl⟩
    · exact hold ht

/-- A ticket that was bound is in the list. -/
theorem moves_bound (h : Sequenced c) (hmoves : Moves (Protocol config) c c' i φ φ') (g : ℤ) (t : ℕ)
    (ht : .bound g t ∈ c'.shared.history) : t < c'.shared.transitions.length := by
  have hkept : ∀ {j}, j < c.shared.transitions.length → j < c'.shared.transitions.length := by
    intro j hj
    obtain ⟨r', hr', _⟩ := hmoves.step.transition_of_mem (List.getElem?_eq_getElem hj)
    exact (List.getElem?_eq_some_iff.1 hr').1
  rcases hmoves.step.event_cases with heq | ⟨e, heq, hcause⟩
  · exact hkept (h.bound g t (heq ▸ ht))
  · rcases List.mem_cons.1 (heq ▸ ht) with rfl | ht
    · cases hcause with
      | joined call g hφ hsource hserved =>
        refine hkept ?_
        obtain ⟨r, hr, _⟩ := (Option.any_eq_true _ _).1 hserved
        have hlt := List.length_pos_of_mem (Ledger.mem_of_last hr)
        omega
      | owned call g hφ hsource htransitions =>
        rw [htransitions, Ledger.opened]
        simp
    · exact hkept (h.bound g t ht)

/-- A thread that is about to bind knows a ticket of the list. -/
theorem moves_binding (h : Sequenced c) (hmoves : Moves (Protocol config) c c' i φ φ') :
    ∀ ψ ∈ c'.locals, ∀ call t, ψ.binding = some (call, t) → ∀ g ∈ call.source,
      .bound g t ∈ c'.shared.history := by
  rw [hmoves.locals]
  have hold : ∀ ψ ∈ c.locals, ∀ call t, ψ.binding = some (call, t) → ∀ g ∈ call.source,
      .bound g t ∈ c'.shared.history := fun ψ hψ call t hbinding g hg =>
    hmoves.step.history_mono (h.binding ψ hψ call t hbinding g hg)
  refine forall_mem_set ?_ fun j ψ _ hj => hold ψ (List.mem_of_getElem? hj)
  intro call t hbinding
  rcases hmoves.step.binding_cases with hnone | hsame | ⟨call', t', hnew, hbound⟩
  · rw [hnone] at hbinding
    cases hbinding
  · exact hold φ (List.mem_of_getElem? hmoves.thread) call t (hsame ▸ hbinding)
  · rw [hnew] at hbinding
    obtain ⟨rfl, rfl⟩ := Prod.mk.inj (Option.some.inj hbinding)
    exact hbound

/-- So does a thread with a pending ticket. -/
theorem moves_pending (h : Sequenced c) (howned : Owned c)
    (hmoves : Moves (Protocol config) c c' i φ φ') :
    ∀ ψ ∈ c'.locals, ∀ call t, ψ.pending = some (call, t) → ∀ g ∈ call.source, ∀ j < t,
      ∀ r ∈ c'.shared.transitions[j]?, (r.generation : ℤ) ≤ g := by
  rw [hmoves.locals]
  have hold : ∀ ψ ∈ c.locals, ∀ call t, ψ.pending = some (call, t) → ∀ g ∈ call.source, ∀ j < t,
      ∀ r ∈ c'.shared.transitions[j]?, (r.generation : ℤ) ≤ g := by
    intro ψ hψ call t hpending g hg j hj r hr
    rcases hmoves.step.transition_cases hr with ⟨r₀, hr₀, heq⟩ | ⟨hlength, _⟩
    · rw [heq]
      exact h.pending ψ hψ call t hpending g hg j hj r₀ hr₀
    · have := howned.last ψ hψ t (Phase.owned_of_pending hpending)
      omega
  refine forall_mem_set ?_ fun j ψ _ hj => hold ψ (List.mem_of_getElem? hj)
  intro call t hpending g hg j hj r hr
  rcases hmoves.step.pending_cases with hnone | ⟨hsame, _⟩ | ⟨call', _, hserved, hnew, _⟩
  · rw [hnone] at hpending
    cases hpending
  · exact hold φ (List.mem_of_getElem? hmoves.thread) call t (hsame ▸ hpending) g hg j hj r hr
  · rw [hnew] at hpending
    obtain ⟨rfl, rfl⟩ := Prod.mk.inj (Option.some.inj hpending)
    rw [hg] at hserved
    rcases hmoves.step.transition_cases hr with ⟨r₀, hr₀, heq⟩ | ⟨hlength, _⟩
    · rw [heq]
      exact h.sorted.le_of_served hserved hr₀
    · omega

/-- The transitions come one after the other. -/
theorem moves_ordered (h : Sequenced c) (howned : Owned c)
    (hmoves : Moves (Protocol config) c c' i φ φ') :
    c'.shared.history.Pairwise c'.shared.Ordered := by
  -- The transition of a completion was there before, and keeps its generation.
  have hkept : ∀ {t g}, .completed t ∈ c.shared.history →
      (∀ r ∈ c.shared.transitions[t]?, (r.generation : ℤ) ≤ g) →
      ∀ r ∈ c'.shared.transitions[t]?, (r.generation : ℤ) ≤ g := by
    intro t g ht hle r hr
    rcases hmoves.step.transition_cases hr with ⟨r₀, hr₀, heq⟩ | ⟨hlength, _⟩
    · rw [heq]
      exact hle r₀ hr₀
    · obtain ⟨r₀, hr₀, _⟩ := h.completed t ht
      obtain ⟨hlt, _⟩ := List.getElem?_eq_some_iff.1 hr₀
      omega
  have hold : c.shared.history.Pairwise c'.shared.Ordered := by
    refine h.ordered.imp_of_mem fun {new old} _ hold hordered => ?_
    cases new with
    | unloaded m source t =>
      cases source with
      | none => exact trivial
      | some g =>
        cases old with
        | completed t' => exact hkept hold hordered
        | _ => exact trivial
    | bound g t => cases old <;> exact hordered
    | _ => exact trivial
  rcases hmoves.step.event_cases with heq | ⟨e, heq, hcause⟩
  · rwa [heq]
  · rw [heq]
    refine List.pairwise_cons.2 ⟨fun old hmem => ?_, hold⟩
    cases hcause with
    | loaded m => exact trivial
    | ticket g _ => exact trivial
    | completed call t result _ _ => exact trivial
    | joined call g hφ hsource hserved =>
      cases old with
      | bound g' t' =>
        have := h.bound g' t' hmem
        exact Nat.le_sub_one_of_lt this
      | _ => exact trivial
    | owned call g hφ hsource _ =>
      cases old with
      | bound g' t' => exact (h.bound g' t' hmem).le
      | _ => exact trivial
    | unloaded m call t hφ =>
      cases hsource : call.source with
      | none => exact trivial
      | some g =>
        cases old with
        | completed t' =>
          refine hkept hmem fun r hr => ?_
          -- The transition of the owner is the last one, and it is not complete.
          have ht : t' < t := by
            have hlength := howned.length_of_owned hmoves.thread (t := t) (by rw [hφ]; rfl)
            have hactive := howned.active hmoves.thread (t := t) (by rw [hφ]; rfl)
            obtain ⟨r₀, hr₀, hcomplete⟩ := h.completed t' hmem
            obtain ⟨hlt, _⟩ := List.getElem?_eq_some_iff.1 hr₀
            by_contra hnot
            obtain rfl : t' = c.shared.transitions.length - 1 := by omega
            rw [Ledger.active, Ledger.last, List.getLast?_eq_getElem?, hr₀, Option.any_some,
              hcomplete] at hactive
            cases hactive
          exact h.pending φ (List.mem_of_getElem? hmoves.thread) call t (by rw [hφ]; rfl) g hsource t'
            ht r hr
        | _ => exact trivial

/-- All of it is kept by a step. -/
theorem moves (h : Sequenced c) (howned : Owned c) (hmoves : Moves (Protocol config) c c' i φ φ') :
    Sequenced c' :=
  ⟨hmoves.step.generations h.generations, hmoves.step.sorted h.generations h.sorted,
    h.moves_completed howned hmoves, h.moves_bound hmoves, h.moves_binding hmoves,
    h.moves_pending howned hmoves, h.moves_ordered howned hmoves⟩

end Sequenced

/-! ## Tickets of one generation -/

/-- A ticket that the next transition is going to be newer than. -/
def Ledger.Fresh (L : Ledger) (g : ℤ) : Prop :=
  g ≤ L.generation ∧ (L.closed = true → g < L.generation)

/-- A transition of a later generation than the ticket. -/
def Ledger.Newer (L : Ledger) (g : ℤ) (t : ℕ) : Prop := ∃ r ∈ L.transitions[t]?, g < r.generation

namespace Ledger

variable {L L' : Ledger} {g : ℤ}

/-- The generation of an open runtime is fresh. -/
theorem fresh_generation (h : L.closed = false) : L.Fresh L.generation :=
  ⟨le_rfl, fun hclosed => absurd (hclosed.symm.trans h) Bool.true_eq_false_eq_False⟩

/-- So is the one that is committed next. -/
theorem fresh_commit (L : Ledger) : L.Fresh L.commit := by
  rw [commit]
  split
  · exact ⟨by omega, fun _ => by omega⟩
  · next h => exact ⟨le_rfl, fun hclosed => absurd hclosed h⟩

/-- A ticket stays fresh if the admission is closed with a new generation only. -/
theorem Fresh.mono (h : L.Fresh g) (hle : L.generation ≤ L'.generation) (hdirect : ¬ L.Direct L') :
    L'.Fresh g := by
  refine ⟨h.1.trans (by exact_mod_cast hle), fun hclosed' => ?_⟩
  cases hclosed : L.closed with
  | true => exact (h.2 hclosed).trans_le (by exact_mod_cast hle)
  | false =>
    have hne : L'.generation ≠ L.generation := fun heq => hdirect ⟨hclosed, hclosed', heq⟩
    have := h.1
    omega

/-- A fresh generation is below the next one. -/
theorem Fresh.lt_next (h : L.Fresh g) : g < L.next := by
  cases hclosed : L.closed with
  | true =>
    have := h.2 hclosed
    have := L.generation_le_next
    omega
  | false =>
    have := h.1
    rw [next, hclosed, Bool.not_false, Bool.true_or, if_pos rfl]
    omega

end Ledger

/-- A step that does not close the admission without a new generation. -/
structure Advancing (config : RuntimeConfig) (L : Ledger) (φ : Phase) (L' : Ledger) (φ' : Phase) :
    Prop where
  protocol : Protocol config L φ L' φ'
  direct : ¬ L.Direct L'

/-- What holds of tickets along the runs of such steps. -/
structure Ticketed (c : Config Ledger Phase) : Prop where
  pledges : ∀ φ ∈ c.locals, ∀ g ∈ φ.pledge, c.shared.Fresh g
  tickets : ∀ g, .ticket g ∈ c.shared.history → c.shared.Fresh g
  active : c.shared.active = true →
    c.shared.closed = true ∧ ∀ r ∈ c.shared.last, r.generation = c.shared.generation
  bound : ∀ g t, .bound g t ∈ c.shared.history → c.shared.Newer g t
  pending : ∀ φ ∈ c.locals, ∀ call t, φ.pending = some (call, t) → ∀ g ∈ call.source,
    c.shared.Newer g t ∧ ∀ m t', .unloaded m (some g) t' ∉ c.shared.history
  unloaded : ∀ m g t, .unloaded m (some g) t ∈ c.shared.history → c.shared.Newer g t
  once : c.shared.history.Pairwise fun new old =>
    ∀ m m' g t t', new = .unloaded m (some g) t → old ≠ .unloaded m' (some g) t'

/-- A generation that is newer than all tickets stays so. -/
theorem Protocol.newer {config : RuntimeConfig} {L L' : Ledger} {φ φ' : Phase}
    (h : Protocol config L φ L' φ') {g : ℤ} {t : ℕ} (hnewer : L.Newer g t) : L'.Newer g t := by
  obtain ⟨r, hr, hlt⟩ := hnewer
  obtain ⟨r', hr', heq, _⟩ := h.transition_of_mem hr
  exact ⟨r', hr', heq ▸ hlt⟩

namespace Ticketed

variable {config : RuntimeConfig} {c c' : Config Ledger Phase} {i : ℕ} {φ φ' : Phase}

/-- A fresh generation stays fresh while it is not released. -/
theorem fresh_moves {g : ℤ} (hmoves : Moves (Advancing config) c c' i φ φ')
    (h : c.shared.Fresh g) : c'.shared.Fresh g :=
  h.mono hmoves.step.protocol.generation_le hmoves.step.direct

/-- What a thread has pledged itself to is fresh. -/
theorem moves_pledges (h : Ticketed c) (hmoves : Moves (Advancing config) c c' i φ φ') :
    ∀ ψ ∈ c'.locals, ∀ g ∈ ψ.pledge, c'.shared.Fresh g := by
  rw [hmoves.locals]
  refine forall_mem_set (fun g hg => fresh_moves hmoves ?_) fun j ψ _ hj g hg =>
    fresh_moves hmoves (h.pledges ψ (List.mem_of_getElem? hj) g hg)
  rcases hmoves.step.protocol.pledge_cases hg with hheld | ⟨hopen, rfl⟩ | rfl | hticket
  · exact h.pledges φ (List.mem_of_getElem? hmoves.thread) g hheld
  · exact Ledger.fresh_generation hopen
  · exact c.shared.fresh_commit
  · exact h.tickets g hticket

/-- The tickets are not newer than the generation. -/
theorem moves_tickets (h : Ticketed c) (hmoves : Moves (Advancing config) c c' i φ φ') (g : ℤ)
    (hg : .ticket g ∈ c'.shared.history) : c'.shared.Fresh g := by
  refine fresh_moves hmoves ?_
  rcases hmoves.step.protocol.event_cases with heq | ⟨e, heq, hcause⟩
  · exact h.tickets g (heq ▸ hg)
  · rcases List.mem_cons.1 (heq ▸ hg) with rfl | hg
    · cases hcause with
      | ticket g hheld => exact h.pledges φ (List.mem_of_getElem? hmoves.thread) g hheld
    · exact h.tickets g hg

/-- The active transition is the newest one. -/
theorem moves_active (h : Ticketed c) (howned : Owned c)
    (hmoves : Moves (Advancing config) c c' i φ φ') (hactive' : c'.shared.active = true) :
    c'.shared.closed = true ∧ ∀ r ∈ c'.shared.last, r.generation = c'.shared.generation := by
  have hstep := hmoves.step.protocol
  rcases hstep.transitions_cases with ⟨heq, _⟩ | ⟨call, _, _, heq, _⟩ | ⟨call, t, rfl, heq, _, _⟩ |
    ⟨call, t, result, rfl, heq, _⟩
  · have hactive : c.shared.active = true := Ledger.active_of_congr heq ▸ hactive'
    obtain ⟨hclosed, hlast⟩ := h.active hactive
    rcases hstep.admission_of_active hactive hclosed with ⟨hclosed', hsame⟩ | ⟨call, t, result, rfl, heq'⟩
    · rw [Ledger.last, heq, hsame]
      exact ⟨hclosed', hlast⟩
    · rw [Ledger.active_of_congr heq',
        Ledger.active_completed (howned.length_of_owned hmoves.thread rfl)] at hactive'
      cases hactive'
  · -- A new transition is behind a closed admission, and it has its generation.
    rw [heq, Ledger.closed_bound, Ledger.generation_bound]
    refine ⟨rfl, fun r hr => ?_⟩
    rw [Ledger.last, Ledger.transitions_bound] at hr
    rw [← Option.some.inj (c.shared.last_opened.symm.trans hr)]
    rfl
  · have hlength := howned.length_of_owned hmoves.thread (t := t) rfl
    have hactive := howned.active hmoves.thread (t := t) rfl
    obtain ⟨hclosed, hlast⟩ := h.active hactive
    rcases hstep.admission_of_active hactive hclosed with ⟨hclosed', hsame⟩ | ⟨_, _, _, hφ, _⟩
    · refine ⟨hclosed', fun r hr => ?_⟩
      have hmap : c'.shared.last = (c.shared.emptied t).last := by rw [Ledger.last, heq, Ledger.last]
      rw [hmap, Ledger.emptied, Ledger.last_update hlength] at hr
      obtain ⟨r₀, hr₀, rfl⟩ := Option.map_eq_some_iff.1 hr
      rw [hsame]
      exact hlast r₀ hr₀
    · cases hφ
  · rw [Ledger.active_of_congr heq,
      Ledger.active_completed (howned.length_of_owned hmoves.thread rfl)] at hactive'
    cases hactive'

/-- The last transition is newer than a ticket that it serves. -/
theorem newer_of_served (h : Ticketed c) {g : ℤ} (hg : c.shared.Fresh g)
    (hserved : c.shared.served (some g) = true) :
    c.shared.Newer g (c.shared.transitions.length - 1) := by
  obtain ⟨r, hr, hserves⟩ := (Option.any_eq_true _ _).1 hserved
  refine ⟨r, by rwa [← List.getLast?_eq_getElem?], ?_⟩
  cases hcomplete : r.complete with
  | true => simpa [hcomplete] using hserves
  | false =>
    have hactive : c.shared.active = true :=
      (Option.any_eq_true _ _).2 ⟨r, hr, by rw [hcomplete]; rfl⟩
    obtain ⟨hclosed, hlast⟩ := h.active hactive
    rw [hlast r hr]
    exact hg.2 hclosed

/-- A ticket is bound to a transition of its generation. -/
theorem moves_bound (h : Ticketed c) (hmoves : Moves (Advancing config) c c' i φ φ') (g : ℤ) (t : ℕ)
    (ht : .bound g t ∈ c'.shared.history) : c'.shared.Newer g t := by
  have hstep := hmoves.step.protocol
  rcases hstep.event_cases with heq | ⟨e, heq, hcause⟩
  · exact hstep.newer (h.bound g t (heq ▸ ht))
  · rcases List.mem_cons.1 (heq ▸ ht) with rfl | ht
    · have hfresh : ∀ call : ReleaseCall, φ = .deciding call → call.source = some g → c.shared.Fresh g :=
        fun call hφ hsource =>
          h.pledges φ (List.mem_of_getElem? hmoves.thread) g (by rw [hφ]; exact hsource)
      cases hcause with
      | joined call g hφ hsource hserved =>
        exact hstep.newer (h.newer_of_served (hfresh call hφ hsource) hserved)
      | owned call g hφ hsource htransitions =>
        rw [Ledger.Newer, htransitions, Ledger.opened]
        exact ⟨_, List.getElem?_concat_length, (hfresh call hφ hsource).lt_next⟩
    · exact hstep.newer (h.bound g t ht)

/-- A model is unloaded under a ticket that was bound. -/
theorem moves_unloaded (h : Ticketed c) (hmoves : Moves (Advancing config) c c' i φ φ') (m : ℕ)
    (g : ℤ) (t : ℕ) (ht : .unloaded m (some g) t ∈ c'.shared.history) : c'.shared.Newer g t := by
  have hstep := hmoves.step.protocol
  refine hstep.newer ?_
  rcases hstep.event_cases with heq | ⟨e, heq, hcause⟩
  · exact h.unloaded m g t (heq ▸ ht)
  · rcases List.mem_cons.1 (heq ▸ ht) with he | ht
    · cases hcause with
      | unloaded m' call t' hφ =>
        obtain ⟨rfl, hsource, rfl⟩ := RuntimeEvent.unloaded.inj he
        exact (h.pending φ (List.mem_of_getElem? hmoves.thread) call t (by rw [hφ]; rfl) g
          hsource.symm).1
      | _ => cases he
    · exact h.unloaded m g t ht

/-- A pending ticket has unloaded nothing yet. -/
theorem moves_pending (h : Ticketed c) (hsequenced : Sequenced c) (howned : Owned c)
    (hmoves : Moves (Advancing config) c c' i φ φ') :
    ∀ ψ ∈ c'.locals, ∀ call t, ψ.pending = some (call, t) → ∀ g ∈ call.source,
      c'.shared.Newer g t ∧ ∀ m t', .unloaded m (some g) t' ∉ c'.shared.history := by
  have hstep := hmoves.step.protocol
  rw [hmoves.locals]
  refine forall_mem_set ?_ fun j ψ hji hj call t hpending g hg => ?_
  · intro call t hpending g hg
    rcases hstep.pending_cases with hnone | ⟨hsame, hhistory⟩ | ⟨call', rfl, hserved, hnew, heq⟩
    · rw [hnone] at hpending
      cases hpending
    · obtain ⟨hnewer, hnot⟩ := h.pending φ (List.mem_of_getElem? hmoves.thread) call t
        (hsame ▸ hpending) g hg
      exact ⟨hstep.newer hnewer, hhistory ▸ hnot⟩
    · rw [hnew] at hpending
      obtain ⟨rfl, rfl⟩ := Prod.mk.inj (Option.some.inj hpending)
      have hfresh := h.pledges _ (List.mem_of_getElem? hmoves.thread) g hg
      rw [heq]
      refine ⟨?_, fun m t' hmem => ?_⟩
      · rw [Ledger.Newer, Ledger.transitions_bound, Ledger.opened]
        exact ⟨_, List.getElem?_concat_length, hfresh.lt_next⟩
      · -- Another release with this ticket would have left a newer transition.
        have hmem' : .unloaded m (some g) t' ∈ c.shared.history := by
          rw [show call'.source = some g from hg] at hmem
          exact (List.mem_cons.1 hmem).resolve_left RuntimeEvent.noConfusion
        obtain ⟨r, hr, hlt⟩ := h.unloaded m g t' hmem'
        rw [show call'.source = some g from hg] at hserved
        have := hsequenced.sorted.le_of_served hserved hr
        omega
  · obtain ⟨hnewer, hnot⟩ := h.pending ψ (List.mem_of_getElem? hj) call t hpending g hg
    refine ⟨hstep.newer hnewer, fun m t' hmem => ?_⟩
    rcases hstep.event_cases with heq | ⟨e, heq, hcause⟩
    · exact hnot m t' (heq ▸ hmem)
    · rcases List.mem_cons.1 (heq ▸ hmem) with he | hmem
      · cases hcause with
        | unloaded m' call' t'' hφ =>
          -- There is no other owner.
          have hnone := howned.eq_none hmoves.thread (t := t'') (by rw [hφ]; rfl) hji hj
          rw [Phase.owned_of_pending hpending] at hnone
          cases hnone
        | _ => cases he
      · exact hnot m t' hmem

/-- A transition unloads at most once. -/
theorem moves_once (h : Ticketed c) (hmoves : Moves (Advancing config) c c' i φ φ') :
    c'.shared.history.Pairwise fun new old =>
      ∀ m m' g t t', new = .unloaded m (some g) t → old ≠ .unloaded m' (some g) t' := by
  rcases hmoves.step.protocol.event_cases with heq | ⟨e, heq, hcause⟩
  · rw [heq]
    exact h.once
  · rw [heq]
    refine List.pairwise_cons.2 ⟨fun old hmem m m' g t t' he hold => ?_, h.once⟩
    cases hcause with
    | unloaded m₁ call t₁ hφ =>
      obtain ⟨rfl, hsource, rfl⟩ := RuntimeEvent.unloaded.inj he
      exact (h.pending φ (List.mem_of_getElem? hmoves.thread) call t₁ (by rw [hφ]; rfl) g hsource).2
        m' t' (hold ▸ hmem)
    | _ => cases he

/-- All of it is kept by a step in which the generations advance. -/
theorem moves (h : Ticketed c) (hsequenced : Sequenced c) (howned : Owned c)
    (hmoves : Moves (Advancing config) c c' i φ φ') : Ticketed c' :=
  ⟨h.moves_pledges hmoves, h.moves_tickets hmoves, h.moves_active howned hmoves, h.moves_bound hmoves,
    h.moves_pending hsequenced howned hmoves, h.moves_unloaded hmoves, h.moves_once hmoves⟩

end Ticketed

/-! ## Runs of the runtime -/

/-- The steps that do not close an open admission without a new generation. -/
def advancingStep (config : RuntimeConfig) (ch : Choice) (s : ModelRuntime) (th : RuntimeThread) :
    Option (ModelRuntime × RuntimeThread) :=
  if s.closesDirectly config ch th.point then none else threadStep config ch s th

/-- Such a step is a step of a thread. -/
theorem threadStep_of_advancingStep {config : RuntimeConfig} {ch : Choice} {s : ModelRuntime}
    {th : RuntimeThread} {r : ModelRuntime × RuntimeThread} (h : advancingStep config ch s th = some r) :
    s.closesDirectly config ch th.point = false ∧ threadStep config ch s th = some r := by
  rw [advancingStep] at h
  split at h
  · cases h
  · next hnot => exact ⟨by simpa using hnot, h⟩

/-- It is one of the protocol, and the generations advance. -/
theorem advancing_of_advancingStep {config : RuntimeConfig} {s s' : ModelRuntime}
    {th th' : RuntimeThread} (h : ofStep (advancingStep config) s th s' th') :
    Advancing config s.ledger (th.point.phase config) s'.ledger (th'.point.phase config) := by
  obtain ⟨ch, h⟩ := h
  obtain ⟨hnot, h⟩ := threadStep_of_advancingStep h
  refine ⟨protocol_of_threadStep ⟨ch, h⟩, ?_⟩
  rintro ⟨hopen, hclosed, hgeneration⟩
  obtain ⟨⟨s₁, p₁⟩, hstep, heq⟩ := Option.map_eq_some_iff.1 h
  obtain ⟨rfl, rfl⟩ := Prod.mk.inj heq
  simp only [ledger] at hopen hclosed hgeneration
  rw [closesDirectly, hstep, Option.any_some, hopen, hclosed, hgeneration, decide_eq_true rfl] at hnot
  cases hnot

/-- At first there are no tickets. -/
theorem sequenced_start (config : RuntimeConfig) (n : ℕ) :
    Sequenced (runtimePhases config (startThreads config n)) := by
  have hlocals : ∀ φ ∈ (runtimePhases config (startThreads config n)).locals, φ = .outside none := by
    intro φ hφ
    simp only [runtimePhases, startThreads, Config.map, List.map_replicate] at hφ
    exact List.eq_of_mem_replicate hφ
  refine ⟨?_, ?_, ?_, ?_, ?_, ?_, .nil⟩
  · rintro r ⟨⟩
  · rintro i j r r' _ ⟨⟩
  · rintro t ⟨⟩
  · rintro g t ⟨⟩
  · intro φ hφ call t hbinding
    rw [hlocals φ hφ] at hbinding
    cases hbinding
  · intro φ hφ call t hpending
    rw [hlocals φ hφ] at hpending
    cases hpending

/-- At first nothing is bound. -/
theorem ticketed_start (config : RuntimeConfig) (n : ℕ) :
    Ticketed (runtimePhases config (startThreads config n)) := by
  have hlocals : ∀ φ ∈ (runtimePhases config (startThreads config n)).locals, φ = .outside none := by
    intro φ hφ
    simp only [runtimePhases, startThreads, Config.map, List.map_replicate] at hφ
    exact List.eq_of_mem_replicate hφ
  refine ⟨?_, ?_, ?_, ?_, ?_, ?_, .nil⟩
  · intro φ hφ g hg
    rw [hlocals φ hφ] at hg
    cases hg
  · rintro g ⟨⟩
  · rintro ⟨⟩
  · rintro g t ⟨⟩
  · intro φ hφ call t hpending
    rw [hlocals φ hφ] at hpending
    cases hpending
  · rintro m g t ⟨⟩

/-- The transitions are sequenced in every run. -/
theorem sequenced_of_runs {config : RuntimeConfig} {n : ℕ} {c : Config ModelRuntime RuntimeThread}
    (h : Runs (ofStep (threadStep config)) (startThreads config n) c) :
    Sequenced (runtimePhases config c) := by
  have hruns : Runs (Protocol config) _ (runtimePhases config c) :=
    h.map fun _ _ _ _ hstep => protocol_of_threadStep hstep
  refine (hruns.invariant (I := fun c => Owned c ∧ Sequenced c)
    ⟨owned_start config n, sequenced_start config n⟩ ?_).2
  rintro c c' i φ φ' ⟨howned, hsequenced⟩ hmoves
  exact ⟨howned.moves hmoves, hsequenced.moves howned hmoves⟩

/-- The tickets are bound rightly in every run in which the generations advance. -/
theorem ticketed_of_runs {config : RuntimeConfig} {n : ℕ} {c : Config ModelRuntime RuntimeThread}
    (h : Runs (ofStep (advancingStep config)) (startThreads config n) c) :
    Ticketed (runtimePhases config c) := by
  have hruns : Runs (Advancing config) _ (runtimePhases config c) :=
    h.map fun _ _ _ _ hstep => advancing_of_advancingStep hstep
  refine (hruns.invariant (I := fun c => Owned c ∧ Sequenced c ∧ Ticketed c)
    ⟨owned_start config n, sequenced_start config n, ticketed_start config n⟩ ?_).2.2
  rintro c c' i φ φ' ⟨howned, hsequenced, hticketed⟩ hmoves
  have hprotocol : Moves (Protocol config) c c' i φ φ' :=
    ⟨hmoves.thread, hmoves.step.protocol, hmoves.locals⟩
  exact ⟨howned.moves hprotocol, hsequenced.moves howned hprotocol,
    hticketed.moves hsequenced howned hmoves⟩

/-- A release with a ticket unloads no model that was loaded behind a transition of a later
    generation. It takes part in the transition to which its ticket was bound, the last one at
    that time. If the admission is not closed without a new generation, that transition is of a
    later generation than the ticket, and all tickets of one generation unload one model at
    most. -/
theorem stale_tickets (config : RuntimeConfig) (n : ℕ) (c : Config ModelRuntime RuntimeThread)
    (h : Runs (ofStep (threadStep config)) (startThreads config n) c) :
    (∀ m g t t' r, [.unloaded m (some g) t, .loaded m, .completed t'].Sublist c.shared.history →
      c.shared.transitions[t']? = some r → (r.generation : ℤ) ≤ g) ∧
    (∀ th ∈ c.locals, ∀ call g t, th.point = .joining call t → call.source = some g →
      .bound g t ∈ c.shared.history) ∧
    (∀ g g' t t', [.bound g t, .bound g' t'].Sublist c.shared.history → t' ≤ t) ∧
    (Runs (ofStep (advancingStep config)) (startThreads config n) c →
      (∀ g t, .bound g t ∈ c.shared.history →
        ∃ r, c.shared.transitions[t]? = some r ∧ g < r.generation) ∧
      ∀ m m' g t t', ¬ [.unloaded m (some g) t, .unloaded m' (some g) t'].Sublist c.shared.history) := by
  -- All of this is about pairs of events in the history, which is ordered.
  have hsequenced := sequenced_of_runs h
  refine ⟨fun m g t t' r hsub hr => ?_, fun th hth call g t hpoint hsource => ?_,
    fun g g' t t' hsub => ?_, fun hadvancing => ⟨fun g t ht => ?_, fun m m' g t t' hsub => ?_⟩⟩
  · have hpair := hsequenced.ordered.sublist hsub
    exact (List.pairwise_cons.1 hpair).1 (.completed t') (by simp) r hr
  · have hmem : Phase.joining call t ∈ (runtimePhases config c).locals := by
      refine List.mem_map.2 ⟨th, hth, ?_⟩
      rw [hpoint]
      rfl
    exact hsequenced.binding _ hmem call t rfl g hsource
  · have hpair := hsequenced.ordered.sublist hsub
    exact (List.pairwise_cons.1 hpair).1 (.bound g' t') (by simp)
  · exact (ticketed_of_runs hadvancing).bound g t ht
  · have hpair := (ticketed_of_runs hadvancing).once.sublist hsub
    exact (List.pairwise_cons.1 hpair).1 (.unloaded m' (some g) t') (by simp) m m' g t t' rfl rfl

/-- Two permits. -/
def twoPermits : RuntimeConfig := ⟨2, false, by decide⟩

/-- Two inferences end with a ticket of generation 0. One of them unloads the model, then there is
    another transition, and the other one comes late. -/
def lateTicket : List (ℕ × Choice) :=
  (0, { call := .reopenModelAdmission }) :: toInference 0 ++ toInference 1 ++
    (0, { inference := .pressure }) :: (1, { inference := .pressure }) :: proceed 0 3 ++ proceed 1 3 ++
    (0, { call := .releaseAfterInferenceFailure 0 }) :: proceed 0 12 ++
    (0, { call := .reopenModelAdmission }) :: (0, { call := .releaseModel false }) :: proceed 0 12 ++
    (1, { call := .releaseAfterInferenceFailure 0 }) :: proceed 1 1

/-- What is left behind these steps. -/
theorem lateTicket_bound :
    ((exec (advancingStep twoPermits) (startThreads twoPermits 2) lateTicket).map fun c =>
      (c.shared.history.filter fun e => e matches .bound _ _,
        c.shared.transitions.map fun r => (r.complete, r.didUnload))) =
        some ([.bound 0 1, .bound 0 0], [(true, true), (true, false)]) := by
  decide +kernel

/-- A late ticket in such a run: it observes the transition that another one began. -/
theorem stale_tickets_late :
    ∃ c, Runs (ofStep (threadStep twoPermits)) (startThreads twoPermits 2) c ∧
      Runs (ofStep (advancingStep twoPermits)) (startThreads twoPermits 2) c ∧
      .bound 0 1 ∈ c.shared.history ∧ ∃ r, c.shared.transitions[1]? = some r ∧ (0 : ℤ) < r.generation := by
  obtain ⟨c, hc, heq⟩ := Option.map_eq_some_iff.1 lateTicket_bound
  have hruns : Runs (ofStep (threadStep twoPermits)) (startThreads twoPermits 2) c :=
    runs_of_exec _ hc fun a _ _ _ _ h => ⟨a, (threadStep_of_advancingStep h).2⟩
  have hadvancing : Runs (ofStep (advancingStep twoPermits)) (startThreads twoPermits 2) c :=
    runs_of_exec _ hc fun a _ _ _ _ h => ⟨a, h⟩
  have hbound : RuntimeEvent.bound 0 1 ∈ c.shared.history := by
    refine List.mem_of_mem_filter (p := fun e => e matches .bound _ _) ?_
    rw [(Prod.mk.inj heq).1]
    exact List.mem_cons_self
  exact ⟨c, hruns, hadvancing, hbound,
    ((stale_tickets twoPermits 2 c hruns).2.2.2 hadvancing).1 0 1 hbound⟩

/-- Two tickets of one generation, and two results. -/
theorem tickets_observe_two_transitions :
    ∃ c, Runs (ofStep (advancingStep twoPermits)) (startThreads twoPermits 2) c ∧
      .bound 0 0 ∈ c.shared.history ∧ .bound 0 1 ∈ c.shared.history ∧
      c.shared.transitions.map (fun r => (r.complete, r.didUnload)) = [(true, true), (true, false)] := by
  obtain ⟨c, hc, heq⟩ := Option.map_eq_some_iff.1 lateTicket_bound
  have hmem : ∀ e ∈ [RuntimeEvent.bound 0 1, .bound 0 0], e ∈ c.shared.history := by
    intro e he
    refine List.mem_of_mem_filter (p := fun e => e matches .bound _ _) ?_
    rw [(Prod.mk.inj heq).1]
    exact he
  exact ⟨c, runs_of_exec _ hc fun a _ _ _ _ h => ⟨a, h⟩, hmem _ (by simp), hmem _ (by simp),
    (Prod.mk.inj heq).2⟩

end Subgen

import Subgen.Runtime.Ownership

/-!
# A release that is reported

A call of `release_model` that returns leaves nothing of the model that was there as it began
(`reported_release`): it unloads the model itself, or it waits for the transition that does,
or it finds a transition of the same generation behind which nothing was loaded.

The last case rests on the admission being closed since that transition. That fails if the
admission is opened, a model is loaded, and the admission is closed without a new generation
(`Ledger.Direct`), as it is where a receipt cannot be written. It fails, too, if the
transition was an idle cleanup that gave up. Apart from these two it holds (`Orderly`).
-/

namespace Subgen

open Interleaving ModelRuntime

/-! ## Orderly steps -/

/-- The last transition has released the current generation. -/
def Ledger.current (L : Ledger) : Bool :=
  L.last.any fun r => r.complete && !r.failed && r.generation = L.generation

theorem Ledger.current_iff {L : Ledger} : L.current = true ↔ ∃ r ∈ L.last, r.complete = true ∧
    r.failed = false ∧ r.generation = L.generation := by
  simp [Ledger.current, Option.any_eq_true, and_assoc]

theorem Ledger.inactive_of_current {L : Ledger} (h : L.current = true) : L.active = false := by
  obtain ⟨r, hr, hcomplete, _⟩ := current_iff.1 h
  rw [Ledger.active, hr, Option.any_some, hcomplete]
  rfl

/-- The admission is closed, and the generation is not advanced. -/
def Ledger.Direct (L L' : Ledger) : Prop :=
  L.closed = false ∧ L'.closed = true ∧ L'.generation = L.generation

/-- A step of the protocol that does not go wrong: the admission is not closed directly while the
    current generation counts as released, and no idle cleanup gives up on a model. -/
structure Orderly (config : RuntimeConfig) (L : Ledger) (φ : Phase) (L' : Ledger) (φ' : Phase) :
    Prop where
  protocol : Protocol config L φ L' φ'
  direct : L.current = true → ¬ L.Direct L'
  abort : ∀ call t, φ' = .unloaded call t .aborted → φ = .unloading call t → L.model = none

/-- A model that is not there, and will not come back. -/
def Ledger.Gone (L : Ledger) (model : Option ℕ) : Prop :=
  ∀ m ∈ model, m ≤ L.loads ∧ L.model ≠ some m

/-- A model that was there at some time. -/
def Ledger.Known (L : Ledger) (model : Option ℕ) : Prop := ∀ m ∈ model, m ≤ L.loads

/-- What the owner of a transition knows, with its result: if it did not fail, there was no model
    left. -/
structure ReleaseCall.Settled (L : Ledger) (call : ReleaseCall) (t : ℕ) (result : ReleaseResult) :
    Prop where
  known : L.Known call.resident
  idle : result = .aborted → call.idleCleanup = true
  emptied : result.isFailed = false → ∀ r ∈ L.transitions[t]?, r.emptied = true
  gone : result.isFailed = false → result ≠ .aborted → L.Gone call.resident

/-- What a thread knows about the model of its call. -/
def Phase.Knows (L : Ledger) : Phase → Prop
  | .deciding call => L.Known call.resident
  | .joining call t => L.Known call.resident ∧
      (call.source = none → ∀ r ∈ L.transitions[t]?, r.emptied = true → L.Gone call.resident)
  | .draining call _ _ => L.Known call.resident
  | .unloading call _ => L.Known call.resident
  | .unloaded call t result => call.Settled L t result
  | .returning call t _ result => call.Settled L t result
  | .released call => call.source = none → call.idleCleanup = false → L.Gone call.resident
  | _ => True

/-- There is no model, and nobody may load one. -/
structure Vacant (c : Config Ledger Phase) : Prop where
  model : c.shared.model = none
  slots : ∀ φ ∈ c.locals, φ.inSlot = false

/-- What holds along orderly runs. -/
structure Reported (config : RuntimeConfig) (c : Config Ledger Phase) : Prop where
  guarded : Guarded config c
  owned : Owned c
  generations : ∀ r ∈ c.shared.transitions, r.generation ≤ c.shared.generation
  known : c.shared.Known c.shared.model
  emptied : c.shared.active = true → (∀ r ∈ c.shared.last, r.emptied = true) → Vacant c
  complete : ∀ r ∈ c.shared.transitions, r.complete = true → r.failed = false → r.emptied = true
  current : c.shared.closed = true → c.shared.current = true →
    Vacant c ∧ ∀ r ∈ c.shared.last, r.completedAt = c.shared.loads
  knows : ∀ φ ∈ c.locals, φ.Knows c.shared

/-! ## Models that are gone -/

section Models

variable {config : RuntimeConfig} {L L' : Ledger} {φ φ' : Phase} {m : Option ℕ}

theorem Protocol.loads_le (h : Protocol config L φ L' φ') : L.loads ≤ L'.loads := by
  rcases h.loads_cases with ⟨heq, _⟩ | ⟨_, heq, _⟩ <;> omega

theorem Protocol.known (h : Protocol config L φ L' φ') (hm : L.Known m) : L'.Known m :=
  fun n hn => (hm n hn).trans h.loads_le

theorem Protocol.known_model (h : Protocol config L φ L' φ') (hm : L.Known L.model) :
    L'.Known L'.model := by
  rcases h.loads_cases with ⟨hloads, hmodel⟩ | ⟨_, hloads, hmodel⟩
  · rw [Ledger.Known, hloads]
    rcases hmodel with heq | heq
    · rwa [heq]
    · rw [heq]
      rintro _ ⟨⟩
  · rw [Ledger.Known, hloads]
    rcases hmodel with heq | heq
    · rw [heq]
      rintro _ ⟨⟩
      exact le_rfl
    · rw [heq]
      rintro _ ⟨⟩

/-- A new model has a new number. -/
theorem Protocol.gone (h : Protocol config L φ L' φ') (hm : L.Gone m) : L'.Gone m := by
  intro n hn
  obtain ⟨hle, hne⟩ := hm n hn
  rcases h.loads_cases with ⟨hloads, hmodel⟩ | ⟨_, hloads, hmodel⟩
  · refine ⟨hloads ▸ hle, ?_⟩
    rcases hmodel with heq | heq
    · rwa [heq]
    · rw [heq]
      exact Option.some_ne_none n ∘ Eq.symm
  · refine ⟨by omega, ?_⟩
    rcases hmodel with heq | heq
    · rw [heq]
      intro hsome
      have := Option.some.inj hsome
      omega
    · rw [heq]
      exact Option.some_ne_none n ∘ Eq.symm

theorem Ledger.Known.gone (h : L.Known m) (hmodel : L.model = none) : L.Gone m := by
  refine fun n hn => ⟨h n hn, ?_⟩
  rw [hmodel]
  exact Option.some_ne_none n ∘ Eq.symm

end Models

section Emptied

variable {config : RuntimeConfig} {L L' : Ledger} {φ φ' : Phase}

theorem mem_getElem?_update {t j : ℕ} {f : ReleaseTransition → ReleaseTransition}
    {r' : ReleaseTransition} (hr' : r' ∈ (L.update t f).transitions[j]?) :
    ∃ r ∈ L.transitions[j]?, (t = j ∧ r' = f r) ∨ (t ≠ j ∧ r' = r) := by
  rw [Ledger.update, List.getElem?_modify, Option.map_eq_map] at hr'
  obtain ⟨r, hr, rfl⟩ := Option.map_eq_some_iff.1 hr'
  refine ⟨r, hr, ?_⟩
  split
  · next heq => exact .inl ⟨heq, rfl⟩
  · next hne => exact .inr ⟨hne, rfl⟩

/-- A transition stays without a model, and it comes to be without one as the model goes. -/
theorem Protocol.emptied_cases (h : Protocol config L φ L' φ') {j : ℕ} {r' : ReleaseTransition}
    (hr' : r' ∈ L'.transitions[j]?) :
    (∃ r ∈ L.transitions[j]?, (r.emptied = true → r'.emptied = true) ∧
      (r'.emptied = true → r.emptied = true ∨ L'.model = none)) ∨
    (r'.emptied = false ∧ L.transitions.length ≤ j) := by
  rcases h.transitions_cases with ⟨heq, _⟩ | ⟨call, _, _, heq, _⟩ | ⟨call, t, _, heq, hmodel, _⟩ |
    ⟨call, t, result, _, heq, _⟩
  · rw [heq] at hr'
    exact .inl ⟨r', hr', id, .inl⟩
  · rw [heq, Ledger.transitions_bound, Ledger.opened] at hr'
    by_cases hlt : j < L.transitions.length
    · rw [List.getElem?_append_left hlt] at hr'
      exact .inl ⟨r', hr', id, .inl⟩
    · rw [List.getElem?_append_right (not_lt.1 hlt)] at hr'
      rw [List.mem_singleton.1 (List.mem_of_getElem? hr')]
      exact .inr ⟨rfl, not_lt.1 hlt⟩
  · rw [heq] at hr'
    obtain ⟨r, hr, ⟨_, rfl⟩ | ⟨_, rfl⟩⟩ := mem_getElem?_update hr'
    · exact .inl ⟨r, hr, fun _ => rfl, fun _ => .inr hmodel⟩
    · exact .inl ⟨r', hr, id, .inl⟩
  · rw [heq] at hr'
    obtain ⟨r, hr, ⟨_, rfl⟩ | ⟨_, rfl⟩⟩ := mem_getElem?_update hr'
    · exact .inl ⟨r, hr, id, .inl⟩
    · exact .inl ⟨r', hr, id, .inl⟩

theorem ReleaseCall.Settled.moves {call : ReleaseCall} {t : ℕ} {result : ReleaseResult}
    (h : call.Settled L t result) (ht : t < L.transitions.length) (hstep : Protocol config L φ L' φ') :
    call.Settled L' t result where
  known := hstep.known h.known
  idle := h.idle
  emptied hresult r' hr' := by
    rcases hstep.emptied_cases hr' with ⟨r, hr, hkeeps, _⟩ | ⟨_, hle⟩
    · exact hkeeps (h.emptied hresult r hr)
    · omega
  gone hresult haborted := hstep.gone (h.gone hresult haborted)

/-- What a thread knows stays true if another one moves. -/
theorem Protocol.knows {ψ : Phase} (h : Protocol config L φ L' φ') (hknows : ψ.Knows L)
    (howned : ∀ t ∈ ψ.owned, t < L.transitions.length) : ψ.Knows L' := by
  cases ψ with
  | deciding call => exact h.known hknows
  | draining call t taken => exact h.known hknows
  | unloading call t => exact h.known hknows
  | unloaded call t result => exact ReleaseCall.Settled.moves hknows (howned t rfl) h
  | returning call t taken result => exact ReleaseCall.Settled.moves hknows (howned t rfl) h
  | released call => exact fun hsource hidle => h.gone (hknows hsource hidle)
  | joining call t =>
    refine ⟨h.known hknows.1, fun hsource r' hr' hemptied => ?_⟩
    rcases h.emptied_cases hr' with ⟨r, hr, _, hback⟩ | ⟨hnot, _⟩
    · rcases hback hemptied with hold | hmodel
      · exact h.gone (hknows.2 hsource r hr hold)
      · exact (h.known hknows.1).gone hmodel
    · rw [hnot] at hemptied
      cases hemptied
  | _ => exact trivial

end Emptied

/-! ## Nobody has a slot -/

section Vacancy

variable {config : RuntimeConfig} {c c' : Config Ledger Phase} {i : ℕ} {φ φ' : Phase}

/-- As long as no slot is granted it stays so, and nothing is loaded. -/
theorem Vacant.moves (h : Vacant c) (hmoves : Moves (Protocol config) c c' i φ φ')
    (hrefuses : c.shared.closed = true ∨ c.shared.active = true) :
    Vacant c' ∧ c'.shared.loads = c.shared.loads := by
  have hφ : φ.inSlot = false := h.slots φ (List.mem_of_getElem? hmoves.thread)
  have hφ' : φ'.inSlot = false := by
    by_contra hne
    rcases hmoves.step.inSlot_cases (by simpa using hne) with hslot | ⟨hopen, hinactive⟩
    · rw [hφ] at hslot
      cases hslot
    · rcases hrefuses with hclosed | hactive
      · rw [hopen] at hclosed
        cases hclosed
      · rw [hinactive] at hactive
        cases hactive
  rcases hmoves.step.loads_cases with ⟨hloads, hmodel⟩ | ⟨hslot, _⟩
  · refine ⟨⟨?_, ?_⟩, hloads⟩
    · rcases hmodel with heq | heq
      · rw [heq, h.model]
      · exact heq
    · rw [hmoves.locals]
      exact forall_mem_set hφ' fun j ψ _ hj => h.slots ψ (List.mem_of_getElem? hj)
  · rw [hφ] at hslot
    cases hslot

/-- Whoever has all permits leaves no slot for the others. -/
theorem Guarded.slots (h : Guarded config c) {call : ReleaseCall} {t : ℕ}
    (hi : c.locals[i]? = some (.unloading call t)) (hφ' : φ'.inSlot = false) :
    ∀ ψ ∈ c.locals.set i φ', ψ.inSlot = false := by
  refine forall_mem_set hφ' fun j ψ hji hj => ?_
  by_contra hne
  have hheld := h.permits.eq_zero hji hi hj le_rfl
  rw [Phase.held_of_inSlot (by simpa using hne)] at hheld
  cases hheld

end Vacancy

namespace Reported

variable {config : RuntimeConfig} {c c' : Config Ledger Phase} {i : ℕ} {φ φ' : Phase}

theorem moves_emptied (h : Reported config c) (hmoves : Moves (Orderly config) c c' i φ φ')
    (hactive : c'.shared.active = true) (hemptied : ∀ r ∈ c'.shared.last, r.emptied = true) :
    Vacant c' := by
  have hprotocol : Moves (Protocol config) c c' i φ φ' :=
    ⟨hmoves.thread, hmoves.step.protocol, hmoves.locals⟩
  rcases hmoves.step.protocol.transitions_cases with ⟨heq, _⟩ | ⟨call, rfl, hserved, heq, _⟩ |
    ⟨call, t, rfl, heq, hmodel, howned⟩ | ⟨call, t, result, rfl, heq, _⟩
  · rw [Ledger.active_of_congr heq] at hactive
    rw [Ledger.last, heq] at hemptied
    exact ((h.emptied hactive hemptied).moves hprotocol (.inr hactive)).1
  · have hlast : c'.shared.last = c.shared.opened.last := by
      rw [Ledger.last, heq, Ledger.transitions_bound, Ledger.last]
    rw [hlast, Ledger.last_opened] at hemptied
    cases hemptied _ rfl
  · -- The owner has all permits.
    refine ⟨hmodel, ?_⟩
    rw [hmoves.locals]
    refine h.guarded.slots hmoves.thread ?_
    cases φ' with
    | unloaded call t result => rfl
    | draining call t taken => rfl
    | unloading call t => rfl
    | returning call t taken result => rfl
    | _ => cases howned
  · rw [Ledger.active_of_congr heq,
      Ledger.active_completed (h.owned.length_of_owned hmoves.thread rfl)] at hactive
    cases hactive

theorem moves_complete (h : Reported config c) (hmoves : Moves (Orderly config) c c' i φ φ') :
    ∀ r ∈ c'.shared.transitions, r.complete = true → r.failed = false → r.emptied = true := by
  intro r' hr' hcomplete hfailed
  obtain ⟨j, hj⟩ := List.mem_iff_getElem?.1 hr'
  rcases hmoves.step.protocol.transitions_cases with ⟨heq, _⟩ | ⟨call, rfl, hserved, heq, _⟩ |
    ⟨call, t, rfl, heq, _, _⟩ | ⟨call, t, result, rfl, heq, _⟩
  · rw [heq] at hr'
    exact h.complete r' hr' hcomplete hfailed
  · rw [heq, Ledger.transitions_bound] at hr'
    rcases List.mem_append.1 hr' with hr | hr
    · exact h.complete r' hr hcomplete hfailed
    · rw [List.mem_singleton.1 hr] at hcomplete
      cases hcomplete
  · rw [heq] at hj
    obtain ⟨r, hr, ⟨_, rfl⟩ | ⟨_, rfl⟩⟩ := mem_getElem?_update hj
    · rfl
    · exact h.complete r' (List.mem_of_getElem? hr) hcomplete hfailed
  · rw [heq] at hj
    obtain ⟨r, hr, ⟨rfl, rfl⟩ | ⟨_, rfl⟩⟩ := mem_getElem?_update hj
    · -- The owner completes it, and knows that there was no model left.
      have hsettled : call.Settled c.shared t result :=
        h.knows _ (List.mem_of_getElem? hmoves.thread)
      exact hsettled.emptied hfailed r hr
    · exact h.complete r' (List.mem_of_getElem? hr) hcomplete hfailed

theorem moves_current (h : Reported config c) (hmoves : Moves (Orderly config) c c' i φ φ')
    (hclosed : c'.shared.closed = true) (hcurrent : c'.shared.current = true) :
    Vacant c' ∧ ∀ r ∈ c'.shared.last, r.completedAt = c'.shared.loads := by
  have hprotocol : Moves (Protocol config) c c' i φ φ' :=
    ⟨hmoves.thread, hmoves.step.protocol, hmoves.locals⟩
  have hinactive := Ledger.inactive_of_current hcurrent
  obtain ⟨r, hr, hcomplete, hfailed, hgeneration⟩ := Ledger.current_iff.1 hcurrent
  rcases hmoves.step.protocol.transitions_cases with ⟨heq, _⟩ | ⟨call, rfl, hserved, heq, _⟩ |
    ⟨call, t, rfl, heq, _, howned⟩ | ⟨call, t, result, rfl, heq, _⟩
  · have hlast : c'.shared.last = c.shared.last := by rw [Ledger.last, heq, Ledger.last]
    rw [hlast] at hr ⊢
    -- The generation is the one of the last transition, so that it was not advanced.
    have hsame : c'.shared.generation = c.shared.generation := by
      have hle := h.generations r (Ledger.mem_of_last hr)
      have hle' := hmoves.step.protocol.generation_le
      omega
    have hbefore : c.shared.current = true :=
      Ledger.current_iff.2 ⟨r, hr, hcomplete, hfailed, hgeneration.trans hsame⟩
    cases hopen : c.shared.closed with
    | false => exact absurd ⟨hopen, hclosed, hsame⟩ (hmoves.step.direct hbefore)
    | true =>
      obtain ⟨hvacant, hloads⟩ := h.current hopen hbefore
      obtain ⟨hvacant', hloads'⟩ := hvacant.moves hprotocol (.inl hopen)
      exact ⟨hvacant', hloads' ▸ hloads⟩
  · have hlast : c'.shared.last = c.shared.opened.last := by
      rw [Ledger.last, heq, Ledger.transitions_bound, Ledger.last]
    rw [hlast, Ledger.last_opened] at hr
    obtain rfl := Option.some.inj hr
    cases hcomplete
  · have hactive := h.owned.active hmoves.thread rfl
    rw [Ledger.active_of_congr heq,
      Ledger.active_emptied (h.owned.length_of_owned hmoves.thread rfl), hactive] at hinactive
    cases hinactive
  · -- The owner completes the last transition, behind which there was no model left.
    have ht := h.owned.length_of_owned hmoves.thread rfl
    have hactive := h.owned.active hmoves.thread rfl
    have hsettled : call.Settled c.shared t result :=
      h.knows _ (List.mem_of_getElem? hmoves.thread)
    have hlast : c'.shared.last = (c.shared.completed t result).last := by
      rw [Ledger.last, heq, Ledger.last]
    rw [hlast, Ledger.last_completed ht] at hr ⊢
    obtain ⟨r₀, hr₀, rfl⟩ := Option.map_eq_some_iff.1 hr
    have hemptied : ∀ r ∈ c.shared.last, r.emptied = true := by
      intro r hr
      refine hsettled.emptied hfailed r ?_
      rwa [Ledger.last, List.getLast?_eq_getElem?, ← ht] at hr
    obtain ⟨hvacant, hloads⟩ := (h.emptied hactive hemptied).moves hprotocol (.inr hactive)
    refine ⟨hvacant, fun r' hr' => ?_⟩
    obtain ⟨r₁, _, rfl⟩ := Option.map_eq_some_iff.1 hr'
    exact hloads.symm

/-- A release that finds the last transition serving it finds no model, or waits for its owner. -/
theorem gone_of_served (h : Reported config c) (hserved : c.shared.served none = true)
    {m : Option ℕ} (hm : c.shared.Known m) (hemptied : ∀ r ∈ c.shared.last, r.emptied = true) :
    c.shared.Gone m := by
  cases hactive : c.shared.active with
  | true => exact hm.gone (h.emptied hactive hemptied).model
  | false =>
    obtain ⟨r, hr, hserves⟩ := (Option.any_eq_true _ _).1 hserved
    rw [Ledger.active, hr] at hactive
    simp only [Option.any_some, Bool.not_eq_false'] at hactive
    simp only [hactive, Bool.not_true, Bool.false_or, Bool.and_eq_true, Bool.not_eq_true',
      decide_eq_true_eq] at hserves
    obtain ⟨⟨hfailed, hgeneration⟩, hclosed⟩ := hserves
    have hcurrent := Ledger.current_iff.2 ⟨r, hr, hactive, hfailed, hgeneration⟩
    exact hm.gone (h.current hclosed hcurrent).1.model

theorem moves_knows_self (h : Reported config c) (hmoves : Moves (Orderly config) c c' i φ φ') :
    φ'.Knows c'.shared := by
  have hφ := h.knows φ (List.mem_of_getElem? hmoves.thread)
  obtain ⟨hprotocol, _, habort⟩ := hmoves.step
  generalize c'.shared = L' at hprotocol habort ⊢
  have hstep := hprotocol
  cases hprotocol with
  -- A shift opens or closes the admission, and no transition of this thread is behind the last.
  | shift φ hshift =>
    refine hstep.knows hφ fun t ht => ?_
    have hlength := h.owned.length_of_owned hmoves.thread ht
    omega
  | call idleCleanup => exact h.known
  | redeem g _ => exact h.known
  | retry g caller => exact h.known
  | join call hserved =>
    -- Who joins a transition that is over finds the model gone if that one emptied it.
    refine ⟨hstep.known hφ, fun hsource r hr hemptied => hstep.gone ?_⟩
    rw [hsource] at hserved
    refine h.gone_of_served hserved hφ fun r' hr' => ?_
    rw [Ledger.transitions_bound] at hr
    rw [Ledger.last, List.getLast?_eq_getElem?] at hr'
    exact Option.some.inj (hr.symm.trans hr') ▸ hemptied
  | own call _ => exact hstep.known (m := call.resident) hφ
  | joined call t r ht hcomplete hfailed =>
    exact fun hsource _ =>
      hφ.2 hsource r ht (h.complete r (List.mem_of_getElem? ht) hcomplete hfailed)
  | drain call t taken n _ _ => exact hφ
  | lockRelease call t taken _ _ => exact hφ
  -- An abort is noted in the record of the transition, so the thread knows it from there.
  | abort call t hidle =>
    refine ⟨hstep.known hφ, fun _ => hidle, fun _ r' hr' => ?_, fun _ hnot => absurd rfl hnot⟩
    rw [if_pos (habort call t rfl rfl)] at hr'
    obtain ⟨r, hr, ⟨_, rfl⟩ | ⟨hne, _⟩⟩ := mem_getElem?_update hr'
    · rfl
    · exact absurd rfl hne
  | keep call t =>
    exact ⟨hφ, fun heq => (by cases heq), fun hfailed => (by cases hfailed),
      fun hfailed => by cases hfailed⟩
  | unload call t result hresult hshift =>
    refine ⟨hstep.known hφ, fun heq => absurd heq hresult, fun _ r' hr' => ?_, fun _ _ =>
      (hstep.known (m := call.resident) hφ).gone rfl⟩
    obtain ⟨r, hr, ⟨_, rfl⟩ | ⟨hne, _⟩⟩ := mem_getElem?_update hr'
    · rfl
    · exact absurd rfl hne
  | unlockRelease call t result => exact ⟨hφ.known, hφ.idle, hφ.emptied, hφ.gone⟩
  | giveBack call t n result => exact ⟨hφ.known, hφ.idle, hφ.emptied, hφ.gone⟩
  -- What is reported is either forgotten or a failure that left nothing behind.
  | complete call t result closed hclosed hφ' =>
    rcases hφ' with rfl | ⟨rfl, hfailed⟩
    · exact trivial
    · refine fun _ hidle => hstep.gone (hφ.gone hfailed fun haborted => ?_)
      rw [hφ.idle haborted] at hidle
      cases hidle
  | _ => exact trivial

theorem moves (h : Reported config c) (hmoves : Moves (Orderly config) c c' i φ φ') :
    Reported config c' := by
  have hprotocol : Moves (Protocol config) c c' i φ φ' :=
    ⟨hmoves.thread, hmoves.step.protocol, hmoves.locals⟩
  refine ⟨h.guarded.moves hprotocol, h.owned.moves hprotocol, hmoves.step.protocol.generations h.generations,
    hmoves.step.protocol.known_model h.known, h.moves_emptied hmoves, h.moves_complete hmoves,
    h.moves_current hmoves, ?_⟩
  rw [hmoves.locals]
  refine forall_mem_set (h.moves_knows_self hmoves) fun j ψ _ hj => ?_
  refine hmoves.step.protocol.knows (h.knows ψ (List.mem_of_getElem? hj)) fun t ht => ?_
  have hlength := h.owned.length_of_owned hj ht
  omega

end Reported

/-! ## Runs of the runtime -/

/-- The step closes an open admission, and does not advance the generation. -/
def ModelRuntime.closesDirectly (config : RuntimeConfig) (ch : Choice) (s : ModelRuntime) (p : Point) :
    Bool :=
  (step config ch s p).any fun r =>
    !s.admissionClosed && r.1.admissionClosed && r.1.releaseGeneration = s.releaseGeneration

/-- An idle cleanup finds work, and there is a model. -/
def ModelRuntime.givesUp (ch : Choice) (s : ModelRuntime) : Point → Bool
  | .examining call _ => call.idleCleanup && !ch.systemIdle && s.model.isSome
  | _ => false

/-- The steps that keep the last transition true: while it has released the current generation, the
    admission is not closed directly, and no idle cleanup gives up. -/
def carefulStep (config : RuntimeConfig) (ch : Choice) (s : ModelRuntime) (th : RuntimeThread) :
    Option (ModelRuntime × RuntimeThread) :=
  if (s.ledger.current && s.closesDirectly config ch th.point) || s.givesUp ch th.point then none
  else threadStep config ch s th

theorem threadStep_of_carefulStep {config : RuntimeConfig} {s s' : ModelRuntime}
    {th th' : RuntimeThread} (h : ofStep (carefulStep config) s th s' th') :
    ofStep (threadStep config) s th s' th' := by
  obtain ⟨ch, h⟩ := h
  rw [carefulStep] at h
  split at h
  · cases h
  · exact ⟨ch, h⟩

theorem careful_cases {config : RuntimeConfig} {s s' : ModelRuntime} {th th' : RuntimeThread}
    (h : ofStep (carefulStep config) s th s' th') :
    ∃ ch, step config ch s th.point = some (s', th'.point) ∧
      (s.ledger.current = true → s.closesDirectly config ch th.point = false) ∧
      s.givesUp ch th.point = false := by
  obtain ⟨ch, h⟩ := h
  rw [carefulStep] at h
  split at h
  · cases h
  · next hcareful =>
    obtain ⟨⟨s₁, p₁⟩, hstep, heq⟩ := Option.map_eq_some_iff.1 h
    obtain ⟨rfl, rfl⟩ := Prod.mk.inj heq
    simp only [Bool.or_eq_true, Bool.and_eq_true, not_or, not_and, Bool.not_eq_true] at hcareful
    exact ⟨ch, hstep, hcareful⟩

theorem unloadForRelease_ne_aborted (config : RuntimeConfig) (ch : Choice) (s : ModelRuntime)
    (source : Option ℤ) (t : ℕ) : (s.unloadForRelease config ch source t).2 ≠ .aborted := by
  rw [unloadForRelease]
  split
  · rintro ⟨⟩
  · dsimp only
    split
    · rintro ⟨⟩
    · split <;> rintro ⟨⟩

/-- An idle cleanup that gives up does so as it examines the work. -/
theorem givesUp_of_aborted {config : RuntimeConfig} {ch : Choice} {s s' : ModelRuntime} {p p' : Point}
    {call : ReleaseCall} {t : ℕ} (h : step config ch s p = some (s', p'))
    (hφ : p.phase config = .unloading call t) (hφ' : p'.phase config = .unloaded call t .aborted)
    (hmodel : s.model ≠ none) : s.givesUp ch p = true := by
  cases p with
  | examining call₁ t₁ =>
    have heq := Option.some.inj h
    rw [stepExamining] at heq
    split at heq
    · next hbusy =>
      rw [givesUp, hbusy, Bool.true_and]
      exact Option.isSome_iff_ne_none.2 hmodel
    · obtain ⟨_, rfl⟩ := Prod.mk.inj heq
      cases hφ'
  | unloading call₁ t₁ =>
    obtain ⟨_, rfl⟩ := Prod.mk.inj (Option.some.inj h)
    simp only [Point.phase, Phase.unloaded.injEq] at hφ'
    exact absurd hφ'.2.2 (unloadForRelease_ne_aborted _ _ _ _ _)
  | unlocking kind generation outcome => rcases outcome with _ | _ <;> cases hφ
  | _ => cases hφ

theorem orderly_of_carefulStep {config : RuntimeConfig} {s s' : ModelRuntime} {th th' : RuntimeThread}
    (h : ofStep (carefulStep config) s th s' th') :
    Orderly config s.ledger (th.point.phase config) s'.ledger (th'.point.phase config) := by
  obtain ⟨ch, hstep, hdirect, hidle⟩ := careful_cases h
  refine ⟨protocol_of_threadStep (threadStep_of_carefulStep h), ?_, ?_⟩
  · rintro hcurrent ⟨hopen, hclosed, hgeneration⟩
    have hnot := hdirect hcurrent
    simp only [ledger] at hopen hclosed hgeneration
    rw [closesDirectly, hstep, Option.any_some, hopen, hclosed, hgeneration, decide_eq_true rfl] at hnot
    cases hnot
  · intro call t hφ' hφ
    by_contra hmodel
    rw [givesUp_of_aborted hstep hφ hφ' hmodel] at hidle
    cases hidle

theorem reported_start (config : RuntimeConfig) (n : ℕ) :
    Reported config (runtimePhases config (startThreads config n)) := by
  have hlocals : ∀ φ ∈ (runtimePhases config (startThreads config n)).locals, φ = .outside none := by
    intro φ hφ
    simp only [runtimePhases, startThreads, Config.map, List.map_replicate] at hφ
    exact List.eq_of_mem_replicate hφ
  refine ⟨guarded_start config n, owned_start config n, ?_, ?_, ?_, ?_, ?_, ?_⟩
  · rintro r ⟨⟩
  · rintro m ⟨⟩
  · rintro ⟨⟩
  · rintro r ⟨⟩
  · rintro _ ⟨⟩
  · intro φ hφ
    rw [hlocals φ hφ]
    exact trivial

theorem reported_of_runs {config : RuntimeConfig} {n : ℕ} {c : Config ModelRuntime RuntimeThread}
    (h : Runs (ofStep (carefulStep config)) (startThreads config n) c) :
    Reported config (runtimePhases config c) := by
  have hruns : Runs (Orderly config) _ (runtimePhases config c) :=
    h.map fun _ _ _ _ hstep => orderly_of_carefulStep hstep
  exact hruns.invariant (reported_start config n) fun _ _ _ _ _ hreported hmoves =>
    hreported.moves hmoves

/-- Along careful steps, a release that returns leaves nothing of the model that was there as it
    began, and a transition that serves a release once it is over has nothing loaded behind it. -/
theorem reported_release (config : RuntimeConfig) (n : ℕ) (c : Config ModelRuntime RuntimeThread)
    (h : Runs (ofStep (carefulStep config)) (startThreads config n) c) :
    (∀ th ∈ c.locals, ∀ call didUnload, th.point = .released call didUnload → call.source = none →
      call.idleCleanup = false → ∀ m, call.resident = some m → c.shared.model ≠ some m) ∧
    ∀ r, c.shared.last = some r → r.complete = true → c.shared.servedBy none r = true →
      c.shared.model = none ∧ r.completedAt = c.shared.loadGeneration := by
  have hreported := reported_of_runs h
  refine ⟨fun th hth call didUnload hpoint hsource hidle m hm => ?_, fun r hr hcomplete hserved => ?_⟩
  · have hmem : Phase.released call ∈ (runtimePhases config c).locals := by
      refine List.mem_map.2 ⟨th, hth, ?_⟩
      rw [hpoint]
      rfl
    exact (hreported.knows _ hmem hsource hidle m hm).2
  · -- A transition that is over serves only if it has not failed and the admission is closed since.
    simp only [servedBy, hcomplete, Bool.not_true, Bool.false_or, Bool.and_eq_true, Bool.not_eq_true',
      decide_eq_true_eq] at hserved
    obtain ⟨⟨hfailed, hgeneration⟩, hclosed⟩ := hserved
    have hcurrent : (runtimePhases config c).shared.current = true :=
      Ledger.current_iff.2 ⟨r, hr, hcomplete, hfailed, hgeneration⟩
    obtain ⟨hvacant, hloads⟩ := hreported.current hclosed hcurrent
    exact ⟨hvacant.model, hloads r hr⟩

/-- One permit, and a receipt that cannot be written closes the admission. -/
def onePermitGated : RuntimeConfig := ⟨1, true, onePermit.permitCount_pos⟩

/-- Steps of thread `i` where nothing stands in its way. -/
def proceed (i steps : ℕ) : List (ℕ × Choice) := List.replicate steps (i, {})

/-- A release by thread `i`, up to its end, where nothing stands in its way. -/
def toReleased (i : ℕ) (idleCleanup : Bool) : List (ℕ × Choice) :=
  (i, { call := .releaseModel idleCleanup }) :: proceed i 9

/-- The steps of one thread that loads the first model, from its release to the end of its inference. -/
def toLoaded (i : ℕ) : List (ℕ × Choice) :=
  (i, { call := .reopenModelAdmission }) :: toInference i ++ proceed i 3

/-- A release of the first model, before anything was released. -/
def firstRelease : ReleaseCall := ⟨false, none, some 1, .outside⟩

theorem reported_release_loaded :
    ∃ c, Runs (ofStep (carefulStep onePermitGated)) (startThreads onePermitGated 2) c ∧
      c.locals.map (·.point) = [.idle, .released firstRelease true] ∧ c.shared.model ≠ some 1 := by
  have hexec : ((exec (carefulStep onePermitGated) (startThreads onePermitGated 2)
      (toLoaded 0 ++ toReleased 1 false)).map fun c => c.locals.map (·.point)) =
        some [.idle, .released firstRelease true] := by
    decide +kernel
  obtain ⟨c, hc, hpoints⟩ := Option.map_eq_some_iff.1 hexec
  have hruns : Runs (ofStep (carefulStep onePermitGated)) (startThreads onePermitGated 2) c :=
    runs_of_exec _ hc fun a _ _ _ _ h => ⟨a, h⟩
  obtain ⟨th, hth, hpoint⟩ : ∃ th ∈ c.locals, th.point = .released firstRelease true := by
    have hmem : Point.released firstRelease true ∈ c.locals.map (·.point) := by
      rw [hpoints]
      exact List.mem_cons_of_mem _ List.mem_cons_self
    exact List.mem_map.1 hmem
  exact ⟨c, hruns, hpoints,
    (reported_release onePermitGated 2 c hruns).1 th hth firstRelease true hpoint rfl rfl 1 rfl⟩

/-- A release that finds nothing to unload, the load of a model, and a receipt that is not written.
    Then the model is to be released. -/
def afterReceipt : List (ℕ × Choice) :=
  toReleased 0 false ++ proceed 0 1 ++ toLoaded 0 ++ (0, { receiptWritten := false }) ::
    (1, { call := .releaseModel false }) :: proceed 1 2

/-- An idle cleanup of a loaded model that finds work, and another release that waits for it. -/
def afterCleanup : List (ℕ × Choice) :=
  toLoaded 0 ++ (0, { call := .releaseModel true }) :: proceed 0 3 ++
    (1, { call := .releaseModel false }) :: proceed 1 1 ++ (0, { systemIdle := false }) ::
      proceed 0 4 ++ proceed 1 1

theorem reported_release_fails :
    (∃ c, Runs (ofStep (threadStep onePermitGated)) (startThreads onePermitGated 2) c ∧
      c.locals.map (·.point) = [.idle, .released firstRelease false] ∧ c.shared.model = some 1) ∧
    ∃ c, Runs (ofStep (threadStep onePermitGated)) (startThreads onePermitGated 2) c ∧
      c.locals.map (·.point) = [.reopeningIdle ⟨true, none, some 1, .outside⟩,
        .released firstRelease false] ∧ c.shared.model = some 1 := by
  constructor
  · have hexec : ((exec (threadStep onePermitGated) (startThreads onePermitGated 2) afterReceipt).map
        fun c => (c.locals.map (·.point), c.shared.model)) =
          some ([.idle, .released firstRelease false], some 1) := by
      decide +kernel
    obtain ⟨c, hc, heq⟩ := Option.map_eq_some_iff.1 hexec
    exact ⟨c, runs_of_exec _ hc fun a _ _ _ _ h => ⟨a, h⟩, Prod.mk.inj heq⟩
  · have hexec : ((exec (threadStep onePermitGated) (startThreads onePermitGated 2) afterCleanup).map
        fun c => (c.locals.map (·.point), c.shared.model)) =
          some ([.reopeningIdle ⟨true, none, some 1, .outside⟩, .released firstRelease false],
            some 1) := by
      decide +kernel
    obtain ⟨c, hc, heq⟩ := Option.map_eq_some_iff.1 hexec
    exact ⟨c, runs_of_exec _ hc fun a _ _ _ _ h => ⟨a, h⟩, Prod.mk.inj heq⟩

end Subgen

import Subgen.Runtime.Refinement

/-!
# Permits, the load lock and the model

No model is unloaded under an inference (`no_unload_under_inference`): an inference holds a
permit, and whoever unloads a model holds all of them. A load that is taken back is no
exception, since it happens under the load lock, and there was no model before.

The permits and the load lock are resources of the protocol, and so is the right to complete
a transition: at most one is active. Each is counted over all threads, by what a phase holds of it
(`held`, `locks`, `owned`), and what is free and what is held are always as much as there is.

The proof is about the protocol and not about the program. Each step of the protocol is looked at once for
what it does to the permits, the lock, the model and the transitions (`permits_add_held`,
`unlocked_add_locks`, `model_cases`, `transitions_cases`); the invariant follows from these
(`Guarded.moves`), and each step of a thread is one of the protocol (`protocol_of_threadStep`). Only the
count of what a thread took and gave back is about its own state (`RuntimeThread.Paired`).
-/

namespace Subgen

open Interleaving ModelRuntime

/-! ## What one step of the protocol does -/

namespace Shift

variable {L L' : Ledger}

/-- Nothing but the admission changes. -/
theorem frame (h : Shift L L') :
    ∃ closed generation, L' = { L with closed := closed, generation := generation } := by
  cases h with
  | same => exact ⟨L.closed, L.generation, rfl⟩
  | close _ => exact ⟨true, L.generation + 1, rfl⟩
  | reopen _ => exact ⟨false, L.generation, rfl⟩
  | direct => exact ⟨true, L.generation, rfl⟩

/-- A shift leaves the permits alone. -/
theorem permits_eq (h : Shift L L') : L'.permits = L.permits := by
  obtain ⟨_, _, rfl⟩ := h.frame
  rfl

/-- It leaves the load lock alone. -/
theorem locked_eq (h : Shift L L') : L'.locked = L.locked := by
  obtain ⟨_, _, rfl⟩ := h.frame
  rfl

/-- It leaves the resident model alone. -/
theorem model_eq (h : Shift L L') : L'.model = L.model := by
  obtain ⟨_, _, rfl⟩ := h.frame
  rfl

/-- It leaves the loads alone. -/
theorem loads_eq (h : Shift L L') : L'.loads = L.loads := by
  obtain ⟨_, _, rfl⟩ := h.frame
  rfl

/-- It leaves the transitions alone. -/
theorem transitions_eq (h : Shift L L') : L'.transitions = L.transitions := by
  obtain ⟨_, _, rfl⟩ := h.frame
  rfl

/-- It notes nothing. -/
theorem history_eq (h : Shift L L') : L'.history = L.history := by
  obtain ⟨_, _, rfl⟩ := h.frame
  rfl

end Shift

namespace Ledger

variable (L : Ledger) (source : Option ℤ) (t : ℕ)

@[simp] theorem permits_bound : (L.bound source t).permits = L.permits := by cases source <;> rfl

@[simp] theorem locked_bound : (L.bound source t).locked = L.locked := by cases source <;> rfl

@[simp] theorem model_bound : (L.bound source t).model = L.model := by cases source <;> rfl

@[simp] theorem transitions_bound : (L.bound source t).transitions = L.transitions := by
  cases source <;> rfl

@[simp] theorem closed_bound : (L.bound source t).closed = L.closed := by cases source <;> rfl

@[simp] theorem generation_bound : (L.bound source t).generation = L.generation := by
  cases source <;> rfl

@[simp] theorem loads_bound : (L.bound source t).loads = L.loads := by cases source <;> rfl

end Ledger

namespace Phase

/-- The permits that a thread holds. -/
def held (config : RuntimeConfig) : Phase → ℕ
  | .permit => 1
  | .slot _ => 1
  | .locked _ => 1
  | .loading _ => 1
  | .loaded _ => 1
  | .inference _ => 1
  | .draining _ _ taken => min taken config.permitCount
  | .unloading _ _ => config.permitCount
  | .unloaded _ _ _ => config.permitCount
  | .returning _ _ taken _ => taken
  | _ => 0

/-- Whether it holds the load lock. -/
def locks : Phase → ℕ
  | .locked _ => 1
  | .loading _ => 1
  | .loaded _ => 1
  | .unloading _ _ => 1
  | .unloaded _ _ _ => 1
  | _ => 0

/-- The transition that it has opened, until that is complete. -/
def owned : Phase → Option ℕ
  | .draining _ t _ => some t
  | .unloading _ t => some t
  | .unloaded _ t _ => some t
  | .returning _ t _ _ => some t
  | _ => none

/-- What a thread counts on: there is no model while it loads one, and there is one while it uses
    it. -/
def Fits (model : Option ℕ) : Phase → Prop
  | .loading _ => model = none
  | .loaded _ => model ≠ none
  | .inference _ => model ≠ none
  | _ => True

end Phase

/-- The load lock, if nobody holds it. -/
def Ledger.unlocked (L : Ledger) : ℕ := if L.locked then 0 else 1

namespace Protocol

variable {config : RuntimeConfig} {L L' : Ledger} {φ φ' : Phase}

/-- The permits that are free and those that a thread holds are as many as before. -/
theorem permits_add_held (h : Protocol config L φ L' φ') :
    L'.permits + φ'.held config = L.permits + φ.held config := by
  cases h with
  | shift φ h => rw [h.permits_eq]
  | fail g h => rw [h.permits_eq]; rfl
  | discard g h kept =>
    change _ + 1 = _ + 1
    exact congrArg (· + 1) h.permits_eq
  | forget g h => rw [h.permits_eq]; rfl
  | ticket g h => exact congrArg (· + 0) h.permits_eq
  | done call h => rw [h.permits_eq]; rfl
  | unload call t result _ h => exact congrArg (· + config.permitCount) h.permits_eq
  | take n h => simp only [Phase.held]; omega
  | drain call t taken n h htaken => simp only [Phase.held]; omega
  | lockRelease call t taken htaken h => simp only [Phase.held]; omega
  | giveBack call t n result => simp only [Phase.held]; omega
  | abort call t hidle =>
    simp only [Phase.held]
    split <;> rfl
  | complete call t result closed hclosed hφ =>
    rcases hφ with rfl | ⟨rfl, _⟩ <;> rfl
  | own call h => simp [Phase.held, Ledger.opened]
  | abandon call h => simp [Phase.held, Ledger.opened]
  | join call h => simp [Phase.held]
  | _ => rfl

/-- So it is for the load lock. -/
theorem unlocked_add_locks (hlocked : φ.locks = 1 → L.locked = true) (h : Protocol config L φ L' φ') :
    L'.unlocked + φ'.locks = L.unlocked + φ.locks := by
  cases h with
  | shift φ h => rw [Ledger.unlocked, h.locked_eq, Ledger.unlocked]
  | fail g h => rw [Ledger.unlocked, h.locked_eq, Ledger.unlocked]; rfl
  | discard g h kept =>
    change (if Ledger.locked _ then 0 else 1) + 1 = (if L.locked then 0 else 1) + 1
    rw [← h.locked_eq]
    rfl
  | forget g h => rw [Ledger.unlocked, h.locked_eq, Ledger.unlocked]; rfl
  | ticket g h =>
    change (if Ledger.locked _ then 0 else 1) + 0 = (if L.locked then 0 else 1) + 0
    rw [← h.locked_eq]
  | done call h => rw [Ledger.unlocked, h.locked_eq, Ledger.unlocked]; rfl
  | unload call t result _ h =>
    change (if Ledger.locked _ then 0 else 1) + 1 = (if L.locked then 0 else 1) + 1
    rw [← h.locked_eq]
    rfl
  | lock g h => simp [Ledger.unlocked, Phase.locks, h]
  | lockRelease call t taken htaken h => simp [Ledger.unlocked, Phase.locks, h]
  | abort call t hidle =>
    simp only [Phase.locks]
    split <;> rfl
  | complete call t result closed hclosed hφ =>
    rcases hφ with rfl | ⟨rfl, _⟩ <;> rfl
  | own call h => simp [Phase.locks, Ledger.opened, Ledger.unlocked]
  | abandon call h => simp [Phase.locks, Ledger.opened, Ledger.unlocked]
  | join call h => simp [Phase.locks, Ledger.unlocked]
  | unlock g => simp [Ledger.unlocked, Phase.locks, hlocked rfl]
  | unlockLoaded g => simp [Ledger.unlocked, Phase.locks, hlocked rfl]
  | infer g => simp [Ledger.unlocked, Phase.locks, hlocked rfl]
  | unlockRelease call t result => simp [Ledger.unlocked, Phase.locks, hlocked rfl]
  | _ => rfl

/-- A model is changed by a thread that loads one, or by one that holds every permit. -/
theorem model_cases (h : Protocol config L φ L' φ') :
    L'.model = L.model ∨ (∃ g, φ = .loading g) ∨ ∃ call t, φ = .unloading call t := by
  cases h with
  | shift φ h => exact .inl h.model_eq
  | fail g h => exact .inl h.model_eq
  | forget g h => exact .inl h.model_eq
  | ticket g h => exact .inl h.model_eq
  | done call h => exact .inl h.model_eq
  | publish g => exact .inr (.inl ⟨g, rfl⟩)
  | discard g h kept => exact .inr (.inl ⟨g, rfl⟩)
  | abort call t hidle => exact .inr (.inr ⟨call, t, rfl⟩)
  | unload call t result _ h => exact .inr (.inr ⟨call, t, rfl⟩)
  | own call h => exact .inl (Ledger.model_bound _ _ _)
  | abandon call h => exact .inl (Ledger.model_bound _ _ _)
  | join call h => exact .inl (Ledger.model_bound _ _ _)
  | _ => exact .inl rfl

/-- What a thread relies on is still the resident model. -/
theorem fits (h : Protocol config L φ L' φ') (hfits : φ.Fits L.model) : φ'.Fits L'.model := by
  cases h with
  | shift φ h => rwa [h.model_eq]
  | find g h => exact h
  | load g h => exact h
  | publish g => exact Option.some_ne_none _
  | infer g => exact hfits
  | complete call t result closed hclosed hφ =>
    rcases hφ with rfl | ⟨rfl, _⟩ <;> exact trivial
  | _ => exact trivial

/-- What happens to the transitions: a new one, or the one of the thread is emptied or completed. -/
theorem transitions_cases (h : Protocol config L φ L' φ') :
    (L'.transitions = L.transitions ∧ φ'.owned = φ.owned) ∨
    (∃ call, φ = .deciding call ∧ L.served call.source = false ∧
      L' = L.opened.bound call.source L.transitions.length ∧
      (φ'.owned = some L.transitions.length ∨ φ'.owned = none)) ∨
    (∃ call t, φ = .unloading call t ∧ L'.transitions = (L.emptied t).transitions ∧
      L'.model = none ∧ φ'.owned = some t) ∨
    ∃ call t result, φ = .returning call t 0 result ∧
      L'.transitions = (L.completed t result).transitions ∧ φ'.owned = none := by
  cases h with
  | shift φ h => exact .inl ⟨h.transitions_eq, rfl⟩
  | fail g h => exact .inl ⟨h.transitions_eq, rfl⟩
  | discard g h kept => exact .inl ⟨h.transitions_eq, rfl⟩
  | forget g h => exact .inl ⟨h.transitions_eq, rfl⟩
  | ticket g h => exact .inl ⟨h.transitions_eq, rfl⟩
  | done call h => exact .inl ⟨h.transitions_eq, rfl⟩
  | own call h => exact .inr (.inl ⟨call, rfl, h, rfl, .inl rfl⟩)
  | abandon call h => exact .inr (.inl ⟨call, rfl, h, rfl, .inr rfl⟩)
  | join call h => exact .inl ⟨Ledger.transitions_bound _ _ _, rfl⟩
  | abort call t hidle =>
    split
    · next hmodel => exact .inr (.inr (.inl ⟨call, t, rfl, rfl, hmodel, rfl⟩))
    · exact .inl ⟨rfl, rfl⟩
  | unload call t result _ h =>
    refine .inr (.inr (.inl ⟨call, t, rfl, ?_, rfl, rfl⟩))
    exact congrArg (List.modify · t _) h.transitions_eq
  | complete call t result closed hclosed hφ =>
    refine .inr (.inr (.inr ⟨call, t, result, rfl, rfl, ?_⟩))
    rcases hφ with rfl | ⟨rfl, _⟩ <;> rfl
  | _ => exact .inl ⟨rfl, rfl⟩

end Protocol

/-- Only the last transition may be active. -/
def Ledger.Single (L : Ledger) : Prop :=
  ∀ i r, L.transitions[i]? = some r → i + 1 < L.transitions.length → r.complete = true

namespace Ledger

variable {L : Ledger}

/-- Where no transition serves a call the last one is over. -/
theorem last_complete {source : Option ℤ} (h : L.served source = false) :
    ∀ r ∈ L.last, r.complete = true := by
  intro r hr
  rw [served, hr, Option.any_some, Bool.or_eq_false_iff] at h
  simpa using h.1

/-- A transition may be opened if every other one is complete. -/
theorem Single.opened {source : Option ℤ} (h : L.Single) (hserved : L.served source = false) :
    L.opened.Single := by
  intro i r hi hlt
  simp only [Ledger.opened, List.length_append, List.length_singleton] at hlt
  have hi' : L.transitions[i]? = some r := by
    rw [← hi, Ledger.opened]
    exact (List.getElem?_append_left (by omega)).symm
  by_cases hlast : i + 1 < L.transitions.length
  · exact h i r hi' hlast
  · refine last_complete hserved r ?_
    rw [last, List.getLast?_eq_getElem?, show L.transitions.length - 1 = i by omega]
    exact hi'

/-- A transition is changed that was not over. -/
theorem Single.update {t : ℕ} {f : ReleaseTransition → ReleaseTransition} (h : L.Single)
    (hf : ∀ r, r.complete = true → (f r).complete = true) : (L.update t f).Single := by
  intro i r hi hlt
  simp only [Ledger.update, List.length_modify] at hlt
  rw [Ledger.update, List.getElem?_modify, Option.map_eq_map, Option.map_eq_some_iff] at hi
  obtain ⟨r₀, hr₀, rfl⟩ := hi
  split
  · exact hf r₀ (h i r₀ hr₀ hlt)
  · exact h i r₀ hr₀ hlt

end Ledger

/-- One transition at most is not over. -/
theorem Protocol.single {config : RuntimeConfig} {L L' : Ledger} {φ φ' : Phase} (hsingle : L.Single)
    (h : Protocol config L φ L' φ') : L'.Single := by
  have hcongr : ∀ {M : Ledger}, L'.transitions = M.transitions → M.Single → L'.Single := by
    intro M heq hM
    rwa [Ledger.Single, heq]
  rcases h.transitions_cases with ⟨heq, _⟩ | ⟨call, _, hserved, heq, _⟩ | ⟨call, t, _, heq, _⟩ |
    ⟨call, t, result, _, heq, _⟩
  · exact hcongr heq hsingle
  · exact hcongr (by rw [heq, Ledger.transitions_bound]) (hsingle.opened hserved)
  · exact hcongr heq (hsingle.update fun _ hr => hr)
  · exact hcongr heq (hsingle.update (f := fun r => _) fun _ _ => rfl)

/-! ## Runs of the protocol -/

/-- What holds of the permits, the load lock, the model and the transitions. -/
structure Guarded (config : RuntimeConfig) (c : Config Ledger Phase) : Prop where
  permits : Conserved (Phase.held config) Ledger.permits config.permitCount c
  lock : Conserved Phase.locks Ledger.unlocked 1 c
  fits : ∀ φ ∈ c.locals, φ.Fits c.shared.model
  single : c.shared.Single

namespace Guarded

variable {config : RuntimeConfig} {c c' : Config Ledger Phase} {i : ℕ} {φ φ' : Phase}

/-- The lock is taken while a thread holds it. -/
theorem locked (h : Guarded config c) (hi : c.locals[i]? = some φ) (hφ : φ.locks = 1) :
    c.shared.locked = true := by
  have hle := held_le_total Phase.locks hi
  have hlock := h.lock
  rw [Conserved, Ledger.unlocked] at hlock
  by_contra hnot
  rw [if_neg hnot] at hlock
  omega

/-- Every step of a thread keeps all of it. -/
theorem moves (h : Guarded config c) (hmoves : Moves (Protocol config) c c' i φ φ') :
    Guarded config c' where
  permits := h.permits.moves hmoves hmoves.step.permits_add_held
  lock := h.lock.moves hmoves (hmoves.step.unlocked_add_locks (h.locked hmoves.thread))
  fits := by
    rw [hmoves.locals]
    refine forall_mem_set (hmoves.step.fits (h.fits φ (List.mem_of_getElem? hmoves.thread))) ?_
    intro j ψ hji hj
    have hψ := h.fits ψ (List.mem_of_getElem? hj)
    -- The other thread has the load lock, or a permit, and neither is left for it.
    have hnolock : φ.locks = 1 → ψ.locks = 0 := fun hone =>
      h.lock.eq_zero hji hmoves.thread hj hone.ge
    rcases hmoves.step.model_cases with heq | ⟨g, rfl⟩ | ⟨call, t, rfl⟩
    · rwa [heq]
    · have hnone : c.shared.model = none := h.fits _ (List.mem_of_getElem? hmoves.thread)
      have hlocks := hnolock rfl
      cases ψ with
      | loading _ => cases hlocks
      | loaded _ => cases hlocks
      | inference _ => exact absurd hnone hψ
      | _ => exact trivial
    · have hlocks := hnolock rfl
      have hheld := h.permits.eq_zero hji hmoves.thread hj le_rfl
      cases ψ with
      | loading _ => cases hlocks
      | loaded _ => cases hlocks
      | inference _ => cases hheld
      | _ => exact trivial
  single := hmoves.step.single h.single

end Guarded

/-- The threads of the runtime as the protocol sees them. -/
def runtimePhases (config : RuntimeConfig) (c : Config ModelRuntime RuntimeThread) :
    Config Ledger Phase := c.map ModelRuntime.ledger fun th => th.point.phase config

/-- A step of a thread is one of the protocol. -/
theorem protocol_of_threadStep {config : RuntimeConfig} {s s' : ModelRuntime} {th th' : RuntimeThread}
    (h : ofStep (threadStep config) s th s' th') :
    Protocol config s.ledger (th.point.phase config) s'.ledger (th'.point.phase config) := by
  obtain ⟨ch, h⟩ := h
  obtain ⟨⟨s₁, p₁⟩, hstep, heq⟩ := Option.map_eq_some_iff.1 h
  obtain ⟨rfl, rfl⟩ := Prod.mk.inj heq
  exact conforms_step hstep

/-- At first all permits are free. -/
theorem guarded_start (config : RuntimeConfig) (n : ℕ) :
    Guarded config (runtimePhases config (startThreads config n)) where
  permits := by
    simp [Conserved, runtimePhases, startThreads, Config.map, total, ledger, ModelRuntime.new,
      Point.phase, Phase.held]
  lock := by
    simp [Conserved, runtimePhases, startThreads, Config.map, total, ledger, ModelRuntime.new,
      Point.phase, Phase.locks, Ledger.unlocked]
  fits := by
    intro φ hφ
    simp only [runtimePhases, startThreads, Config.map, List.map_replicate] at hφ
    obtain rfl := List.eq_of_mem_replicate hφ
    exact trivial
  single := by
    intro i r hi
    simp [runtimePhases, startThreads, Config.map, ledger, ModelRuntime.new] at hi

/-- In every run the permits are accounted for. -/
theorem guarded_of_runs {config : RuntimeConfig} {n : ℕ} {c : Config ModelRuntime RuntimeThread}
    (h : Runs (ofStep (threadStep config)) (startThreads config n) c) :
    Guarded config (runtimePhases config c) := by
  have hruns : Runs (Protocol config) _ (runtimePhases config c) :=
    h.map fun _ _ _ _ hstep => protocol_of_threadStep hstep
  exact hruns.invariant (guarded_start config n) fun _ _ _ _ _ hguarded hmoves => hguarded.moves hmoves

/-! ## Runs of the runtime -/

/-- The permits that a thread has taken and not given back. -/
def RuntimeThread.Paired (config : RuntimeConfig) (th : RuntimeThread) : Prop :=
  th.taken = th.returned + (th.point.phase config).held config

/-- A thread gives back what it took. -/
theorem paired_of_threadStep {config : RuntimeConfig} {s s' : ModelRuntime} {th th' : RuntimeThread}
    (hpaired : th.Paired config) (h : ofStep (threadStep config) s th s' th') :
    th'.Paired config := by
  have hheld := (protocol_of_threadStep h).permits_add_held
  obtain ⟨ch, h⟩ := h
  obtain ⟨⟨s₁, p₁⟩, hstep, heq⟩ := Option.map_eq_some_iff.1 h
  obtain ⟨rfl, rfl⟩ := Prod.mk.inj heq
  simp only [RuntimeThread.Paired, ledger] at hpaired hheld ⊢
  omega

/-- So do all threads in every run. -/
theorem paired_of_runs {config : RuntimeConfig} {n : ℕ} {c : Config ModelRuntime RuntimeThread}
    (h : Runs (ofStep (threadStep config)) (startThreads config n) c) :
    ∀ th ∈ c.locals, th.Paired config := by
  refine h.invariant (I := fun c => ∀ th ∈ c.locals, th.Paired config) ?_ ?_
  · intro th hth
    obtain rfl := List.eq_of_mem_replicate hth
    rfl
  · intro c c' i th th' hpaired hmoves
    rw [hmoves.locals]
    refine forall_mem_set ?_ fun j b _ hj => hpaired b (List.mem_of_getElem? hj)
    exact paired_of_threadStep (hpaired th (List.mem_of_getElem? hmoves.thread)) hmoves.step

/-- The thread is inside of `runtime.model.transcribe`. -/
def Point.infers : Point → Bool
  | .running _ => true
  | .unwinding _ _ => true
  | _ => false

/-- A thread that infers is in the phase of an inference. -/
theorem Point.phase_of_infers (config : RuntimeConfig) {p : Point} (h : p.infers = true) :
    ∃ g, p.phase config = .inference g := by
  cases p with
  | running generation => exact ⟨generation, rfl⟩
  | unwinding generation outcome => exact ⟨generation, rfl⟩
  | _ => cases h

/-- While a thread is in an inference, no step takes the model away. -/
theorem Guarded.model_of_moves {config : RuntimeConfig} {c c' : Config Ledger Phase} {i : ℕ}
    {φ φ' : Phase} (h : Guarded config c) {g : ℕ} (hg : .inference g ∈ c.locals)
    (hmoves : Moves (Protocol config) c c' i φ φ') : c'.shared.model ≠ none := by
  have hmodel : c.shared.model ≠ none := h.fits _ hg
  rcases hmoves.step.model_cases with heq | ⟨g', rfl⟩ | ⟨call, t, rfl⟩
  · rwa [heq]
  · exact absurd (h.fits _ (List.mem_of_getElem? hmoves.thread)) hmodel
  · obtain ⟨j, hj⟩ := List.mem_iff_getElem?.1 hg
    have hji : j ≠ i := by
      rintro rfl
      cases hj.symm.trans hmoves.thread
    cases h.permits.eq_zero hji hmoves.thread hj le_rfl

/-- Whatever the threads do, no model is unloaded under an inference, at most one transition is
    active, and every permit is free or held by a thread, which gives back what it took. -/
theorem no_unload_under_inference (config : RuntimeConfig) (n : ℕ)
    (c : Config ModelRuntime RuntimeThread)
    (h : Runs (ofStep (threadStep config)) (startThreads config n) c) :
    (∀ th ∈ c.locals, th.point.infers = true → c.shared.model ≠ none ∧
      ∀ c' i th₁ th₂, Moves (ofStep (threadStep config)) c c' i th₁ th₂ → c'.shared.model ≠ none) ∧
    (∀ (i j : ℕ) (r r' : ReleaseTransition), c.shared.transitions[i]? = some r → c.shared.transitions[j]? = some r' →
      r.complete = false → r'.complete = false → i = j) ∧
    c.shared.permits + (c.locals.map fun th => th.taken - th.returned).sum = config.permitCount ∧
    ∀ th ∈ c.locals, th.returned ≤ th.taken ∧ (th.point = .idle → th.taken = th.returned) := by
  have hguarded := guarded_of_runs h
  have hpaired := paired_of_runs h
  refine ⟨fun th hth hinfers => ?_, fun i j r r' hi hj hr hr' => ?_, ?_, fun th hth => ?_⟩
  · obtain ⟨g, hg⟩ := Point.phase_of_infers config hinfers
    have hmem : Phase.inference g ∈ (runtimePhases config c).locals :=
      hg ▸ List.mem_map_of_mem hth
    refine ⟨hguarded.fits _ hmem, fun c' i th₁ th₂ hmoves => ?_⟩
    exact hguarded.model_of_moves hmem (hmoves.map fun _ _ _ _ => protocol_of_threadStep)
  · -- A transition that is not complete is the last one, so there are no two of them.
    have hlast : ∀ i r, c.shared.transitions[i]? = some r → r.complete = false →
        c.shared.transitions.length = i + 1 := by
      intro i r hi hr
      obtain ⟨hlt, _⟩ := List.getElem?_eq_some_iff.1 hi
      by_contra hne
      have hcomplete := hguarded.single i r hi (show i + 1 < c.shared.transitions.length by omega)
      rw [hr] at hcomplete
      cases hcomplete
    have := hlast i r hi hr
    have := hlast j r' hj hr'
    omega
  · -- What a thread has taken and not given back is what its phase holds.
    have hsum : (c.locals.map fun th => th.taken - th.returned) =
        c.locals.map fun th => (th.point.phase config).held config := by
      refine List.map_congr_left fun th hth => ?_
      have := hpaired th hth
      rw [RuntimeThread.Paired] at this
      omega
    have hpermits := hguarded.permits
    rw [hsum]
    rw [Conserved, total, runtimePhases, Config.map, List.map_map] at hpermits
    exact hpermits
  · have := hpaired th hth
    rw [RuntimeThread.Paired] at this
    refine ⟨by omega, fun hidle => ?_⟩
    rw [hidle] at this
    exact this

/-- One permit. -/
def onePermit : RuntimeConfig := ⟨1, false, le_rfl⟩

/-- The steps of one thread up to its inference. -/
def toInference (i : ℕ) : List (ℕ × Choice) :=
  (i, { call := .transcribeWithModel }) :: List.replicate 10 (i, {})

/-- A run in which a thread infers with the only permit: the model stays resident. -/
theorem no_unload_under_inference_running :
    ∃ c, Runs (ofStep (threadStep onePermit)) (startThreads onePermit 1) c ∧
      c.locals.map (·.point) = [.running 0] ∧ c.shared.permits = 0 ∧ c.shared.model ≠ none := by
  have hexec : ((exec (threadStep onePermit) (startThreads onePermit 1)
      ((0, { call := .reopenModelAdmission }) :: toInference 0)).map fun c =>
        (c.locals.map (·.point), c.shared.permits)) = some ([.running 0], 0) := by
    decide +kernel
  obtain ⟨c, hc, heq⟩ := Option.map_eq_some_iff.1 hexec
  obtain ⟨hpoints, hpermits⟩ := Prod.mk.inj heq
  have hruns : Runs (ofStep (threadStep onePermit)) (startThreads onePermit 1) c :=
    runs_of_exec _ hc fun a _ _ _ _ h => ⟨a, h⟩
  obtain ⟨hinference, _⟩ := no_unload_under_inference onePermit 1 c hruns
  refine ⟨c, hruns, hpoints, hpermits, ?_⟩
  obtain ⟨th, hth, hpoint⟩ : ∃ th ∈ c.locals, th.point = .running 0 := by
    have hmem : Point.running 0 ∈ c.locals.map (·.point) := by rw [hpoints]; exact List.mem_cons_self
    exact List.mem_map.1 hmem
  exact (hinference th hth (by rw [hpoint]; rfl)).1

end Subgen

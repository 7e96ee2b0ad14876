import Subgen.Runtime.Permits

/-!
# Owners of transitions

A transition that is active has at most one owner, and the owner works on the last one
(`Owned`). From the time its model is gone until it is complete, nobody has a slot and
nothing can be loaded, for a slot is only granted while no transition is active.

These are invariants of the protocol, for any number of threads: the owners of transitions and the
holders of slots are counted over all threads, and each step changes the count of one thread and the
ledger in the same way. What a step leaves of the last transition is said once (`last_opened`, `last_update`,
`last_completed`), so that the invariant is kept by each step for the same few reasons (`moves`).

* `Owned`: the invariant, with the permits that are accounted for;
* `generations`: along a run the generations only go up.
-/

namespace Subgen

open Interleaving

namespace Phase

/-- Whether a thread has a transition of its own. -/
def owns (φ : Phase) : ℕ := if φ.owned.isSome then 1 else 0

/-- A phase that names a transition owns one. -/
theorem owns_of_some {φ : Phase} {t : ℕ} (h : φ.owned = some t) : φ.owns = 1 := by
  rw [owns, h]
  rfl

/-- A phase that names none owns none. -/
theorem owns_of_none {φ : Phase} (h : φ.owned = none) : φ.owns = 0 := by
  rw [owns, h]
  rfl

/-- A phase owns at most one transition. -/
theorem owns_le_one (φ : Phase) : φ.owns ≤ 1 := by
  rw [owns]
  split <;> decide

/-- A slot was granted, and the permit was not given back. -/
def inSlot : Phase → Bool
  | .slot _ => true
  | .locked _ => true
  | .loading _ => true
  | .loaded _ => true
  | .inference _ => true
  | _ => false

/-- A phase inside a slot holds one permit. -/
theorem held_of_inSlot {config : RuntimeConfig} {φ : Phase} (h : φ.inSlot = true) :
    φ.held config = 1 := by
  cases φ with
  | slot _ => rfl
  | locked _ => rfl
  | loading _ => rfl
  | loaded _ => rfl
  | inference _ => rfl
  | _ => cases h

end Phase

/-- The number of active transitions. -/
def Ledger.activeCount (L : Ledger) : ℕ := if L.active then 1 else 0

/-- At most one transition counts as active. -/
theorem Ledger.activeCount_le_one (L : Ledger) : L.activeCount ≤ 1 := by
  rw [activeCount]
  split <;> decide

namespace Shift

variable {L L' : Ledger}

/-- A shift never lowers the generation. -/
theorem generation_le (h : Shift L L') : L.generation ≤ L'.generation := by
  cases h with
  | same => exact le_rfl
  | close _ => exact Nat.le_succ _
  | reopen _ => exact le_rfl
  | direct => exact le_rfl

end Shift

namespace Ledger

variable (L : Ledger)

/-- The next generation is not below the current one. -/
theorem generation_le_next : L.generation ≤ L.next := by
  rw [next]
  split
  · exact Nat.le_succ _
  · exact le_rfl

/-- An opened transition is the last one. -/
theorem last_opened : L.opened.last = some ⟨L.next, false, false, false, false, 0⟩ :=
  List.getLast?_concat

/-- An opened transition is active. -/
theorem active_opened : L.opened.active = true := by
  rw [active, last_opened]
  rfl

variable {L} {t : ℕ} {f : ReleaseTransition → ReleaseTransition}

/-- Updating the last transition updates what is seen as the last. -/
theorem last_update (ht : t + 1 = L.transitions.length) : (L.update t f).last = L.last.map f := by
  rw [last, last, List.getLast?_eq_getElem?, List.getLast?_eq_getElem?, update, List.length_modify,
    List.getElem?_modify, Option.map_eq_map, ← ht]
  simp

/-- The last transition is one of the transitions. -/
theorem mem_of_last {r : ReleaseTransition} (h : r ∈ L.last) : r ∈ L.transitions :=
  List.mem_of_getLast? h

/-- Completing the last transition fills in its result. -/
theorem last_completed (ht : t + 1 = L.transitions.length) (result : ReleaseResult) :
    (L.completed t result).last = L.last.map fun r => { r with
      complete := true
      didUnload := result.didUnload
      failed := result.isFailed
      completedAt := L.loads } := last_update ht

/-- Activity depends on the transitions alone. -/
theorem active_of_congr {L' : Ledger} (h : L'.transitions = L.transitions) : L'.active = L.active := by
  rw [active, last, h, active, last]

/-- Clearing the model leaves the activity alone. -/
theorem active_emptied (ht : t + 1 = L.transitions.length) : (L.emptied t).active = L.active := by
  rw [active, emptied, last_update ht, active]
  cases L.last <;> rfl

/-- Completing the last transition ends the activity. -/
theorem active_completed (ht : t + 1 = L.transitions.length) (result : ReleaseResult) :
    (L.completed t result).active = false := by
  rw [active, last_completed ht]
  cases L.last <;> rfl

end Ledger

namespace Protocol

variable {config : RuntimeConfig} {L L' : Ledger} {φ φ' : Phase}

/-- No step of the protocol lowers the generation. -/
theorem generation_le (h : Protocol config L φ L' φ') : L.generation ≤ L'.generation := by
  cases h with
  | shift φ h => exact h.generation_le
  | fail g h => exact h.generation_le
  | discard g h kept => exact h.generation_le
  | forget g h => exact h.generation_le
  | ticket g h => exact h.generation_le
  | done call h => exact h.generation_le
  | unload call t result _ h => exact h.generation_le
  | own call h => rw [Ledger.generation_bound]; exact L.generation_le_next
  | abandon call h => rw [Ledger.generation_bound]; exact L.generation_le_next
  | join call h => rw [Ledger.generation_bound]
  | abort call t hidle => split <;> exact le_rfl
  | _ => exact le_rfl

/-- No transition is newer than the generation. -/
theorem generations (h : Protocol config L φ L' φ')
    (hle : ∀ r ∈ L.transitions, r.generation ≤ L.generation) :
    ∀ r ∈ L'.transitions, r.generation ≤ L'.generation := by
  have hgeneration := h.generation_le
  have hmodify : ∀ (t : ℕ) (f : ReleaseTransition → ReleaseTransition),
      (∀ r, (f r).generation = r.generation) →
      ∀ r ∈ L.transitions.modify t f, r.generation ≤ L'.generation := by
    intro t f hf r hr
    obtain ⟨j, hj⟩ := List.mem_iff_getElem?.1 hr
    rw [List.getElem?_modify, Option.map_eq_map, Option.map_eq_some_iff] at hj
    obtain ⟨r₀, hr₀, rfl⟩ := hj
    have hle₀ := hle r₀ (List.mem_of_getElem? hr₀)
    split
    · rw [hf]
      omega
    · omega
  rcases h.transitions_cases with ⟨heq, _⟩ | ⟨call, rfl, hserved, heq, _⟩ |
    ⟨call, t, _, heq, _, _⟩ | ⟨call, t, result, _, heq, _⟩
  · rw [heq]
    exact fun r hr => (hle r hr).trans hgeneration
  · rw [heq, Ledger.transitions_bound, Ledger.generation_bound]
    intro r hr
    rcases List.mem_append.1 hr with hr | hr
    · exact (hle r hr).trans L.generation_le_next
    · rw [List.mem_singleton.1 hr]
      exact le_rfl
  · rw [heq]
    exact hmodify t _ fun _ => rfl
  · rw [heq]
    exact hmodify t (fun r => _) fun _ => rfl

/-- A slot is granted while the admission is open and no transition is active. -/
theorem inSlot_cases (h : Protocol config L φ L' φ') (hφ' : φ'.inSlot = true) :
    φ.inSlot = true ∨ (L.closed = false ∧ L.active = false) := by
  cases h with
  | shift φ h => exact .inl hφ'
  | grant hopen hinactive => exact .inr ⟨hopen, hinactive⟩
  | complete call t result closed hclosed hφ =>
    rcases hφ with rfl | ⟨rfl, _⟩ <;> cases hφ'
  | leave g => exact .inl rfl
  | lock g h => exact .inl rfl
  | find g h => exact .inl rfl
  | load g h => exact .inl rfl
  | fail g h => exact .inl rfl
  | publish g => exact .inl rfl
  | discard g h kept => exact .inl rfl
  | unlock g => exact .inl rfl
  | unlockLoaded g => exact .inl rfl
  | infer g => exact .inl rfl
  | inferred g => exact .inl rfl
  | _ => cases hφ'

/-- What happens to the model and to the number of loads. -/
theorem loads_cases (h : Protocol config L φ L' φ') :
    (L'.loads = L.loads ∧ (L'.model = L.model ∨ L'.model = none)) ∨
      (φ.inSlot = true ∧ L'.loads = L.loads + 1 ∧
        (L'.model = some (L.loads + 1) ∨ L'.model = none)) := by
  cases h with
  | shift φ h => exact .inl ⟨h.loads_eq, .inl h.model_eq⟩
  | fail g h => exact .inl ⟨h.loads_eq, .inl h.model_eq⟩
  | forget g h => exact .inl ⟨h.loads_eq, .inl h.model_eq⟩
  | ticket g h => exact .inl ⟨h.loads_eq, .inl h.model_eq⟩
  | done call h => exact .inl ⟨h.loads_eq, .inl h.model_eq⟩
  | publish g => exact .inr ⟨rfl, rfl, .inl rfl⟩
  | discard g h kept =>
    refine .inr ⟨rfl, congrArg (· + 1) h.loads_eq, ?_⟩
    cases kept with
    | true => exact .inl (congrArg (fun n => some (n + 1)) h.loads_eq)
    | false => exact .inr rfl
  | abort call t hidle =>
    split
    · exact .inl ⟨rfl, .inl rfl⟩
    · exact .inl ⟨rfl, .inl rfl⟩
  | unload call t result _ h => exact .inl ⟨h.loads_eq, .inr rfl⟩
  | own call h => exact .inl ⟨Ledger.loads_bound _ _ _, .inl (Ledger.model_bound _ _ _)⟩
  | abandon call h => exact .inl ⟨Ledger.loads_bound _ _ _, .inl (Ledger.model_bound _ _ _)⟩
  | join call h => exact .inl ⟨Ledger.loads_bound _ _ _, .inl (Ledger.model_bound _ _ _)⟩
  | _ => exact .inl ⟨rfl, .inl rfl⟩

end Protocol

/-! ## One owner -/

/-- An active transition has at most one owner, which works on the last one. -/
structure Owned (c : Config Ledger Phase) : Prop where
  count : total Phase.owns c.locals ≤ c.shared.activeCount
  last : ∀ φ ∈ c.locals, ∀ t ∈ φ.owned, t + 1 = c.shared.transitions.length

namespace Owned

variable {config : RuntimeConfig} {c c' : Config Ledger Phase} {i j : ℕ} {φ φ' ψ : Phase} {t : ℕ}

/-- A thread that owns a transition keeps it active. -/
theorem active (h : Owned c) (hi : c.locals[i]? = some φ) (ht : φ.owned = some t) :
    c.shared.active = true := by
  have hle := held_le_total Phase.owns hi
  have hcount := h.count
  rw [Phase.owns_of_some ht] at hle
  by_contra hnot
  rw [Ledger.activeCount, if_neg hnot] at hcount
  omega

/-- There is no second owner. -/
theorem eq_none (h : Owned c) (hi : c.locals[i]? = some φ) (ht : φ.owned = some t) (hji : j ≠ i)
    (hj : c.locals[j]? = some ψ) : ψ.owned = none := by
  have hle := held_add_held_le_total Phase.owns hji hi hj
  have hcount := h.count
  have hone := c.shared.activeCount_le_one
  by_contra hne
  obtain ⟨t', ht'⟩ := Option.ne_none_iff_exists'.1 hne
  rw [Phase.owns_of_some ht, Phase.owns_of_some ht'] at hle
  omega

/-- The owned transition is the newest one. -/
theorem length_of_owned (h : Owned c) (hi : c.locals[i]? = some φ) (ht : φ.owned = some t) :
    t + 1 = c.shared.transitions.length := h.last φ (List.mem_of_getElem? hi) t ht

/-- Phases that own the same transition count alike. -/
theorem owns_congr (heq : φ'.owned = φ.owned) : φ'.owns = φ.owns := by rw [Phase.owns, heq, Phase.owns]

/-- A step that changes neither the owner nor what is active. -/
theorem congr (h : Owned c) (hmoves : Moves (Protocol config) c c' i φ φ')
    (howned : φ'.owned = φ.owned) (hactive : c'.shared.active = c.shared.active)
    (hlength : c'.shared.transitions.length = c.shared.transitions.length) : Owned c' where
  count := by
    have hset := total_set Phase.owns hmoves.thread φ'
    rw [hmoves.locals, Ledger.activeCount, hactive]
    have hcount := h.count
    rw [Ledger.activeCount] at hcount
    rw [owns_congr howned] at hset
    omega
  last := by
    rw [hmoves.locals, hlength]
    refine forall_mem_set ?_ fun j ψ _ hj => h.last ψ (List.mem_of_getElem? hj)
    rw [howned]
    exact h.last φ (List.mem_of_getElem? hmoves.thread)

/-- Every move of a thread keeps the ownership. -/
theorem moves (h : Owned c) (hmoves : Moves (Protocol config) c c' i φ φ') : Owned c' := by
  have hset := total_set Phase.owns hmoves.thread φ'
  rcases hmoves.step.transitions_cases with ⟨heq, howned⟩ | ⟨call, rfl, hserved, heq, howned⟩ |
    ⟨call, t, rfl, heq, _, howned⟩ | ⟨call, t, result, rfl, heq, howned⟩
  · exact h.congr hmoves howned (Ledger.active_of_congr heq) (by rw [heq])
  · -- No transition was active, so that nobody owned one.
    have hinactive : c.shared.active = false := by
      rw [Ledger.active]
      cases hlast : c.shared.last with
      | none => rfl
      | some r => simp [Ledger.last_complete hserved r hlast]
    have htransitions : c'.shared.transitions = c.shared.opened.transitions := by
      rw [heq, Ledger.transitions_bound]
    have hactive : c'.shared.active = true :=
      (Ledger.active_of_congr htransitions).trans c.shared.active_opened
    have hzero : total Phase.owns c.locals = 0 := by
      have hcount := h.count
      rw [Ledger.activeCount, hinactive] at hcount
      simpa using hcount
    constructor
    · rw [hmoves.locals, Ledger.activeCount, if_pos hactive]
      have hone := φ'.owns_le_one
      omega
    · rw [hmoves.locals]
      refine forall_mem_set ?_ ?_
      · intro t ht
        rcases howned with hsome | hnone
        · rw [hsome] at ht
          obtain rfl := Option.some.inj ht
          rw [htransitions, Ledger.opened]
          simp
        · rw [hnone] at ht
          cases ht
      · intro j ψ _ hj t ht
        have hactive' := h.active hj ht
        rw [hinactive] at hactive'
        cases hactive'
  · -- The owner empties its transition, which is the last one and stays active.
    have ht := h.length_of_owned hmoves.thread rfl
    refine h.congr hmoves howned ?_ (by rw [heq]; exact List.length_modify ..)
    exact (Ledger.active_of_congr heq).trans (Ledger.active_emptied ht)
  · -- The owner completes its transition, and there was no other owner.
    have ht := h.length_of_owned hmoves.thread rfl
    have hlength : c'.shared.transitions.length = c.shared.transitions.length := by
      rw [heq]
      exact List.length_modify ..
    constructor
    · rw [hmoves.locals]
      have hcount := h.count
      have hone := c.shared.activeCount_le_one
      have howns : (Phase.returning call t 0 result).owns = 1 := rfl
      rw [Phase.owns_of_none howned] at hset
      omega
    · rw [hmoves.locals]
      refine forall_mem_set ?_ fun j ψ hji hj t' ht' => ?_
      · rw [howned]
        rintro _ ⟨⟩
      · rw [h.eq_none hmoves.thread rfl hji hj] at ht'
        cases ht'

end Owned

/-- Nothing is owned at the start. -/
theorem owned_start (config : RuntimeConfig) (n : ℕ) :
    Owned (runtimePhases config (startThreads config n)) where
  count := by
    simp [runtimePhases, startThreads, Config.map, total, Point.phase, Phase.owns, Phase.owned]
  last := by
    intro φ hφ
    simp only [runtimePhases, startThreads, Config.map, List.map_replicate] at hφ
    obtain rfl := List.eq_of_mem_replicate hφ
    rintro t ⟨⟩

end Subgen

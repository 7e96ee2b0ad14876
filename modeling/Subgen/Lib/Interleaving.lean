import Mathlib.Algebra.BigOperators.Group.List.Basic
import Mathlib.Algebra.Order.BigOperators.Group.List
import Mathlib.Algebra.Order.Group.Multiset
import Mathlib.Tactic.Abel
import Mathlib.Tactic.Linarith

/-!
# Interleavings of threads

Any number of threads over a shared state: each one has a state of its own, and one step
takes one thread on (`R s l s' l'`: from the shared state `s` and its own state `l`). A step
that is a function of an input is such a relation, too (`ofStep`), and a schedule of it can
be run (`exec`).

* `Runs.invariant`: what holds at the start and is kept by every step holds along a run;
* `Runs.map`: a run of one system is a run of another one that follows its steps;
* `RunsWhen`: runs in which every step meets a condition;
* `Conserved`: a resource that is in the shared state or held by threads;
* `gathered`: things that threads hold, and how one step changes what they hold together;
* `forall_mem_set`: a step may be looked at thread by thread, the one that moves and the
  others.
-/

namespace Subgen

namespace Interleaving

variable {σ ℓ ι : Type}

/-- A shared state, and the states of the threads. -/
structure Config (σ ℓ : Type) where
  shared : σ
  locals : List ℓ

section Runs

variable (R : σ → ℓ → σ → ℓ → Prop)

/-- One step of one thread. -/
structure Moves (c c' : Config σ ℓ) (i : ℕ) (l l' : ℓ) : Prop where
  thread : c.locals[i]? = some l
  step : R c.shared l c'.shared l'
  locals : c'.locals = c.locals.set i l'

/-- A configuration is reached from another one. -/
inductive Runs (c : Config σ ℓ) : Config σ ℓ → Prop
  | refl : Runs c c
  | tail {c' c'' : Config σ ℓ} {i : ℕ} {l l' : ℓ} (h : Runs c c') (hmoves : Moves R c' c'' i l l') :
      Runs c c''

variable {R} {c c' c'' : Config σ ℓ}

/-- What every step keeps up holds along a run. -/
theorem Runs.invariant {I : Config σ ℓ → Prop} (hc : I c)
    (hstep : ∀ c' c'' i l l', I c' → Moves R c' c'' i l l' → I c'') (h : Runs R c c') : I c' := by
  induction h with
  | refl => exact hc
  | tail _ hmoves ih => exact hstep _ _ _ _ _ ih hmoves

/-- The configuration of another system. -/
def Config.map {σ' ℓ' : Type} (f : σ → σ') (g : ℓ → ℓ') (c : Config σ ℓ) : Config σ' ℓ' :=
  ⟨f c.shared, c.locals.map g⟩

theorem Moves.map {σ' ℓ' : Type} {R' : σ' → ℓ' → σ' → ℓ' → Prop} {f : σ → σ'} {g : ℓ → ℓ'}
    {i : ℕ} {l l' : ℓ} (hstep : ∀ s l s' l', R s l s' l' → R' (f s) (g l) (f s') (g l'))
    (h : Moves R c c' i l l') : Moves R' (c.map f g) (c'.map f g) i (g l) (g l') where
  thread := by
    rw [Config.map, List.getElem?_map, h.thread]
    rfl
  step := hstep _ _ _ _ h.step
  locals := by rw [Config.map, Config.map, h.locals, List.map_set]

/-- A system whose steps are followed by those of another one. -/
theorem Runs.map {σ' ℓ' : Type} {R' : σ' → ℓ' → σ' → ℓ' → Prop} {f : σ → σ'} {g : ℓ → ℓ'}
    (hstep : ∀ s l s' l', R s l s' l' → R' (f s) (g l) (f s') (g l')) (h : Runs R c c') :
    Runs R' (c.map f g) (c'.map f g) := by
  induction h with
  | refl => exact .refl
  | tail _ hmoves ih => exact .tail ih (hmoves.map hstep)

end Runs

section Exec

variable (step : ι → σ → ℓ → Option (σ × ℓ))

/-- The steps of a function, with any input. -/
def ofStep (s : σ) (l : ℓ) (s' : σ) (l' : ℓ) : Prop := ∃ a, step a s l = some (s', l')

/-- One step after another, each of a thread and with an input. -/
def exec : Config σ ℓ → List (ℕ × ι) → Option (Config σ ℓ)
  | c, [] => some c
  | c, (i, a) :: rest =>
    match c.locals[i]? with
    | none => none
    | some l =>
      match step a c.shared l with
      | none => none
      | some (s, l') => exec ⟨s, c.locals.set i l'⟩ rest

variable {step} {c c' : Config σ ℓ} {R : σ → ℓ → σ → ℓ → Prop}

/-- A schedule that can be followed makes up a run, of all steps or of some of them. -/
theorem runs_of_exec (schedule : List (ℕ × ι)) (h : exec step c schedule = some c')
    (hR : ∀ a s l s' l', step a s l = some (s', l') → R s l s' l') : Runs R c c' := by
  suffices ∀ d, Runs R d c → Runs R d c' from this c .refl
  intro d hd
  induction schedule generalizing c with
  | nil =>
    obtain rfl := Option.some.inj h
    exact hd
  | cons move rest ih =>
    obtain ⟨i, a⟩ := move
    rw [exec] at h
    split at h
    · cases h
    · next l hl =>
      split at h
      · cases h
      · next s l' hstep => exact ih h (.tail hd ⟨hl, hR _ _ _ _ _ hstep, rfl⟩)

end Exec

/-! ## Runs under a condition -/

section RunsWhen

variable (R : σ → ℓ → σ → ℓ → Prop) (P : Config σ ℓ → ℕ → Bool)

/-- A run in which each step meets a condition, on all the threads before it and the one that moves. -/
inductive RunsWhen (c : Config σ ℓ) : Config σ ℓ → Prop
  | refl : RunsWhen c c
  | tail {c' c'' : Config σ ℓ} {i : ℕ} {l l' : ℓ} (h : RunsWhen c c') (hP : P c' i = true)
      (hmoves : Moves R c' c'' i l l') : RunsWhen c c''

variable {R P} {c c' : Config σ ℓ}

theorem RunsWhen.invariant {I : Config σ ℓ → Prop} (hc : I c)
    (hstep : ∀ c' c'' i l l', I c' → P c' i = true → Moves R c' c'' i l l' → I c'')
    (h : RunsWhen R P c c') : I c' := by
  induction h with
  | refl => exact hc
  | tail _ hP hmoves ih => exact hstep _ _ _ _ _ ih hP hmoves

variable {step : ι → σ → ℓ → Option (σ × ℓ)}

variable (step P) in
/-- One step after another, as long as the condition is met. -/
def execWhen : Config σ ℓ → List (ℕ × ι) → Option (Config σ ℓ)
  | c, [] => some c
  | c, move :: rest =>
    if P c move.1 then (exec step c [move]).bind fun c => execWhen c rest else none

/-- A schedule that can be followed makes up a run. -/
theorem runsWhen_of_execWhen (schedule : List (ℕ × ι)) (h : execWhen P step c schedule = some c') :
    RunsWhen (ofStep step) P c c' := by
  suffices ∀ d, RunsWhen (ofStep step) P d c → RunsWhen (ofStep step) P d c' from this c .refl
  intro d hd
  induction schedule generalizing c with
  | nil =>
    obtain rfl := Option.some.inj h
    exact hd
  | cons move rest ih =>
    obtain ⟨i, a⟩ := move
    obtain ⟨hP, hbind⟩ := Option.ite_none_right_eq_some.1 h
    obtain ⟨c₁, hone, hrest⟩ := Option.bind_eq_some_iff.1 hbind
    refine ih hrest ?_
    rw [exec] at hone
    split at hone
    · cases hone
    · next l hl =>
      split at hone
      · cases hone
      · next s l' hstep =>
        obtain rfl := Option.some.inj hone
        exact .tail hd hP ⟨hl, ⟨a, hstep⟩, rfl⟩

end RunsWhen

/-! ## Thread by thread -/

theorem forall_mem_set {l : List ℓ} {i : ℕ} {a : ℓ} {Q : ℓ → Prop} (ha : Q a)
    (hrest : ∀ j b, j ≠ i → l[j]? = some b → Q b) : ∀ b ∈ l.set i a, Q b := by
  intro b hb
  obtain ⟨j, hj⟩ := List.mem_iff_getElem?.1 hb
  by_cases hij : i = j
  · subst hij
    rw [List.getElem?_set_self'] at hj
    obtain ⟨_, _, rfl⟩ := Option.map_eq_some_iff.1 hj
    exact ha
  · rw [List.getElem?_set_ne hij] at hj
    exact hrest j b (Ne.symm hij) hj

/-! ## Resources -/

section Resources

variable (held : ℓ → ℕ)

/-- What the threads hold together. -/
def total (ls : List ℓ) : ℕ := (ls.map held).sum

variable {ls : List ℓ} {i j : ℕ} {l m : ℓ}

theorem total_set (hi : ls[i]? = some l) (l' : ℓ) :
    total held (ls.set i l') + held l = total held ls + held l' := by
  induction ls generalizing i with
  | nil => simp at hi
  | cons a ls ih =>
    cases i with
    | zero =>
      obtain rfl := Option.some.inj hi
      simp only [total, List.set_cons_zero, List.map_cons, List.sum_cons]
      omega
    | succ i =>
      have h := ih (by simpa using hi)
      simp only [total, List.set_cons_succ, List.map_cons, List.sum_cons] at h ⊢
      omega

theorem held_le_total (hi : ls[i]? = some l) : held l ≤ total held ls :=
  List.single_le_sum (fun _ _ => Nat.zero_le _) _ (List.mem_map_of_mem (List.mem_of_getElem? hi))

/-- Two threads hold no more than all of them. -/
theorem held_add_held_le_total (hij : j ≠ i) (hi : ls[i]? = some l) (hj : ls[j]? = some m) :
    held l + held m ≤ total held ls := by
  induction ls generalizing i j with
  | nil => simp at hi
  | cons a ls ih =>
    simp only [total, List.map_cons, List.sum_cons]
    cases i with
    | zero =>
      obtain rfl := Option.some.inj hi
      cases j with
      | zero => exact absurd rfl hij
      | succ j =>
        have hj' : ls[j]? = some m := by simpa using hj
        have h := held_le_total held hj'
        rw [total] at h
        omega
    | succ i =>
      have hi' : ls[i]? = some l := by simpa using hi
      cases j with
      | zero =>
        obtain rfl := Option.some.inj hj
        have h := held_le_total held hi'
        rw [total] at h
        omega
      | succ j =>
        have hne : j ≠ i := fun heq => hij (congrArg _ heq)
        have h := ih hne hi' (by simpa using hj)
        rw [total] at h
        omega

/-- There are `n` of a resource, some of them in the shared state and the rest held by threads. -/
def Conserved (free : σ → ℕ) (n : ℕ) (c : Config σ ℓ) : Prop :=
  free c.shared + total held c.locals = n

variable {held} {l' : ℓ} {free : σ → ℕ} {n : ℕ} {c c' : Config σ ℓ} {R : σ → ℓ → σ → ℓ → Prop}

theorem Conserved.moves (h : Conserved held free n c) (hmoves : Moves R c c' i l l')
    (hstep : free c'.shared + held l' = free c.shared + held l) : Conserved held free n c' := by
  have hset := total_set held hmoves.thread l'
  rw [Conserved] at h ⊢
  rw [hmoves.locals]
  omega

/-- A thread that holds everything is the only one that holds something. -/
theorem Conserved.eq_zero (h : Conserved held free n c) (hij : j ≠ i) (hi : c.locals[i]? = some l)
    (hj : c.locals[j]? = some m) (hall : n ≤ held l) : held m = 0 := by
  have hle := held_add_held_le_total held hij hi hj
  rw [Conserved] at h
  omega

end Resources

/-! ## Things that are handed around -/

section Gathered

variable {β : Type} (held : ℓ → Multiset β)

/-- What the threads hold together, one by one. -/
def gathered (ls : List ℓ) : Multiset β := (ls.map held).sum

variable {ls : List ℓ} {i : ℕ} {l : ℓ}

theorem gathered_set (hi : ls[i]? = some l) (l' : ℓ) :
    gathered held (ls.set i l') + held l = gathered held ls + held l' := by
  induction ls generalizing i with
  | nil => simp at hi
  | cons a ls ih =>
    cases i with
    | zero =>
      obtain rfl := Option.some.inj hi
      simp only [gathered, List.set_cons_zero, List.map_cons, List.sum_cons]
      abel
    | succ i =>
      have h := ih (by simpa using hi)
      simp only [gathered, List.set_cons_succ, List.map_cons, List.sum_cons] at h ⊢
      rw [add_assoc, h, add_assoc]

/-- A thread that holds the same as before changes nothing of it. -/
theorem gathered_set_of_eq (hi : ls[i]? = some l) {l' : ℓ} (h : held l' = held l) :
    gathered held (ls.set i l') = gathered held ls :=
  add_right_cancel ((gathered_set held hi l').trans (congrArg _ h))

variable {b : β}

/-- A thread takes something up. -/
theorem gathered_take (hi : ls[i]? = some l) {l' : ℓ} (h : held l = 0) (h' : held l' = {b}) :
    gathered held (ls.set i l') = b ::ₘ gathered held ls := by
  have hset := gathered_set held hi l'
  rwa [h, h', add_zero, add_comm, Multiset.singleton_add] at hset

/-- A thread hands something over. -/
theorem gathered_give (hi : ls[i]? = some l) {l' : ℓ} (h : held l = {b}) (h' : held l' = 0) :
    gathered held ls = b ::ₘ gathered held (ls.set i l') := by
  have hset := gathered_set held hi l'
  rw [h, h', add_zero, add_comm, Multiset.singleton_add] at hset
  exact hset.symm

variable {held}

theorem mem_gathered : b ∈ gathered held ls ↔ ∃ l ∈ ls, b ∈ held l := by
  induction ls with
  | nil => simp [gathered]
  | cons a ls ih =>
    rw [gathered, List.map_cons, List.sum_cons, Multiset.mem_add]
    simp only [List.exists_mem_cons_iff]
    exact or_congr_right ih

end Gathered

end Interleaving

end Subgen

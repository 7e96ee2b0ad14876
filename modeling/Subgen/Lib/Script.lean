import Mathlib.Logic.Relation

/-!
# Scripts

A *script* is a procedure that calls something outside, any number of times, and then returns or
raises. What a call answers and what it changes is the matter of a `Setting`, as are the
others, who may change the state between two calls, and where a process may be stopped.

* `Script.Meets`: each call of a script does only what it may do, whatever the answers and the
  others, and the script ends in states of its own; the rules compute it along the script, and
  `Meets.simulates` takes it from one setting to another;
* `Script.evaluate`: a script whose calls are answered by a function;
* `Script.Reached`: the states of a process that begins a script, is stopped or ends, and begins
  again; `Reached.keeps` is the rule for what holds in all of them, and `Holds.call` for what
  the next call does there.
-/

namespace Subgen

open Relation

/-- A procedure that calls `o : ω`, and goes on with the answer of type `ρ o`. -/
inductive Script (ω : Type) (ρ : ω → Type) (ε α : Type)
  | done (a : α)
  | fail (e : ε)
  | call (o : ω) (next : ρ o → Script ω ρ ε α)

/-- What calls answer, what others do in between, and what is left of the state where a process
    may be stopped. -/
structure Setting (σ ω : Type) (ρ : ω → Type) where
  answers : σ → (o : ω) → ρ o → σ → Prop
  others : σ → σ → Prop
  stops : σ → σ → Prop

namespace Script

variable {ω : Type} {ρ : ω → Type} {ε α β : Type}

/-- The answer of one call. -/
def ask (o : ω) : Script ω ρ ε (ρ o) := call o done

/-- One script after another. -/
def bind : Script ω ρ ε α → (α → Script ω ρ ε β) → Script ω ρ ε β
  | done a, f => f a
  | fail e, _ => fail e
  | call o next, f => call o fun r => (next r).bind f

/-- `try … except`. -/
def handle : Script ω ρ ε α → (ε → Script ω ρ ε α) → Script ω ρ ε α
  | done a, _ => done a
  | fail e, handler => handler e
  | call o next, handler => call o fun r => (next r).handle handler

instance : Monad (Script ω ρ ε) where
  pure := done
  bind := bind

instance : MonadExceptOf ε (Script ω ρ ε) where
  throw := fail
  tryCatch := handle

theorem bind_pure (p : Script ω ρ ε α) : p >>= pure = p := by
  change p.bind done = p
  induction p with
  | done a => rfl
  | fail e => rfl
  | call o next ih => exact congrArg (call o) (funext ih)

theorem bind_bind {γ : Type} (p : Script ω ρ ε α) (f : α → Script ω ρ ε β) (g : β → Script ω ρ ε γ) :
    p >>= f >>= g = p >>= fun a => f a >>= g := by
  change (p.bind f).bind g = p.bind fun a => (f a).bind g
  induction p with
  | done a => rfl
  | fail e => rfl
  | call o next ih => exact congrArg (call o) (funext ih)

/-! ## What a script does -/

section Meets

variable {σ : Type} (S : Setting σ ω ρ) (G : σ → σ → Prop)

/-- From the state `s` on, each call of the script keeps to `G`, and the script returns with `Q` or
    raises with `E`. -/
def Meets (Q : α → σ → Prop) (E : ε → σ → Prop) : Script ω ρ ε α → σ → Prop
  | done a, s => Q a s
  | fail e, s => E e s
  | call o next, s => ∀ s₁ r s₂, ReflTransGen S.others s s₁ → S.answers s₁ o r s₂ →
      G s₁ s₂ ∧ (next r).Meets Q E s₂

variable {S G} {Q : α → σ → Prop} {E : ε → σ → Prop} {p : Script ω ρ ε α} {s : σ}

@[simp] theorem meets_pure (a : α) : Meets S G Q E (pure a) s ↔ Q a s := Iff.rfl

@[simp] theorem meets_throw (e : ε) : Meets S G Q E (throw e) s ↔ E e s := Iff.rfl

@[simp] theorem meets_bind {f : α → Script ω ρ ε β} {Q : β → σ → Prop} :
    Meets S G Q E (p >>= f) s ↔ Meets S G (fun a s' => Meets S G Q E (f a) s') E p s := by
  change Meets S G Q E (p.bind f) s ↔ _
  induction p generalizing s with
  | done a => exact Iff.rfl
  | fail e => exact Iff.rfl
  | call o next ih => simp only [bind, Meets, ih]

@[simp] theorem meets_tryCatch {handler : ε → Script ω ρ ε α} :
    Meets S G Q E (tryCatch p handler) s ↔
      Meets S G Q (fun e s' => Meets S G Q E (handler e) s') p s := by
  change Meets S G Q E (p.handle handler) s ↔ _
  induction p generalizing s with
  | done a => exact Iff.rfl
  | fail e => exact Iff.rfl
  | call o next ih => simp only [handle, Meets, ih]

@[simp] theorem meets_ite {c : Prop} [Decidable c] {q : Script ω ρ ε α} :
    Meets S G Q E (if c then p else q) s ↔
      (c → Meets S G Q E p s) ∧ (¬ c → Meets S G Q E q s) := by
  by_cases h : c <;> simp [h]

theorem Meets.mono {Q' : α → σ → Prop} {E' : ε → σ → Prop} (h : Meets S G Q E p s)
    (hQ : ∀ a s, Q a s → Q' a s) (hE : ∀ e s, E e s → E' e s) : Meets S G Q' E' p s := by
  induction p generalizing s with
  | done a => exact hQ a s h
  | fail e => exact hE e s h
  | call o next ih =>
    intro s₁ r s₂ hothers hanswers
    obtain ⟨hcall, hnext⟩ := h s₁ r s₂ hothers hanswers
    exact ⟨hcall, ih r hnext⟩

/-- What is shown in a setting `T` that goes along with `S` by `R`: the others keep `R`, and an
    answer in `S` is one in `T`, which keeps `R` too as far as the call does what it may do. -/
theorem Meets.simulates {τ : Type} {T : Setting τ ω ρ} {H : τ → τ → Prop} {R : τ → σ → Prop}
    {Q : α → τ → Prop} {E : ε → τ → Prop} {t : τ}
    (hothers : ∀ t s s', R t s → S.others s s' → R t s')
    (hanswers : ∀ t s o r s', R t s → S.answers s o r s' →
      ∃ t', T.answers t o r t' ∧ (H t t' → G s s' ∧ R t' s'))
    (h : Meets T H Q E p t) (hR : R t s) :
    Meets S G (fun a s => ∃ t, Q a t ∧ R t s) (fun e s => ∃ t, E e t ∧ R t s) p s := by
  induction p generalizing s t with
  | done a => exact ⟨t, h, hR⟩
  | fail e => exact ⟨t, h, hR⟩
  | call o next ih =>
    intro s₁ r s₂ hbefore hanswer
    have hR₁ : R t s₁ := by
      clear hanswer
      induction hbefore with
      | refl => exact hR
      | tail _ hstep hR' => exact hothers _ _ _ hR' hstep
    obtain ⟨t', hanswer', hcall⟩ := hanswers _ _ _ _ _ hR₁ hanswer
    obtain ⟨hH, hnext⟩ := h t r t' .refl hanswer'
    obtain ⟨hG, hR₂⟩ := hcall hH
    exact ⟨hG, ih r hnext hR₂⟩

end Meets

/-! ## Processes -/

section Process

variable {σ : Type} (S : Setting σ ω ρ) (starts : σ → Script ω ρ ε α → Prop)

/-- A call of a process that is answered. -/
inductive Answered : σ × Option (Script ω ρ ε α) → σ × Option (Script ω ρ ε α) → Prop
  | mk {s s' : σ} {o : ω} {r : ρ o} (next : ρ o → Script ω ρ ε α) (h : S.answers s o r s') :
      Answered (s, some (.call o next)) (s', some (next r))

/-- A step of a process: the state, with what is left of the script that it runs, if it does. -/
inductive Move : σ × Option (Script ω ρ ε α) → σ × Option (Script ω ρ ε α) → Prop
  | others {s s' : σ} (p : Option (Script ω ρ ε α)) (h : S.others s s') : Move (s, p) (s', p)
  | begins {s : σ} {p : Script ω ρ ε α} (h : starts s p) : Move (s, none) (s, some p)
  | answers {c c' : σ × Option (Script ω ρ ε α)} (h : Answered S c c') : Move c c'
  | stops {s s' : σ} (p : Option (Script ω ρ ε α)) (h : S.stops s s') : Move (s, p) (s', none)
  | returns (s : σ) (a : α) : Move (s, some (.done a)) (s, none)
  | raises (s : σ) (e : ε) : Move (s, some (.fail e)) (s, none)

/-- What can be reached from a state of the world and a running script. -/
def Reached : σ × Option (Script ω ρ ε α) → σ × Option (Script ω ρ ε α) → Prop :=
  ReflTransGen (Move S starts)

/-- What a process keeps: `I` where no script is running, `J` in all states. -/
structure Keeps (I J : σ → Prop) (G : σ → σ → Prop) (Q : α → σ → Prop) (E : ε → σ → Prop) :
    Prop where
  between : ∀ s, I s → J s
  starts : ∀ s p, I s → starts s p → Meets S G Q E p s
  others : ∀ s s', S.others s s' → (I s → I s') ∧ (J s → J s')
  calls : ∀ s s', J s → G s s' → J s'
  stops : ∀ s s', J s → S.stops s s' → I s'
  returns : ∀ a s, J s → Q a s → I s
  raises : ∀ e s, J s → E e s → I s

/-- What holds of a process and its state. -/
def Holds (I J : σ → Prop) (G : σ → σ → Prop) (Q : α → σ → Prop) (E : ε → σ → Prop) :
    σ × Option (Script ω ρ ε α) → Prop
  | (s, none) => I s
  | (s, some p) => J s ∧ ∃ s₀, J s₀ ∧ ReflTransGen S.others s₀ s ∧ Meets S G Q E p s₀

variable {S starts} {I J : σ → Prop} {G : σ → σ → Prop} {Q : α → σ → Prop} {E : ε → σ → Prop}

theorem Keeps.kept (h : Keeps S starts I J G Q E) {s s' : σ} (hothers : ReflTransGen S.others s s')
    (hs : I s) : I s' := by
  induction hothers with
  | refl => exact hs
  | tail _ hstep ih => exact (h.others _ _ hstep).1 ih

/-- The next call does what it may do. -/
theorem Holds.call {c c' : σ × Option (Script ω ρ ε α)} (hc : Holds S I J G Q E c)
    (hanswered : Answered S c c') : G c.1 c'.1 := by
  cases hanswered with
  | mk next hanswers =>
    obtain ⟨_, s₀, _, hbefore, hmeets⟩ := hc
    exact (hmeets _ _ _ hbefore hanswers).1

theorem Keeps.move (h : Keeps S starts I J G Q E) {c c' : σ × Option (Script ω ρ ε α)}
    (hmove : Move S starts c c') (hc : Holds S I J G Q E c) : Holds S I J G Q E c' := by
  cases hmove with
  | others p hothers =>
    cases p with
    | none => exact (h.others _ _ hothers).1 hc
    | some p =>
      obtain ⟨hJ, s₀, hs₀, hbefore, hmeets⟩ := hc
      exact ⟨(h.others _ _ hothers).2 hJ, s₀, hs₀, hbefore.tail hothers, hmeets⟩
  | begins hstarts =>
    have hJ := h.between _ hc
    exact ⟨hJ, _, hJ, .refl, h.starts _ _ hc hstarts⟩
  | answers hanswered =>
    have hcall := hc.call hanswered
    cases hanswered with
    | mk next hanswers =>
      obtain ⟨hJ, s₀, _, hbefore, hmeets⟩ := hc
      have hJ' := h.calls _ _ hJ hcall
      exact ⟨hJ', _, hJ', .refl, (hmeets _ _ _ hbefore hanswers).2⟩
  | stops p hstops =>
    cases p with
    | none => exact h.stops _ _ (h.between _ hc) hstops
    | some p => exact h.stops _ _ hc.1 hstops
  | returns s a =>
    obtain ⟨_, s₀, hs₀, hbefore, hQ⟩ := hc
    exact h.kept hbefore (h.returns a s₀ hs₀ hQ)
  | raises s e =>
    obtain ⟨_, s₀, hs₀, hbefore, hE⟩ := hc
    exact h.kept hbefore (h.raises e s₀ hs₀ hE)

theorem Reached.keeps {c c' : σ × Option (Script ω ρ ε α)} (h : Reached S starts c c')
    (hkeeps : Keeps S starts I J G Q E) (hc : Holds S I J G Q E c) : Holds S I J G Q E c' := by
  induction h with
  | refl => exact hc
  | tail _ hmove ih => exact hkeeps.move hmove ih

end Process

/-! ## Runs that are carried out -/

section Advance

variable {σ χ : Type} (answer : σ → χ → (o : ω) → ρ o × σ)

/-- As many calls as there are choices, as far as the script makes them. -/
def advance : List χ → σ → Script ω ρ ε α → σ × Script ω ρ ε α
  | x :: xs, s, call o next => advance xs (answer s x o).2 (next (answer s x o).1)
  | _, s, p => (s, p)

theorem reached_advance {S : Setting σ ω ρ} {starts : σ → Script ω ρ ε α → Prop}
    (h : ∀ s x o, S.answers s o (answer s x o).1 (answer s x o).2) (xs : List χ) (s : σ)
    (p : Script ω ρ ε α) :
    Reached S starts (s, some p) ((advance answer xs s p).1, some (advance answer xs s p).2) := by
  induction xs generalizing s p with
  | nil => exact .refl
  | cons x xs ih =>
    cases p with
    | done a => exact .refl
    | fail e => exact .refl
    | call o next => exact .head (.answers (.mk next (h s x o))) (ih _ _)

end Advance

section Evaluate

variable {σ : Type} (answer : σ → (o : ω) → ρ o × σ)

/-- The whole script, each call with its answer. -/
def evaluate : Script ω ρ ε α → σ → Except ε α × σ
  | done a, s => (.ok a, s)
  | fail e, s => (.error e, s)
  | call o next, s => (next (answer s o).1).evaluate (answer s o).2

variable {answer} {S : Setting σ ω ρ} {G : σ → σ → Prop} {Q : α → σ → Prop}

/-- A script that does not raise, in a setting that answers like this, returns. -/
theorem Meets.evaluate (hanswers : ∀ s o, S.answers s o (answer s o).1 (answer s o).2) {p : Script ω ρ ε α}
    {s : σ} (h : Meets S G Q (fun _ _ => False) p s) :
    ∃ a s', p.evaluate answer s = (.ok a, s') ∧ Q a s' := by
  induction p generalizing s with
  | done a => exact ⟨a, s, rfl, h⟩
  | fail e => exact h.elim
  | call o next ih => exact ih _ (h s _ _ .refl (hanswers s o)).2

end Evaluate

end Script

end Subgen

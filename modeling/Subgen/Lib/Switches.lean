import Mathlib.Data.List.Basic

/-!
# Switches

A property that the steps of a run switch on and off. It holds behind the run if it was switched on and
not off since then, or if it held before and was never switched off (`holds_foldl_iff`).

The state is folded over the steps, and a step that switches neither way leaves the property as it was. What
a step switches may depend on the state it is taken in, and may be known under an invariant only; so the
property behind a run is traced back to one step of it, or to the state before the first.
-/

namespace Subgen.Switches

variable {σ α : Type} {step : σ → α → σ} {P I : σ → Prop} {on off : σ → α → Prop}

/-- No step of the run switches it off. -/
def Stays (step : σ → α → σ) (off : σ → α → Prop) : σ → List α → Prop
  | _, [] => True
  | s, a :: as => ¬ off s a ∧ Stays step off (step s a) as

/-- A step of the run switches it on, and none of those behind it off. -/
def SwitchedOn (step : σ → α → σ) (on off : σ → α → Prop) (s : σ) (as : List α) : Prop :=
  ∃ before a after, as = before ++ a :: after ∧ on (before.foldl step s) a ∧
    Stays step off (step (before.foldl step s) a) after

theorem switchedOn_cons {s : σ} {a : α} {as : List α} : SwitchedOn step on off s (a :: as) ↔
    (on s a ∧ Stays step off (step s a) as) ∨ SwitchedOn step on off (step s a) as := by
  constructor
  · rintro ⟨before, b, after, heq, hon, hstays⟩
    rcases before with _ | ⟨_, before⟩
    · obtain ⟨rfl, rfl⟩ := List.cons.inj heq
      exact .inl ⟨hon, hstays⟩
    · obtain ⟨rfl, rfl⟩ := List.cons.inj heq
      exact .inr ⟨before, b, after, rfl, hon, hstays⟩
  · rintro (⟨hon, hstays⟩ | ⟨before, b, after, rfl, hon, hstays⟩)
    · exact ⟨[], a, as, rfl, hon, hstays⟩
    · exact ⟨a :: before, b, after, rfl, hon, hstays⟩

/-- Under an invariant, it is enough to say of each step what it switches. -/
theorem holds_foldl_iff {as : List α} {s : σ} (hs : I s) (hI : ∀ a ∈ as, ∀ s, I s → I (step s a))
    (hstep : ∀ a ∈ as, ∀ s, I s → (P (step s a) ↔ on s a ∨ (P s ∧ ¬ off s a))) :
    P (as.foldl step s) ↔ (P s ∧ Stays step off s as) ∨ SwitchedOn step on off s as := by
  induction as generalizing s with
  | nil => simp [Stays, SwitchedOn]
  | cons a as ih =>
    rw [List.foldl_cons, ih (hI a List.mem_cons_self s hs) (fun b hb => hI b (List.mem_cons_of_mem _ hb))
      fun b hb => hstep b (List.mem_cons_of_mem _ hb), hstep a List.mem_cons_self s hs, switchedOn_cons,
      Stays]
    tauto

end Subgen.Switches

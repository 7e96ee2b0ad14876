import Mathlib.Data.List.Basic

/-!
# Occurrences in a history

A history grows at its front. `Each K P h` says of every element of a kind `K` in it that `P` holds of what
came after it and of what was before it. What came after may grow: such a property of an element is
*lasting*, and then the history may be extended by elements of other kinds (`Each.cons`), or by one of the
kind together with all that has to follow on it (`Each.append_cons`). Where `P` is about the earlier elements
only, it is a question of each element by itself (`each_cons_iff`), and holds of earlier histories
(`Each.of_suffix`).
-/

namespace Subgen.Occurrences

variable {α : Type*} {K : α → Prop} {P : List α → α → List α → Prop} {h : List α} {e : α}

/-- Whatever is of the kind `K` has `P`, of the later elements, itself and the earlier ones. -/
def Each (K : α → Prop) (P : List α → α → List α → Prop) (h : List α) : Prop :=
  ∀ after e before, h = after ++ e :: before → K e → P after e before

/-- What holds of an element goes on to hold when something of another kind happens. -/
def Lasting (K : α → Prop) (P : List α → α → List α → Prop) : Prop :=
  ∀ e' after e before, ¬ K e' → P after e before → P (e' :: after) e before

theorem each_of_forall (hnone : ∀ e ∈ h, ¬ K e) : Each K P h := by
  rintro after e before rfl he
  exact absurd he (hnone e (by simp))

theorem Each.cons (hlast : Lasting K P) (heach : Each K P h) (he : ¬ K e) : Each K P (e :: h) := by
  intro after e' before heq he'
  rcases List.cons_eq_append_iff.1 heq with ⟨rfl, hcons⟩ | ⟨later, rfl, hrest⟩
  · obtain ⟨rfl, rfl⟩ := List.cons.inj hcons
    exact absurd he' he
  · exact hlast e later e' before he (heach later e' before hrest he')

/-- An element of the kind, with what follows on it. -/
theorem Each.append_cons (heach : Each K P h) {later : List α}
    (hlater : ∀ e ∈ later, ¬ K e) (he : P later e h)
    (hover : ∀ after e' before, K e' → P after e' before → P (later ++ e :: after) e' before) :
    Each K P (later ++ e :: h) := by
  intro after e' before heq he'
  rcases List.append_eq_append_iff.1 heq with ⟨middle, rfl, hrest⟩ | ⟨middle, rfl, hrest⟩
  · rcases List.cons_eq_append_iff.1 hrest with ⟨rfl, hcons⟩ | ⟨earlier, rfl, htail⟩
    · obtain ⟨rfl, rfl⟩ := List.cons.inj hcons
      rwa [List.append_nil]
    · exact hover earlier e' before he' (heach earlier e' before htail he')
  · rcases List.cons_eq_append_iff.1 hrest with ⟨rfl, hcons⟩ | ⟨earlier, rfl, -⟩
    · obtain ⟨rfl, rfl⟩ := List.cons.inj hcons
      rwa [List.append_nil] at he
    · exact absurd he' (hlater e' (by simp))

/-! ## What was before -/

section

variable {B : α → List α → Prop}

theorem each_nil : Each K P ([] : List α) := by
  intro after e before heq
  simp at heq

/-- What depends only on the earlier elements, element by element. -/
theorem each_cons_iff : Each K (fun _ => B) (e :: h) ↔ (K e → B e h) ∧ Each K (fun _ => B) h := by
  constructor
  · intro heach
    refine ⟨heach [] e h rfl, fun after e' before heq he' => ?_⟩
    exact heach (e :: after) e' before (congrArg (e :: ·) heq) he'
  · rintro ⟨he, heach⟩ after e' before heq he'
    rcases List.cons_eq_append_iff.1 heq with ⟨rfl, hcons⟩ | ⟨later, rfl, hrest⟩
    · obtain ⟨rfl, rfl⟩ := List.cons.inj hcons
      exact he he'
    · exact heach later e' before hrest he'

/-- An earlier history. -/
theorem Each.of_suffix {h' : List α} (heach : Each K (fun _ => B) h) (hsuffix : h' <:+ h) :
    Each K (fun _ => B) h' := by
  obtain ⟨latest, rfl⟩ := hsuffix
  rintro after e before rfl
  exact heach (latest ++ after) e before (List.append_assoc ..).symm

end

end Subgen.Occurrences

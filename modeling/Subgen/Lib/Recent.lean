import Mathlib.Data.List.TakeDrop
import Mathlib.Data.List.Basic

/-!
# Histories

A history is a list of events with the newest first. `since p h` is what happened after the
most recent event with `p`, and `upTo p h` that event and all before it.

So an event that is added in front either starts a new stretch or prolongs the current one
(`since_cons_of_pos`, `since_cons_of_neg`), which is all that an induction along a run needs. What is
counted since some event, such as the events in a row, is the length of a list made of `since`.
-/

namespace Subgen.Recent

variable {α β : Type*} {p : α → Bool} {a : α} {h : List α}

/-- The events after the last one with `p`, in a history with its newest event first. -/
def since (p : α → Bool) (h : List α) : List α := h.takeWhile fun a => !p a

/-- The last event with `p` and everything before it. -/
def upTo (p : α → Bool) (h : List α) : List α := h.dropWhile fun a => !p a

@[simp] theorem since_nil : since p [] = [] := rfl

@[simp] theorem upTo_nil : upTo p [] = [] := rfl

@[simp] theorem since_cons_of_pos (ha : p a = true) : since p (a :: h) = [] := by
  simp [since, ha]

@[simp] theorem since_cons_of_neg (ha : p a = false) : since p (a :: h) = a :: since p h := by
  simp [since, ha]

@[simp] theorem upTo_cons_of_neg (ha : p a = false) : upTo p (a :: h) = upTo p h := by
  simp [upTo, ha]

theorem since_sublist : (since p h).Sublist h := List.takeWhile_sublist _

theorem upTo_suffix : upTo p h <:+ h := List.dropWhile_suffix _

/-- The events of a kind that happened since are some of all of that kind. -/
theorem filterMap_since_sublist (f : α → Option β) :
    ((since p h).filterMap f).Sublist (h.filterMap f) := since_sublist.filterMap f

end Subgen.Recent

import Mathlib.Data.List.Basic

/-!
# Lines

A text of lines, each ended by a separator, is cut at its separators: forwards with
`upTo`, and backwards with `rfind`, which looks for the last one. What holds no separator is a part of
the text if it is a part of a line (`infix_append_cons`).

The elements are of any type, so that a text may be made of bytes or of characters. Reading backwards is
what the reverse readers of a journal do: the start of the last line is behind the last separator that is not
at the very end (`rfind_drop_of_lt`).
-/

namespace Subgen.Lines

variable {α : Type*}

theorem prefix_append_cons {x : α} {p a b : List α} (hx : x ∉ p) : p <+: a ++ x :: b ↔ p <+: a := by
  induction a generalizing p with
  | nil =>
    rcases p with _ | ⟨y, p⟩
    · simp
    · have hne : y ≠ x := by
        rintro rfl
        exact hx List.mem_cons_self
      simp [hne]
  | cons c a ih =>
    rcases p with _ | ⟨y, p⟩
    · simp
    · rw [List.cons_append, List.cons_prefix_cons, List.cons_prefix_cons,
        ih fun hmem => hx (List.mem_cons_of_mem _ hmem)]

/-- A part without the separator lies before it or behind it. -/
theorem infix_append_cons {x : α} {p a b : List α} (hx : x ∉ p) :
    p <:+: a ++ x :: b ↔ p <:+: a ∨ p <:+: b := by
  induction a with
  | nil =>
    rw [List.nil_append, List.infix_cons_iff, List.infix_nil]
    rcases p with _ | ⟨y, p⟩
    · simp
    · have hne : y ≠ x := by
        rintro rfl
        exact hx List.mem_cons_self
      simp [hne]
  | cons c a ih =>
    rw [List.cons_append, List.infix_cons_iff, ih, List.infix_cons_iff, ← List.cons_append,
      prefix_append_cons hx, or_assoc]

variable [DecidableEq α]

/-- The elements up to and with the first `sep`, all of them if there is none. -/
def upTo (sep : α) : List α → List α
  | [] => []
  | a :: l => if a = sep then [a] else a :: upTo sep l

/-- Where the last `sep` is. -/
def rfind (sep : α) : List α → Option ℕ
  | [] => none
  | a :: l =>
    match rfind sep l with
    | some n => some (n + 1)
    | none => if a = sep then some 0 else none

variable {sep : α} {l : List α}

/-- The first line is what comes before the first separator, and that separator. -/
theorem upTo_append (h : sep ∉ l) (l' : List α) : upTo sep (l ++ sep :: l') = l ++ [sep] := by
  induction l with
  | nil => exact if_pos rfl
  | cons a l ih =>
    rw [List.mem_cons, not_or] at h
    rw [List.cons_append, upTo, if_neg (Ne.symm h.1), ih h.2]
    rfl

theorem upTo_of_notMem (h : sep ∉ l) : upTo sep l = l := by
  induction l with
  | nil => rfl
  | cons a l ih =>
    rw [List.mem_cons, not_or] at h
    rw [upTo, if_neg (Ne.symm h.1), ih h.2]

theorem rfind_eq_none (h : sep ∉ l) : rfind sep l = none := by
  induction l with
  | nil => rfl
  | cons a l ih =>
    rw [List.mem_cons, not_or] at h
    rw [rfind, ih h.2]
    exact if_neg (Ne.symm h.1)

/-- The last separator is the one that no other follows. -/
theorem rfind_append (h : sep ∉ l) (l' : List α) : rfind sep (l' ++ sep :: l) = some l'.length := by
  induction l' with
  | nil =>
    rw [List.nil_append, rfind, rfind_eq_none h]
    exact if_pos rfl
  | cons a l' ih => rw [List.cons_append, rfind, ih, List.length_cons]

/-- A text of whole lines: it is empty, or it ends with a separator. -/
def Ended (sep : α) (l : List α) : Prop := l = [] ∨ ∃ l', l = l' ++ [sep]

/-- Between the start of the last, unfinished line and any place in it there is no separator. -/
theorem rfind_drop_of_le {text line : List α} (hline : sep ∉ line) {m : ℕ} (hm : text.length ≤ m) :
    rfind sep ((text ++ line).drop m) = none := by
  refine rfind_eq_none fun hmem => hline ?_
  rw [List.drop_append, List.drop_of_length_le hm, List.nil_append] at hmem
  exact List.mem_of_mem_drop hmem

/-- Looking back from the last line, the first separator found is the one before it. -/
theorem rfind_drop_of_lt {text line : List α} (htext : Ended sep text) (hline : sep ∉ line) {m : ℕ}
    (hm : m < text.length) :
    rfind sep ((text ++ line).drop m) = some (text.length - 1 - m) := by
  rcases htext with rfl | ⟨text', rfl⟩
  · exact absurd hm (Nat.not_lt_zero m)
  · rw [List.length_append, List.length_singleton] at hm ⊢
    rw [List.append_assoc, List.drop_append_of_le_length (Nat.le_of_lt_succ hm), List.singleton_append,
      rfind_append hline, List.length_drop, Nat.add_sub_cancel]

end Subgen.Lines

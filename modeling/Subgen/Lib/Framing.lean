import Mathlib.Data.List.TakeWhile
import Mathlib.Data.List.Flatten
import Mathlib.Tactic.Common

/-!
# Lines in a stream

Lines are sent one behind the other, each with a separator at its end, and are received in pieces.

* `splitLines`: the lines of a stream, and what stands behind the last one;
* `splitLines_append`: it does not matter in which pieces a stream arrives;
* `takeLines`: the loop that takes the lines out of a buffer, of which a part was searched before, as long as
  they are not too long; `takeLines_eq` says which those are.
-/

namespace Subgen.Framing

variable {α : Type} [DecidableEq α] {sep : α} {l t : List α}

/-- The lines of a stream, and what stands behind the last one. -/
def splitLines (sep : α) : List α → List (List α) × List α
  | [] => ([], [])
  | c :: t =>
    if c = sep then ([] :: (splitLines sep t).1, (splitLines sep t).2)
    else
      match splitLines sep t with
      | ([], rest) => ([], c :: rest)
      | (l :: ls, rest) => ((c :: l) :: ls, rest)

theorem splitLines_of_notMem (h : sep ∉ t) : splitLines sep t = ([], t) := by
  induction t with
  | nil => rfl
  | cons c t ih =>
    obtain ⟨hc, ht⟩ := not_or.1 (List.mem_cons.not.1 h)
    rw [splitLines, if_neg (Ne.symm hc), ih ht]

theorem splitLines_append_sep (h : sep ∉ l) :
    splitLines sep (l ++ sep :: t) = (l :: (splitLines sep t).1, (splitLines sep t).2) := by
  induction l with
  | nil => rw [List.nil_append, splitLines, if_pos rfl]
  | cons c l ih =>
    obtain ⟨hc, hl⟩ := not_or.1 (List.mem_cons.not.1 h)
    rw [List.cons_append, splitLines, if_neg (Ne.symm hc), ih hl]

/-- A stream begins with a line, or there is none in it. -/
theorem line_or_notMem (sep : α) (t : List α) : sep ∉ t ∨ ∃ l u, t = l ++ sep :: u ∧ sep ∉ l := by
  by_cases h : sep ∈ t
  · obtain ⟨l, u, ht, hl⟩ := List.eq_append_cons_of_mem h
    exact .inr ⟨l, u, ht, hl⟩
  · exact .inl h

theorem splitLines_append (t u : List α) :
    splitLines sep (t ++ u) =
      ((splitLines sep t).1 ++ (splitLines sep ((splitLines sep t).2 ++ u)).1,
        (splitLines sep ((splitLines sep t).2 ++ u)).2) := by
  induction hn : t.length using Nat.strong_induction_on generalizing t with
  | _ n ih =>
    rcases line_or_notMem sep t with hnone | ⟨l, v, rfl, hl⟩
    · rw [splitLines_of_notMem hnone]
      rfl
    · rw [List.append_assoc, List.cons_append, splitLines_append_sep hl, splitLines_append_sep hl,
        ih v.length (by rw [← hn, List.length_append, List.length_cons]; omega) v rfl]
      rfl

theorem notMem_splitLines (t : List α) :
    sep ∉ (splitLines sep t).2 ∧ ∀ l ∈ (splitLines sep t).1, sep ∉ l := by
  induction hn : t.length using Nat.strong_induction_on generalizing t with
  | _ n ih =>
    rcases line_or_notMem sep t with hnone | ⟨l, v, rfl, hl⟩
    · rw [splitLines_of_notMem hnone]
      exact ⟨hnone, fun _ h => absurd h List.not_mem_nil⟩
    · obtain ⟨hrest, hlines⟩ := ih v.length (by rw [← hn, List.length_append, List.length_cons]; omega) v rfl
      rw [splitLines_append_sep hl]
      exact ⟨hrest, List.forall_mem_cons.2 ⟨hl, hlines⟩⟩

/-- The lines and what stands behind them are the stream. -/
theorem flatMap_splitLines (t : List α) :
    (splitLines sep t).1.flatMap (· ++ [sep]) ++ (splitLines sep t).2 = t := by
  induction t with
  | nil => rfl
  | cons c t ih =>
    rw [splitLines]
    split_ifs with hc
    · rw [List.flatMap_cons, List.nil_append, List.append_assoc, ih, hc]
      rfl
    · rcases hsplit : splitLines sep t with ⟨_ | ⟨l, ls⟩, rest⟩
      · rw [hsplit] at ih
        exact congrArg (c :: ·) ih
      · rw [hsplit] at ih
        exact congrArg (c :: ·) ih

/-- What has no separator is the beginning of the first line, or of what stands behind the last one. -/
theorem splitLines_append_of_notMem (h : sep ∉ t) (u : List α) :
    splitLines sep (t ++ u) =
      match splitLines sep u with
      | ([], rest) => ([], t ++ rest)
      | (l :: ls, rest) => ((t ++ l) :: ls, rest) := by
  induction t with
  | nil => rcases hu : splitLines sep u with ⟨_ | ⟨l, ls⟩, rest⟩ <;> exact hu
  | cons c t ih =>
    obtain ⟨hc, ht⟩ := not_or.1 (List.mem_cons.not.1 h)
    rw [List.cons_append, splitLines, if_neg (Ne.symm hc), ih ht]
    rcases splitLines sep u with ⟨_ | ⟨l, ls⟩, rest⟩ <;> rfl

/-! ## A buffer -/

/-- Where the separator is first found, from a position on. -/
def findFrom (sep : α) (start : ℕ) (t : List α) : Option ℕ := ((t.drop start).idxOf? sep).map (· + start)

/-- The lines of a buffer are taken out, the first one from a position on, for a number of rounds. A line that is
    too long is not taken, and neither is a rest that is. -/
def takeLines (sep : α) (max : ℕ) : ℕ → List α → ℕ → List (List α) × Option (List α)
  | 0, buffer, _ => ([], some buffer)
  | n + 1, buffer, scanned =>
    match findFrom sep scanned buffer with
    | none => ([], if max < buffer.length then none else some buffer)
    | some stop =>
      if max < stop then ([], none)
      else
        let next := takeLines sep max n (buffer.drop (stop + 1)) 0
        (buffer.take stop :: next.1, next.2)

theorem findFrom_of_notMem (h : sep ∉ t) (start : ℕ) : findFrom sep start t = none := by
  have hdrop : sep ∉ t.drop start := fun hmem => h (List.mem_of_mem_drop hmem)
  rw [findFrom, List.idxOf?_eq_none_iff.2 hdrop, Option.map_none]

theorem findFrom_of_le {start : ℕ} (hl : sep ∉ l) (hstart : start ≤ l.length) :
    findFrom sep start (l ++ sep :: t) = some l.length := by
  have hdrop : sep ∉ l.drop start := fun hmem => hl (List.mem_of_mem_drop hmem)
  have hfind : (l.drop start ++ sep :: t).idxOf? sep = some (l.drop start).length := by
    rw [List.idxOf?, List.findIdx?_eq_some_iff_getElem]
    refine ⟨by simp, by simp, fun j hj => ?_⟩
    rw [List.getElem_append_left hj]
    intro heq
    exact hdrop (beq_iff_eq.1 heq ▸ List.getElem_mem hj)
  rw [findFrom, List.drop_append_of_le_length hstart, hfind, Option.map_some, List.length_drop,
    Nat.sub_add_cancel hstart]

/-- The lines up to one that is too long are taken out, and the rest stays if there is no such line. -/
theorem takeLines_eq {max : ℕ} (n : ℕ) {buffer : List α} {scanned : ℕ} (hn : buffer.length < n)
    (hscanned : sep ∉ buffer.take scanned) (hlen : scanned ≤ buffer.length) :
    takeLines sep max n buffer scanned =
      ((splitLines sep buffer).1.takeWhile fun l => l.length ≤ max,
        if (∀ l ∈ (splitLines sep buffer).1, l.length ≤ max) ∧ (splitLines sep buffer).2.length ≤ max then
          some (splitLines sep buffer).2
        else none) := by
  induction n generalizing buffer scanned with
  | zero => omega
  | succ n ih =>
    rcases line_or_notMem sep buffer with hnone | ⟨l, u, rfl, hl⟩
    · rw [splitLines_of_notMem hnone, takeLines, findFrom_of_notMem hnone]
      by_cases hlong : max < buffer.length
      · simp [hlong]
      · simp [not_lt.1 hlong]
    · have hstart : scanned ≤ l.length := by
        by_contra hbeyond
        refine hscanned (List.mem_take_iff_getElem.2 ⟨l.length, ?_, ?_⟩)
        · simp only [List.length_append, List.length_cons]
          omega
        · simp
      rw [splitLines_append_sep hl, takeLines, findFrom_of_le hl hstart]
      by_cases hlong : max < l.length
      · have hnot : ¬ l.length ≤ max := not_le.2 hlong
        simp [hlong, hnot]
      · have hdrop : (l ++ sep :: u).drop (l.length + 1) = u := by
          rw [← List.drop_drop, List.drop_left, List.drop_one, List.tail_cons]
        have htake : (l ++ sep :: u).take l.length = l := List.take_left
        simp only [hlong, if_false]
        rw [hdrop, htake, ih (by rw [List.length_append, List.length_cons] at hn; omega)
          (by rw [List.take_zero]; exact List.not_mem_nil) (Nat.zero_le _)]
        simp [not_lt.1 hlong]

end Subgen.Framing

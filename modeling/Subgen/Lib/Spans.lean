import Mathlib.Algebra.Order.Group.Defs
import Mathlib.Algebra.Order.Sub.Basic
import Mathlib.Data.List.Basic
import Mathlib.Order.Basic
import Mathlib.Tactic.Linarith

/-!
# Merging short pieces of a list

A piece that is smaller than a threshold is merged into one of its neighbours, from the last
piece to the first one. This is done in place, on a list that loses elements (`shorten`), or in
one pass over the list from its end that keeps two pieces (`Pass`).

* `finish_run`: both give the same list;
* `Grouped`: what is left are the merges of consecutive pieces, in order;
* `shorten_spec`: nothing is lost, and if a merge spans both of its pieces, nothing short is
  left.
-/

namespace Subgen.Spans

variable {α β K : Type*}

section Algorithms

variable [LT K] [DecidableLT K] (size : α → K) (merge : α → α → α) (threshold : K)

/-! ## In place -/

/-- Two neighbours are merged; the list loses the right one. -/
def mergeAt (index : ℕ) (l : List α) : List α :=
  match l[index]?, l[index + 1]? with
  | some left, some right => (l.set index (merge left right)).eraseIdx (index + 1)
  | _, _ => l

/-- What is done at one index. -/
def shortenAt (index : ℕ) (l : List α) : List α :=
  match l[index]? with
  | none => l
  | some current =>
    if ¬ size current < threshold ∨ l.length = 1 then
      l
    else if index + 1 = l.length then
      mergeAt merge (index - 1) l
    else if index = 0 then
      mergeAt merge index l
    else
      match l[index - 1]?, l[index + 1]? with
      | some left, some right =>
        if size right < size left then mergeAt merge (index - 1) l else mergeAt merge index l
      | _, _ => l

/-- From the last index to the first one. -/
def shorten (l : List α) : List α :=
  (List.range l.length).foldr (shortenAt size merge threshold) l

/-! ## In one pass -/

/-- The piece to the right of the one at hand, if it is long enough; a short piece on its way to
    its left neighbour; and what is settled behind them. -/
structure Pass (α : Type*) where
  right : Option α
  carry : Option α
  settled : List α

namespace Pass

/-- What is to the right of the piece at hand. -/
def tail (pass : Pass α) : List α := pass.right.toList ++ pass.settled

/-- The piece at hand, with the short one that is on its way to it. -/
def joined (currentRaw : α) (pass : Pass α) : α :=
  match pass.carry with
  | none => currentRaw
  | some carry => merge currentRaw carry

/-- What is done with a short piece, which has `leftRaw` to the left of it. -/
def place (current : α) (leftRaw : Option α) (pass : Pass α) : Pass α :=
  match pass.right, leftRaw with
  | none, none => ⟨some current, none, pass.settled⟩
  | none, some _ => ⟨none, some current, pass.settled⟩
  | some right, none => ⟨some (merge current right), none, pass.settled⟩
  | some right, some left =>
    if size right < size left then
      ⟨some right, some current, pass.settled⟩
    else
      ⟨some (merge current right), none, pass.settled⟩

/-- One round, with the piece at hand and the one to the left of it. -/
def step (currentRaw : α) (leftRaw : Option α) (pass : Pass α) : Pass α :=
  if ¬ size (joined merge currentRaw pass) < threshold then
    ⟨some (joined merge currentRaw pass), none, pass.tail⟩
  else
    place size merge (joined merge currentRaw pass) leftRaw pass

/-- All rounds, over the pieces from the last one to the first. -/
def run : List α → Pass α → Pass α
  | [], pass => pass
  | current :: rest, pass => run rest (step size merge threshold current rest.head? pass)

/-- The list when all is done. -/
def finish (pass : Pass α) : List α :=
  match pass.carry, pass.right with
  | none, _ => pass.tail
  | some carry, none => carry :: pass.settled
  | some carry, some right => merge carry right :: pass.settled

end Pass

/-! ## Both give the same list -/

variable {size merge threshold} {current left right : α} {before after : List α}

theorem getElem?_append_add (before after : List α) (k : ℕ) :
    (before ++ after)[before.length + k]? = after[k]? := by
  rw [List.getElem?_append_right (Nat.le_add_right _ _), Nat.add_sub_cancel_left]

variable (merge) in
theorem mergeAt_append (before after : List α) (left right : α) :
    mergeAt merge before.length (before ++ left :: right :: after) =
      before ++ merge left right :: after := by
  rw [mergeAt, List.getElem?_append_right le_rfl, Nat.sub_self, getElem?_append_add]
  dsimp only [List.getElem?_cons_succ, List.getElem?_cons_zero]
  rw [List.set_append_right _ _ le_rfl, Nat.sub_self, List.set_cons_zero,
    List.eraseIdx_append_of_length_le (Nat.le_add_right _ _), Nat.add_sub_cancel_left]
  rfl

variable (merge before after) in
theorem shortenAt_long (h : ¬ size current < threshold) :
    shortenAt size merge threshold before.length (before ++ current :: after) =
      before ++ current :: after := by
  rw [shortenAt, List.getElem?_append_right le_rfl, Nat.sub_self, List.getElem?_cons_zero]
  exact if_pos (.inl h)

theorem shortenAt_single (current : α) :
    shortenAt size merge threshold 0 [current] = [current] := if_pos (.inr rfl)

theorem shortenAt_last (h : size current < threshold) :
    shortenAt size merge threshold (before.length + 1) (before ++ [left, current]) =
      before ++ [merge left current] := by
  have hlength : (before ++ [left, current]).length = before.length + 2 := List.length_append
  rw [shortenAt, getElem?_append_add, hlength]
  dsimp only [List.getElem?_cons_succ, List.getElem?_cons_zero]
  rw [if_neg (not_or.2 ⟨not_not.2 h, by omega⟩), if_pos rfl]
  exact mergeAt_append merge before [] left current

theorem shortenAt_first (h : size current < threshold) :
    shortenAt size merge threshold 0 (current :: right :: after) =
      merge current right :: after := by
  rw [shortenAt, List.getElem?_cons_zero, List.length_cons, List.length_cons]
  dsimp only
  rw [if_neg (not_or.2 ⟨not_not.2 h, by omega⟩), if_neg (by omega), if_pos rfl]
  exact mergeAt_append merge [] after current right

theorem shortenAt_between (h : size current < threshold) :
    shortenAt size merge threshold (before.length + 1) (before ++ left :: current :: right :: after) =
      if size right < size left then
        before ++ merge left current :: right :: after
      else
        before ++ left :: merge current right :: after := by
  have hlength : (before ++ left :: current :: right :: after).length =
      before.length + (after.length + 3) := List.length_append
  rw [shortenAt, getElem?_append_add, hlength]
  dsimp only [List.getElem?_cons_succ, List.getElem?_cons_zero]
  rw [if_neg (not_or.2 ⟨not_not.2 h, by omega⟩), if_neg (by omega), if_neg (by omega),
    Nat.add_sub_cancel, Nat.add_assoc, getElem?_append_add,
    List.getElem?_append_right le_rfl, Nat.sub_self]
  dsimp only [List.getElem?_cons_succ, List.getElem?_cons_zero]
  rw [mergeAt_append]
  congr 1
  have hmerge := mergeAt_append merge (before ++ [left]) after current right
  rw [List.length_append, List.append_assoc, List.append_assoc] at hmerge
  exact hmerge

namespace Pass

variable {pass : Pass α}

variable (merge) in
/-- The list in place, when the pieces of `rev` are still to come, the next one first. -/
def pending (rev : List α) (pass : Pass α) : List α :=
  match rev with
  | [] => finish merge pass
  | current :: rest => rest.reverse ++ joined merge current pass :: pass.tail

/-- Nothing is settled before there is a piece to the right. -/
def Ordered (pass : Pass α) : Prop := pass.right = none → pass.settled = []

theorem Ordered.step (h : pass.Ordered) (current : α) (leftRaw : Option α) :
    (step size merge threshold current leftRaw pass).Ordered := by
  rw [Pass.step]
  split_ifs
  · unfold place
    rcases hright : pass.right with _ | right <;> rcases leftRaw with _ | left
    · exact fun hnone => nomatch hnone
    · exact fun _ => h hright
    · exact fun hnone => nomatch hnone
    · dsimp only
      split_ifs <;> exact fun hnone => nomatch hnone
  · exact fun hnone => nomatch hnone

/-- One round of the pass does what is done in place at one index. -/
theorem shortenAt_pending (h : pass.Ordered) (current : α) (rest : List α) :
    shortenAt size merge threshold rest.length (pending merge (current :: rest) pass) =
      pending merge rest (step size merge threshold current rest.head? pass) := by
  rw [pending, step]
  by_cases hshort : size (joined merge current pass) < threshold
  · rw [if_neg (not_not.2 hshort)]
    unfold place
    rcases rest with _ | ⟨left, rest⟩
    · rcases hright : pass.right with _ | right
      · rw [tail, hright, h hright]
        exact shortenAt_single _
      · rw [tail, hright]
        exact shortenAt_first hshort
    · rw [List.reverse_cons, List.append_assoc, List.length_cons, ← List.length_reverse]
      rcases hright : pass.right with _ | right
      · -- The short piece is the last one.
        rw [tail, hright, h hright]
        exact shortenAt_last hshort
      · rw [tail, hright]
        refine (shortenAt_between hshort).trans ?_
        dsimp only [List.head?_cons]
        split_ifs <;> rfl
  · rw [if_pos hshort]
    have hlong := shortenAt_long merge rest.reverse pass.tail hshort
    rw [List.length_reverse] at hlong
    rw [hlong]
    rcases rest with _ | ⟨left, rest⟩
    · rfl
    · rw [List.reverse_cons, List.append_assoc]
      rfl

theorem finish_run_eq (h : pass.Ordered) (rev : List α) :
    finish merge (run size merge threshold rev pass) =
      (List.range rev.length).foldr (shortenAt size merge threshold) (pending merge rev pass) := by
  induction rev generalizing pass with
  | nil => rfl
  | cons current rest ih =>
    rw [run, ih (h.step current rest.head?), List.length_cons, List.range_succ, List.foldr_append,
      ← shortenAt_pending h]
    rfl

/-- What is settled stays. -/
theorem settled_suffix_step (current : α) (leftRaw : Option α) :
    pass.settled <:+ (step size merge threshold current leftRaw pass).settled := by
  rw [step]
  split_ifs
  · unfold place
    rcases pass.right with _ | right <;> rcases leftRaw with _ | left
    · exact List.suffix_rfl
    · exact List.suffix_rfl
    · exact List.suffix_rfl
    · dsimp only
      split_ifs <;> exact List.suffix_rfl
  · exact List.suffix_append _ _

theorem settled_suffix_finish : pass.settled <:+ finish merge pass := by
  unfold finish
  rcases pass.carry with _ | carry
  · exact List.suffix_append _ _
  · rcases pass.right with _ | right <;> exact List.suffix_cons _ _

theorem settled_suffix_run (rev : List α) :
    pass.settled <:+ (run size merge threshold rev pass).settled := by
  induction rev generalizing pass with
  | nil => exact List.suffix_rfl
  | cons current rest ih => exact (settled_suffix_step current rest.head?).trans ih

/-- Before the first round. -/
def start : Pass α := ⟨none, none, []⟩

theorem ordered_start : (start : Pass α).Ordered := fun _ => rfl

/-- The pass over a list from its end gives the list that is shortened in place. -/
theorem finish_run (l : List α) :
    finish merge (run size merge threshold l.reverse start) = shorten size merge threshold l := by
  rw [finish_run_eq ordered_start, shorten, List.length_reverse]
  rcases List.eq_nil_or_concat l with rfl | ⟨l, current, rfl⟩
  · rfl
  · rw [List.concat_eq_append, List.reverse_append]
    change List.foldr _ (l.reverse.reverse ++ [current]) _ = _
    rw [List.reverse_reverse]

end Pass

end Algorithms

/-! ## Groups -/

/-- The merge of consecutive pieces, of which there is at least one. -/
def mergeAll (merge : α → α → α) : α → List α → α
  | a, [] => a
  | a, b :: l => merge a (mergeAll merge b l)

/-- Each piece of the second list is the merge of consecutive pieces of the first one, in order:
    a piece makes a group of its own, or goes to the group behind it. -/
inductive Grouped (merge : α → α → α) : List α → List α → Prop
  | nil : Grouped merge [] []
  | single {l out : List α} (a : α) (h : Grouped merge l out) : Grouped merge (a :: l) (a :: out)
  | join {l out : List α} {b : α} (a : α) (h : Grouped merge l (b :: out)) :
      Grouped merge (a :: l) (merge a b :: out)

namespace Grouped

variable {merge : α → α → α} {l out : List α}

/-- The groups themselves, each as its first piece and the others. -/
theorem exists_groups (h : Grouped merge l out) : ∃ groups : List (α × List α),
    groups.flatMap (fun group => group.1 :: group.2) = l ∧
      groups.map (fun group => mergeAll merge group.1 group.2) = out := by
  induction h with
  | nil => exact ⟨[], rfl, rfl⟩
  | single a h ih =>
    obtain ⟨groups, hl, hout⟩ := ih
    refine ⟨(a, []) :: groups, ?_, ?_⟩
    · rw [List.flatMap_cons, hl]
      rfl
    · rw [List.map_cons, hout]
      rfl
  | join a h ih =>
    obtain ⟨_ | ⟨⟨first, rest⟩, groups⟩, hl, hout⟩ := ih
    · cases hout
    · rw [List.map_cons] at hout
      obtain ⟨rfl, rfl⟩ := List.cons_eq_cons.1 hout
      refine ⟨(a, first :: rest) :: groups, ?_, rfl⟩
      rw [← hl]
      rfl

/-- Two groups become one. -/
theorem merge_cons {a b : α} (hassoc : ∀ a b c, merge (merge a b) c = merge a (merge b c))
    (h : Grouped merge l (a :: b :: out)) : Grouped merge l (merge a b :: out) := by
  generalize hpieces : a :: b :: out = pieces at h
  induction h generalizing a with
  | nil => cases hpieces
  | single a' h ih =>
    obtain ⟨rfl, rfl⟩ := List.cons_eq_cons.1 hpieces
    exact h.join a
  | join a' h ih =>
    obtain ⟨rfl, rfl⟩ := List.cons_eq_cons.1 hpieces
    rw [hassoc]
    exact (ih rfl).join a'

/-- What adds up over a merge is the same over all pieces. -/
theorem foldr_eq {γ : Type*} {op : γ → γ → γ} {f : α → γ} (e : γ)
    (hassoc : ∀ x y z, op (op x y) z = op x (op y z)) (hf : ∀ a b, f (merge a b) = op (f a) (f b))
    (h : Grouped merge l out) : (out.map f).foldr op e = (l.map f).foldr op e := by
  induction h with
  | nil => rfl
  | single a h ih => exact congrArg (op (f a)) ih
  | join a h ih =>
    rw [List.map_cons, List.foldr_cons, hf, hassoc]
    exact congrArg (op (f a)) ih

theorem head?_map {start : α → K} (hstart : ∀ a b, start (merge a b) = start a)
    (h : Grouped merge l out) : out.head?.map start = l.head?.map start := by
  rcases h with _ | ⟨a, h⟩ | ⟨a, h⟩
  · rfl
  · rfl
  · exact congrArg some (hstart a _)

theorem getLast?_map {stop : α → K} (hstop : ∀ a b, stop (merge a b) = stop b)
    (h : Grouped merge l out) : out.getLast?.map stop = l.getLast?.map stop := by
  have hcons : ∀ (a : α) (l : List α),
      (a :: l).getLast?.map stop = some ((l.getLast?.map stop).getD (stop a)) := by
    intro a l
    rw [List.getLast?_cons, Option.map_some, Option.getD_map]
  induction h with
  | nil => rfl
  | single a h ih => rw [hcons, hcons, ih]
  | join a h ih =>
    rw [hcons] at ih
    rw [hcons, hcons, hstop, ← ih]
    rfl


end Grouped

/-! ## Spans -/

/-- Each piece starts before it stops, and stops before the next one starts. -/
def Increasing [LE K] (start stop : α → K) (l : List α) : Prop :=
  (∀ a ∈ l, start a ≤ stop a) ∧ l.IsChain fun a b => stop a ≤ start b

/-- A merge spans both pieces. -/
structure Spanning (start stop : α → K) (merge : α → α → α) : Prop where
  start_merge : ∀ a b, start (merge a b) = start a
  stop_merge : ∀ a b, stop (merge a b) = stop b

theorem increasing_cons [LE K] {start stop : α → K} {a : α} {l : List α} :
    Increasing start stop (a :: l) ↔
      start a ≤ stop a ∧ (∀ b ∈ l.head?, stop a ≤ start b) ∧ Increasing start stop l := by
  have hchain : (a :: l).IsChain (fun a b => stop a ≤ start b) ↔
      (∀ b ∈ l.head?, stop a ≤ start b) ∧ l.IsChain fun a b => stop a ≤ start b := by
    rcases l with _ | ⟨b, l⟩ <;> simp
  rw [Increasing, List.forall_mem_cons, hchain, Increasing]
  tauto

theorem Increasing.of_append [LE K] {start stop : α → K} {before after : List α}
    (h : Increasing start stop (before ++ after)) : Increasing start stop after := by
  induction before with
  | nil => exact h
  | cons a before ih => exact ih (increasing_cons.1 h).2.2

/-- A merge of increasing pieces is increasing. -/
theorem Grouped.increasing [Preorder K] {start stop : α → K} {merge : α → α → α} {l out : List α}
    (hspans : Spanning start stop merge) (h : Grouped merge l out)
    (hl : Increasing start stop l) : Increasing start stop out := by
  induction h with
  | nil => exact hl
  | @single l out a h ih =>
    obtain ⟨ha, hnext, hl⟩ := increasing_cons.1 hl
    refine increasing_cons.2 ⟨ha, fun b hb => ?_, ih hl⟩
    -- The piece behind starts where the group it comes from starts.
    have hhead := h.head?_map hspans.start_merge
    rw [Option.mem_def.1 hb] at hhead
    obtain ⟨c, hc, hstart⟩ := Option.map_eq_some_iff.1 hhead.symm
    exact hstart ▸ hnext c hc
  | @join l out b a h ih =>
    obtain ⟨ha, hnext, hl⟩ := increasing_cons.1 hl
    obtain ⟨hb, hrest, hout⟩ := increasing_cons.1 (ih hl)
    obtain ⟨c, hc, hstart⟩ := Option.map_eq_some_iff.1 (h.head?_map hspans.start_merge).symm
    refine increasing_cons.2 ⟨?_, fun d hd => ?_, hout⟩
    · rw [hspans.start_merge, hspans.stop_merge]
      exact (ha.trans (hstart ▸ hnext c hc)).trans hb
    · rw [hspans.stop_merge]
      exact hrest d hd

namespace Pass

variable [LT K] [DecidableLT K] {size : α → K} {merge : α → α → α} {threshold : K} {pass : Pass α}
  {l : List α}

/-- What the pass holds. -/
def held (pass : Pass α) : List α := pass.carry.toList ++ pass.tail

theorem grouped_joined (h : Grouped merge l pass.held) (current : α) :
    Grouped merge (current :: l) (joined merge current pass :: pass.tail) := by
  rw [held] at h
  unfold joined
  rcases hcarry : pass.carry with _ | carry
  · rw [hcarry] at h
    exact h.single current
  · rw [hcarry] at h
    exact h.join current

theorem grouped_step (hassoc : ∀ a b c, merge (merge a b) c = merge a (merge b c))
    (h : Grouped merge l pass.held) (current : α) (leftRaw : Option α) :
    Grouped merge (current :: l) (step size merge threshold current leftRaw pass).held := by
  have hjoined := grouped_joined h current
  rw [step]
  split_ifs
  · rw [tail] at hjoined
    unfold place
    rcases hright : pass.right with _ | right <;> rw [hright] at hjoined
    · rcases leftRaw with _ | left <;> exact hjoined
    · have hmerged := hjoined.merge_cons hassoc
      rcases leftRaw with _ | left
      · exact hmerged
      · dsimp only
        split_ifs
        · exact hjoined
        · exact hmerged
  · exact hjoined

variable (size threshold) in
theorem grouped_run (hassoc : ∀ a b c, merge (merge a b) c = merge a (merge b c)) (rev : List α)
    (h : Grouped merge l pass.held) :
    Grouped merge (rev.reverse ++ l) (finish merge (run size merge threshold rev pass)) := by
  induction rev generalizing pass l with
  | nil =>
    rw [held] at h
    unfold run finish
    rcases hcarry : pass.carry with _ | carry <;> rw [hcarry] at h
    · exact h
    · rw [tail] at h
      rcases hright : pass.right with _ | right <;> rw [hright] at h
      · exact h
      · exact h.merge_cons hassoc
  | cons current rest ih =>
    rw [run, List.reverse_cons, List.append_assoc]
    exact ih (grouped_step hassoc h current rest.head?)

end Pass

/-! ## Nothing short is left -/

section Lengths

variable [AddCommGroup K] [LinearOrder K] [IsOrderedAddMonoid K] {start stop : α → K}
  {merge : α → α → α} {threshold : K} {pass : Pass α} {l : List α}

/-- How long a piece is. -/
def span (start stop : α → K) (a : α) : K := stop a - start a

/-- A merge of neighbours is as long as the right one. -/
theorem Increasing.span_le_merge (hspans : Spanning start stop merge) {after : List α}
    {a b : α} (h : Increasing start stop (a :: b :: after)) :
    span start stop b ≤ span start stop (merge a b) := by
  obtain ⟨ha, hnext, -⟩ := increasing_cons.1 h
  rw [span, span, hspans.start_merge, hspans.stop_merge]
  exact sub_le_sub_left (ha.trans (hnext b rfl)) _

/-- A list without a short piece, or with one piece only. -/
def NoneShort (start stop : α → K) (threshold : K) (l : List α) : Prop :=
  (∀ a ∈ l, threshold ≤ span start stop a) ∨ l.length = 1

namespace Pass

/-- What is to the right of the piece at hand is long, if it was before. -/
theorem long_step (hspans : Spanning start stop merge)
    (hlong : ∀ a ∈ pass.tail, threshold ≤ span start stop a) {current : α}
    (h : Increasing start stop (joined merge current pass :: pass.tail)) (left : α) :
    ∀ a ∈ (step (span start stop) merge threshold current (some left) pass).tail,
      threshold ≤ span start stop a := by
  rw [step]
  split_ifs with hshort
  · rw [tail] at hlong h
    unfold place
    rcases hright : pass.right with _ | right <;> rw [hright] at hlong h
    · exact hlong
    · obtain ⟨hlongRight, hsettled⟩ := List.forall_mem_cons.1 hlong
      dsimp only
      split_ifs
      · exact hlong
      · have hmerge := h.span_le_merge hspans
        exact List.forall_mem_cons.2 ⟨hlongRight.trans hmerge, hsettled⟩
  · exact List.forall_mem_cons.2 ⟨not_lt.1 hshort, hlong⟩

/-- The round of the first piece leaves nothing on its way. -/
theorem noneShort_step (hspans : Spanning start stop merge) (hordered : pass.Ordered)
    (hlong : ∀ a ∈ pass.tail, threshold ≤ span start stop a) {current : α}
    (h : Increasing start stop (joined merge current pass :: pass.tail)) :
    NoneShort start stop threshold
      (finish merge (step (span start stop) merge threshold current none pass)) := by
  rw [step]
  split_ifs with hshort
  · rw [tail] at hlong h
    unfold place
    rcases hright : pass.right with _ | right
    · right
      exact congrArg (List.length ∘ List.cons _) (hordered hright)
    · rw [hright] at hlong h
      obtain ⟨hlongRight, hsettled⟩ := List.forall_mem_cons.1 hlong
      have hmerge := h.span_le_merge hspans
      exact .inl (List.forall_mem_cons.2 ⟨hlongRight.trans hmerge, hsettled⟩)
  · exact .inl (List.forall_mem_cons.2 ⟨not_lt.1 hshort, hlong⟩)

theorem finish_run_long (hspans : Spanning start stop merge)
    (hassoc : ∀ a b c, merge (merge a b) c = merge a (merge b c)) {current : α} {rest : List α}
    (hordered : pass.Ordered) (hlong : ∀ a ∈ pass.tail, threshold ≤ span start stop a)
    (hgrouped : Grouped merge l pass.held)
    (hl : Increasing start stop ((current :: rest).reverse ++ l)) :
    NoneShort start stop threshold
      (finish merge (run (span start stop) merge threshold (current :: rest) pass)) := by
  induction rest generalizing current pass l with
  | nil =>
    exact noneShort_step hspans hordered hlong
      ((grouped_joined hgrouped current).increasing hspans hl)
  | cons left rest ih =>
    rw [List.reverse_cons, List.append_assoc] at hl
    have hat := (grouped_joined hgrouped current).increasing hspans (hl.of_append)
    exact ih (hordered.step current (some left)) (long_step hspans hlong hat left)
      (grouped_step hassoc hgrouped current (some left)) hl

end Pass

/-- What is left when short pieces are merged: the merges of groups, none of them short. -/
theorem shorten_spec (hspans : Spanning start stop merge)
    (hassoc : ∀ a b c, merge (merge a b) c = merge a (merge b c)) (threshold : K) (l : List α)
    (hl : Increasing start stop l) :
    Grouped merge l (shorten (span start stop) merge threshold l) ∧
      NoneShort start stop threshold (shorten (span start stop) merge threshold l) := by
  have hgrouped : Grouped merge [] (Pass.start : Pass α).held := .nil
  rw [← Pass.finish_run]
  constructor
  · have hrun := Pass.grouped_run (span start stop) threshold hassoc l.reverse hgrouped
    rwa [List.reverse_reverse, List.append_nil] at hrun
  · rcases hrev : l.reverse with _ | ⟨current, rest⟩
    · exact .inl fun a ha => absurd ha List.not_mem_nil
    · refine Pass.finish_run_long hspans hassoc Pass.ordered_start
        (fun a ha => absurd ha List.not_mem_nil) hgrouped ?_
      rwa [← hrev, List.reverse_reverse, List.append_nil]

end Lengths

end Subgen.Spans

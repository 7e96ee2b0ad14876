import Mathlib.Data.List.Perm.Basic

/-!
# Heaps with a comparison that may raise

`heappush` and `heappop` of the module `heapq`, on an array. Two elements are compared by
`lt`, which is `none` where the comparison raises. An operation that raises leaves what it has
done so far: what was pushed stays in the heap, and what was popped is lost.

* `push_perm`, `pop_perm`: the elements of a heap behind an operation, also one that raises;
* `push_completes`, `pop_completes`: nothing raises if any two elements can be compared.
-/

namespace Subgen

namespace Heap

variable {α : Type} (lt : α → α → Option Bool)

/-- `siftdown`: the element at `pos` moves up to `start` at most. It says whether nothing was raised.
    The fuel is enough if it is `pos`. -/
def siftDown (start : ℕ) : ℕ → Array α → ℕ → Bool × Array α
  | 0, heap, _ => (true, heap)
  | fuel + 1, heap, pos =>
    if pos ≤ start then (true, heap)
    else
      match heap[pos]?, heap[(pos - 1) / 2]? with
      | some newitem, some parent =>
        match lt newitem parent with
        | none => (false, heap)
        | some false => (true, heap)
        | some true => siftDown start fuel (heap.swapIfInBounds ((pos - 1) / 2) pos) ((pos - 1) / 2)
      | _, _ => (true, heap)

/-- The smaller child of a position that has one. -/
def smallerChild (heap : Array α) (pos : ℕ) : Option ℕ :=
  match heap[2 * pos + 1]?, heap[2 * pos + 2]? with
  | some a, some b => (lt a b).map fun less => if less then 2 * pos + 1 else 2 * pos + 2
  | _, _ => some (2 * pos + 1)

/-- `siftup`: the element at `pos` moves down to a leaf and up again. The fuel is enough if it is
    the size of the heap. -/
def siftUp (start : ℕ) : ℕ → Array α → ℕ → Bool × Array α
  | 0, heap, pos => siftDown lt start pos heap pos
  | fuel + 1, heap, pos =>
    if heap.size / 2 ≤ pos then siftDown lt start pos heap pos
    else
      match smallerChild lt heap pos with
      | none => (false, heap)
      | some child => siftUp start fuel (heap.swapIfInBounds child pos) child

/-- `heappush`. -/
def push (heap : Array α) (item : α) : Bool × Array α :=
  siftDown lt 0 heap.size (heap.push item) heap.size

/-- `heappop`, with the item that was taken if nothing was raised. The heap must not be empty. -/
def pop (heap : Array α) : Option (Option α × Array α) :=
  match heap.back? with
  | none => none
  | some last =>
    match heap.pop[0]? with
    | none => some (some last, heap.pop)
    | some first =>
      let r := siftUp lt 0 heap.pop.size (heap.pop.setIfInBounds 0 last) 0
      some (if r.1 then some first else none, r.2)

/-! ## The elements -/

variable {lt} {start : ℕ} {heap : Array α}

theorem swap_perm (i j : ℕ) : (heap.swapIfInBounds i j).Perm heap := by
  rw [Array.swapIfInBounds_def]
  split
  · split
    · exact Array.swap_perm _ _
    · exact .refl _
  · exact .refl _

theorem siftDown_perm (fuel : ℕ) (heap : Array α) (pos : ℕ) :
    (siftDown lt start fuel heap pos).2.Perm heap := by
  induction fuel generalizing heap pos with
  | zero => exact .refl _
  | succ fuel ih =>
    rw [siftDown]
    split
    · exact .refl _
    · split
      · split
        · exact .refl _
        · exact .refl _
        · exact (ih _ _).trans (swap_perm _ _)
      · exact .refl _

theorem siftUp_perm (fuel : ℕ) (heap : Array α) (pos : ℕ) :
    (siftUp lt start fuel heap pos).2.Perm heap := by
  induction fuel generalizing heap pos with
  | zero => exact siftDown_perm _ _ _
  | succ fuel ih =>
    rw [siftUp]
    split
    · exact siftDown_perm _ _ _
    · split
      · exact .refl _
      · exact (ih _ _).trans (swap_perm _ _)

/-- In a pop, the last element takes the place of the first one. -/
theorem mem_of_mem_replaced {last a : α} (hlast : heap.back? = some last)
    (ha : a ∈ (heap.pop.setIfInBounds 0 last).toList) : a ∈ heap.toList := by
  rw [Array.toList_setIfInBounds] at ha
  rcases List.mem_or_eq_of_mem_set ha with ha | rfl
  · rw [Array.toList_pop] at ha
    exact List.dropLast_subset _ ha
  · exact Array.mem_toList_iff.2 (Array.mem_of_back? hlast)

/-- What was pushed is in the heap, also if a comparison raised. -/
theorem push_perm (heap : Array α) (item : α) :
    (push lt heap item).2.toList.Perm (item :: heap.toList) := by
  have hsift : (siftDown lt 0 heap.size (heap.push item) heap.size).2.Perm (heap.push item) :=
    siftDown_perm _ _ _
  have h := Array.perm_iff_toList_perm.1 hsift
  rw [Array.toList_push] at h
  exact h.trans (List.perm_append_singleton _ _)

/-- The last element takes the place of the first one. -/
theorem pop_perm {item : Option α} {rest : Array α} (h : pop lt heap = some (item, rest)) :
    ∃ first, heap.toList.Perm (first :: rest.toList) ∧ ∀ a ∈ item, a = first := by
  rw [pop] at h
  split at h
  · cases h
  · next last hlast =>
    have hheap : heap.toList = heap.pop.toList ++ [last] := by
      rw [Array.toList_pop]
      exact (List.dropLast_append_getLast? last (by rwa [Array.getLast?_toList])).symm
    split at h
    · next hempty =>
      obtain ⟨rfl, rfl⟩ := Prod.mk.inj (Option.some.inj h)
      refine ⟨last, ?_, fun a ha => (Option.some.inj ha).symm⟩
      rw [hheap]
      exact List.perm_append_singleton _ _
    · next first hfirst =>
      obtain ⟨rfl, rfl⟩ := Prod.mk.inj (Option.some.inj h)
      refine ⟨first, ?_, fun a ha => ?_⟩
      · obtain ⟨tail, htail⟩ : ∃ tail, heap.pop.toList = first :: tail := by
          rw [← Array.getElem?_toList] at hfirst
          exact List.head?_eq_some_iff.1 (by rwa [List.head?_eq_getElem?])
        have hup : (siftUp lt 0 heap.pop.size (heap.pop.setIfInBounds 0 last) 0).2.Perm
            (heap.pop.setIfInBounds 0 last) := siftUp_perm _ _ _
        have hsift := Array.perm_iff_toList_perm.1 hup
        rw [Array.toList_setIfInBounds, htail, List.set_cons_zero] at hsift
        rw [hheap, htail, List.cons_append]
        exact ((List.perm_append_singleton _ _).trans hsift.symm).cons first
      · by_cases hdone : (siftUp lt 0 heap.pop.size (heap.pop.setIfInBounds 0 last) 0).1 = true
        · rw [if_pos hdone] at ha
          exact (Option.some.inj ha).symm
        · rw [if_neg hdone] at ha
          cases ha

/-! ## Comparable elements -/

/-- Any two elements can be compared. -/
def Comparable (lt : α → α → Option Bool) (l : List α) : Prop :=
  ∀ a ∈ l, ∀ b ∈ l, (lt a b).isSome

theorem Comparable.perm {l l' : List α} (h : Comparable lt l) (hperm : l'.Perm l) :
    Comparable lt l' := fun a ha b hb => h a (hperm.mem_iff.1 ha) b (hperm.mem_iff.1 hb)

theorem Comparable.swap (h : Comparable lt heap.toList) (i j : ℕ) :
    Comparable lt (heap.swapIfInBounds i j).toList :=
  h.perm (Array.perm_iff_toList_perm.1 (swap_perm i j))

theorem Comparable.isSome {i j : ℕ} {a b : α} (h : Comparable lt heap.toList)
    (ha : heap[i]? = some a) (hb : heap[j]? = some b) : (lt a b).isSome :=
  h a (Array.mem_toList_iff.2 (Array.mem_of_getElem? ha)) b
    (Array.mem_toList_iff.2 (Array.mem_of_getElem? hb))

theorem siftDown_completes (fuel : ℕ) (heap : Array α) (pos : ℕ) (h : Comparable lt heap.toList) :
    (siftDown lt start fuel heap pos).1 = true := by
  induction fuel generalizing heap pos with
  | zero => rfl
  | succ fuel ih =>
    rw [siftDown]
    split
    · rfl
    · split
      · next newitem parent hnew hparent =>
        split
        · next hnone => simpa [hnone] using h.isSome hnew hparent
        · rfl
        · exact ih _ _ (h.swap _ _)
      · rfl

theorem siftUp_completes (fuel : ℕ) (heap : Array α) (pos : ℕ) (h : Comparable lt heap.toList) :
    (siftUp lt start fuel heap pos).1 = true := by
  induction fuel generalizing heap pos with
  | zero => exact siftDown_completes _ _ _ h
  | succ fuel ih =>
    rw [siftUp]
    split
    · exact siftDown_completes _ _ _ h
    · split
      · next hnone =>
        rw [smallerChild] at hnone
        split at hnone
        · next a b ha hb => simpa [Option.map_eq_none_iff.1 hnone] using h.isSome ha hb
        · cases hnone
      · exact ih _ _ (h.swap _ _)

theorem push_completes {item : α} (h : Comparable lt (item :: heap.toList)) :
    (push lt heap item).1 = true := by
  refine siftDown_completes _ _ _ (h.perm ?_)
  rw [Array.toList_push]
  exact List.perm_append_singleton _ _

/-- A heap that is not empty gives an item. -/
theorem pop_completes (h : Comparable lt heap.toList) (hheap : heap ≠ #[]) :
    ∃ item rest, pop lt heap = some (some item, rest) := by
  rw [pop]
  split
  · next hnone => exact absurd (Array.back?_eq_none_iff.1 hnone) hheap
  · next last hlast =>
    split
    · exact ⟨last, _, rfl⟩
    · next first hfirst =>
      refine ⟨first, _, congrArg some (Prod.ext (if_pos (siftUp_completes _ _ _ ?_)) rfl)⟩
      exact fun a ha b hb => h a (mem_of_mem_replaced hlast ha) b (mem_of_mem_replaced hlast hb)

end Heap

end Subgen

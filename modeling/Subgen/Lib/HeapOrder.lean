import Mathlib.Data.List.Sort
import Mathlib.Logic.Equiv.Basic
import Subgen.Lib.Heap

/-!
# Heaps in order

What `heappush` and `heappop` do to the order of a heap. The elements are ordered by a `key` with
values in a linear order, and `keyLt` is the comparison by it, which never raises.

* `push_ordered`, `pop_ordered`: both keep the heap in order, and what is popped is a least element;
* `push_extends`, `pop_extends`: an operation that did not raise has done the same with any
  comparison that answers as the one it used wherever that one answers.
-/

namespace Subgen

namespace Heap

variable {α κ : Type} [LinearOrder κ] (key : α → κ)

/-- The comparison by the keys. -/
def keyLt (a b : α) : Option Bool := some (key a < key b)

/-- What stands at `j` does not come before what stands at `i`. -/
def Below (heap : Array α) (i j : ℕ) : Prop := ∀ a ∈ heap[i]?, ∀ b ∈ heap[j]?, key a ≤ key b

/-- No element comes before its parent. -/
def Ordered (heap : Array α) : Prop := ∀ i, 0 < i → Below key heap ((i - 1) / 2) i

/-- In order, but for the element at `pos`, which may come before its parent. -/
structure Rising (heap : Array α) (pos : ℕ) : Prop where
  off : ∀ i, 0 < i → i ≠ pos → Below key heap ((i - 1) / 2) i
  grand : 0 < pos → ∀ i, 0 < i → (i - 1) / 2 = pos → Below key heap ((pos - 1) / 2) i

/-- In order, but for the element at `pos`, to which nothing is said. -/
structure Sinking (heap : Array α) (pos : ℕ) : Prop where
  off : ∀ i, 0 < i → i ≠ pos → (i - 1) / 2 ≠ pos → Below key heap ((i - 1) / 2) i
  grand : 0 < pos → ∀ i, 0 < i → (i - 1) / 2 = pos → Below key heap ((pos - 1) / 2) i

variable {key} {heap : Array α} {i j k : ℕ}

theorem below_refl (heap : Array α) (i : ℕ) : Below key heap i i :=
  fun _ ha _ hb => (congrArg key (Option.some.inj (ha.symm.trans hb))).le

theorem Below.trans (h : Below key heap i j) (h' : Below key heap j k) (hj : j < heap.size) :
    Below key heap i k := fun a ha b hb =>
  have hmid : heap[j] ∈ heap[j]? := Array.getElem?_eq_getElem hj
  (h a ha _ hmid).trans (h' _ hmid b hb)

theorem below_of_size_le (hj : heap.size ≤ j) : Below key heap i j := fun _ _ b hb => by
  rw [Array.getElem?_eq_none hj] at hb
  cases hb

theorem getElem?_swap (hi : i < heap.size) (hj : j < heap.size) (k : ℕ) :
    (heap.swapIfInBounds i j)[k]? = heap[Equiv.swap i j k]? := by
  have hsize : (heap.swapIfInBounds i j).size = heap.size := Array.size_swapIfInBounds
  by_cases hki : k = i
  · rw [hki, Equiv.swap_apply_left, Array.getElem?_eq_getElem hj,
      Array.getElem?_eq_getElem (hsize ▸ hi), Array.getElem_swapIfInBounds_left hj]
  · by_cases hkj : k = j
    · rw [hkj, Equiv.swap_apply_right, Array.getElem?_eq_getElem hi,
        Array.getElem?_eq_getElem (hsize ▸ hj), Array.getElem_swapIfInBounds_right hi]
    · rw [Equiv.swap_apply_of_ne_of_ne hki hkj]
      by_cases hk : k < heap.size
      · rw [Array.getElem?_eq_getElem hk, Array.getElem?_eq_getElem (hsize ▸ hk),
          Array.getElem_swapIfInBounds_of_ne_of_ne hki hkj]
      · rw [Array.getElem?_eq_none (by omega), Array.getElem?_eq_none (by omega)]

theorem below_swap (hi : i < heap.size) (hj : j < heap.size) {a b : ℕ} :
    Below key (heap.swapIfInBounds i j) a b ↔ Below key heap (Equiv.swap i j a) (Equiv.swap i j b) := by
  rw [Below, Below, getElem?_swap hi hj, getElem?_swap hi hj]

/-! ## Sifting -/

/-- The element at `pos` that comes before its parent trades places with it. -/
theorem Rising.swap {pos : ℕ} (h : Rising key heap pos) (hpos : pos < heap.size) (hne : 0 < pos)
    (hlt : Below key heap pos ((pos - 1) / 2)) :
    Rising key (heap.swapIfInBounds ((pos - 1) / 2) pos) ((pos - 1) / 2) := by
  have hp : (pos - 1) / 2 < heap.size := by omega
  constructor
  · intro i hi hip
    rw [below_swap hp hpos]
    by_cases hipos : i = pos
    · rw [hipos, Equiv.swap_apply_left, Equiv.swap_apply_right]
      exact hlt
    · rw [Equiv.swap_apply_of_ne_of_ne hip hipos]
      by_cases hparent : (i - 1) / 2 = pos
      · -- A child of the element that goes down.
        rw [hparent, Equiv.swap_apply_right]
        exact h.grand hne i hi hparent
      · by_cases hsibling : (i - 1) / 2 = (pos - 1) / 2
        · rw [hsibling, Equiv.swap_apply_left]
          exact hlt.trans (hsibling ▸ h.off i hi hipos) hp
        · rw [Equiv.swap_apply_of_ne_of_ne hsibling hparent]
          exact h.off i hi hipos
  · intro hpne i hi hparent
    have habove : Below key heap (((pos - 1) / 2 - 1) / 2) ((pos - 1) / 2) := h.off _ hpne (by omega)
    rw [below_swap hp hpos, Equiv.swap_apply_of_ne_of_ne (by omega) (by omega)]
    by_cases hipos : i = pos
    · rw [hipos, Equiv.swap_apply_right]
      exact habove
    · rw [Equiv.swap_apply_of_ne_of_ne (by omega) hipos]
      exact habove.trans (hparent ▸ h.off i hi hipos) hp

theorem siftDown_ordered (fuel : ℕ) (heap : Array α) (pos : ℕ) (hfuel : pos ≤ fuel)
    (hpos : pos < heap.size) (h : Rising key heap pos) :
    Ordered key (siftDown (keyLt key) 0 fuel heap pos).2 := by
  have hroot : pos = 0 → Ordered key heap := fun h0 i hi => h.off i hi (by omega)
  induction fuel generalizing heap pos with
  | zero => exact hroot (Nat.le_zero.1 hfuel)
  | succ fuel ih =>
    have hp : (pos - 1) / 2 < heap.size := by omega
    rw [siftDown]
    split
    · next h0 => exact hroot (Nat.le_zero.1 h0)
    · next h0 =>
      rw [Array.getElem?_eq_getElem hpos, Array.getElem?_eq_getElem hp]
      have hnew : heap[pos] ∈ heap[pos]? := Array.getElem?_eq_getElem hpos
      have hparent : heap[(pos - 1) / 2] ∈ heap[(pos - 1) / 2]? := Array.getElem?_eq_getElem hp
      dsimp only [keyLt]
      by_cases hlt : key heap[pos] < key heap[(pos - 1) / 2]
      · rw [decide_eq_true hlt]
        have hbelow : Below key heap pos ((pos - 1) / 2) := fun a ha b hb => by
          rw [Option.some.inj (ha.symm.trans hnew), Option.some.inj (hb.symm.trans hparent)]
          exact hlt.le
        have hrising := h.swap hpos (by omega) hbelow
        exact ih _ _ (by omega) (by simpa using hp) hrising fun h0 i hi => hrising.off i hi (by omega)
      · rw [decide_eq_false hlt]
        intro i hi
        by_cases hipos : i = pos
        · intro a ha b hb
          rw [hipos] at ha hb
          rw [Option.some.inj (ha.symm.trans hparent), Option.some.inj (hb.symm.trans hnew)]
          exact not_lt.1 hlt
        · exact h.off i hi hipos

/-- The smaller child does not come behind any child. -/
theorem below_smallerChild {pos child : ℕ} (hchild : 2 * pos + 1 < heap.size)
    (h : smallerChild (keyLt key) heap pos = some child) :
    (child - 1) / 2 = pos ∧ 0 < child ∧ child < heap.size ∧
      ∀ i, 0 < i → (i - 1) / 2 = pos → Below key heap child i := by
  have hleft : heap[2 * pos + 1] ∈ heap[2 * pos + 1]? := Array.getElem?_eq_getElem hchild
  have hchildren : ∀ i, 0 < i → (i - 1) / 2 = pos → i = 2 * pos + 1 ∨ i = 2 * pos + 2 := by omega
  rw [smallerChild] at h
  by_cases hright : 2 * pos + 2 < heap.size
  · have hright' : heap[2 * pos + 2] ∈ heap[2 * pos + 2]? := Array.getElem?_eq_getElem hright
    rw [Array.getElem?_eq_getElem hchild, Array.getElem?_eq_getElem hright] at h
    dsimp only [keyLt, Option.map_some] at h
    by_cases hlt : key heap[2 * pos + 1] < key heap[2 * pos + 2]
    · rw [decide_eq_true hlt, if_pos rfl] at h
      obtain rfl := Option.some.inj h
      refine ⟨by omega, by omega, hchild, fun i hi hparent => ?_⟩
      rcases hchildren i hi hparent with rfl | rfl
      · exact below_refl heap _
      · intro a ha b hb
        rw [Option.some.inj (ha.symm.trans hleft), Option.some.inj (hb.symm.trans hright')]
        exact hlt.le
    · rw [decide_eq_false hlt, if_neg Bool.false_ne_true] at h
      obtain rfl := Option.some.inj h
      refine ⟨by omega, by omega, hright, fun i hi hparent => ?_⟩
      rcases hchildren i hi hparent with rfl | rfl
      · intro a ha b hb
        rw [Option.some.inj (ha.symm.trans hright'), Option.some.inj (hb.symm.trans hleft)]
        exact not_lt.1 hlt
      · exact below_refl heap _
  · rw [Array.getElem?_eq_getElem hchild, Array.getElem?_eq_none (by omega)] at h
    obtain rfl := Option.some.inj h
    refine ⟨by omega, by omega, hchild, fun i hi hparent => ?_⟩
    rcases hchildren i hi hparent with rfl | rfl
    · exact below_refl heap _
    · exact below_of_size_le (by omega)

/-- The smaller child of the element at `pos` trades places with it. -/
theorem Sinking.swap {pos child : ℕ} (h : Sinking key heap pos) (hpos : pos < heap.size)
    (hparent : (child - 1) / 2 = pos) (hne : 0 < child) (hchild : child < heap.size)
    (hleast : ∀ i, 0 < i → (i - 1) / 2 = pos → Below key heap child i) :
    Sinking key (heap.swapIfInBounds child pos) child := by
  have hlt : pos < child := by omega
  constructor
  · intro i hi hic hpc
    rw [below_swap hchild hpos]
    by_cases hipos : i = pos
    · -- Above the place that the child takes.
      rw [hipos, Equiv.swap_apply_right, Equiv.swap_apply_of_ne_of_ne (by omega) (by omega)]
      exact h.grand (by omega) child hne hparent
    · rw [Equiv.swap_apply_of_ne_of_ne hic hipos]
      by_cases hip : (i - 1) / 2 = pos
      · rw [hip, Equiv.swap_apply_right]
        exact hleast i hi hip
      · rw [Equiv.swap_apply_of_ne_of_ne hpc hip]
        exact h.off i hi hipos hip
  · intro _ i hi hic
    rw [below_swap hchild hpos, hparent, Equiv.swap_apply_right,
      Equiv.swap_apply_of_ne_of_ne (by omega) (by omega)]
    rw [← hic]
    exact h.off i hi (by omega) (by omega)

theorem siftUp_ordered (fuel : ℕ) (heap : Array α) (pos : ℕ) (hfuel : heap.size ≤ fuel + pos)
    (hpos : pos < heap.size) (h : Sinking key heap pos) :
    Ordered key (siftUp (keyLt key) 0 fuel heap pos).2 := by
  induction fuel generalizing heap pos with
  | zero => omega
  | succ fuel ih =>
    rw [siftUp]
    split
    · next hleaf =>
      refine siftDown_ordered pos heap pos le_rfl hpos ⟨fun i hi hipos => ?_, h.grand⟩
      by_cases hip : (i - 1) / 2 = pos
      · exact below_of_size_le (by omega)
      · exact h.off i hi hipos hip
    · next hinner =>
      split
      · next hnone =>
        rw [smallerChild] at hnone
        split at hnone
        · cases hnone
        · cases hnone
      · next child hchild =>
        obtain ⟨hparent, hne, hlt, hleast⟩ := below_smallerChild (by omega) hchild
        exact ih _ _ (by rw [Array.size_swapIfInBounds]; omega) (by rwa [Array.size_swapIfInBounds])
          (h.swap hpos hparent hne hlt hleast)

/-! ## Operations -/

theorem ordered_empty : Ordered key (#[] : Array α) := fun _ _ => below_of_size_le (Nat.zero_le _)

/-- A push keeps the heap in order. -/
theorem push_ordered (h : Ordered key heap) (item : α) :
    Ordered key (push (keyLt key) heap item).2 := by
  have hsize : (heap.push item).size = heap.size + 1 := Array.size_push item
  refine siftDown_ordered _ _ _ le_rfl (by omega) ⟨fun i hi hne => ?_, fun _ i hi hparent => ?_⟩
  · by_cases hlt : i < heap.size
    · have hold : ∀ j < heap.size, (heap.push item)[j]? = heap[j]? := fun j hj => by
        rw [Array.getElem?_push, if_neg (by omega)]
      rw [Below, hold i hlt, hold _ (by omega)]
      exact h i hi
    · exact below_of_size_le (by omega)
  · exact below_of_size_le (by omega)

/-- The first element is a least one. -/
theorem Ordered.root (h : Ordered key heap) (i : ℕ) (hi : i < heap.size) : Below key heap 0 i := by
  induction i using Nat.strongRecOn with
  | ind i ih =>
    by_cases h0 : i = 0
    · rw [h0]
      exact below_refl heap 0
    · exact (ih _ (by omega) (by omega)).trans (h i (by omega)) (by omega)

/-- A pop keeps the heap in order, and gives a least element. -/
theorem pop_ordered (h : Ordered key heap) {item : Option α} {rest : Array α}
    (hpop : pop (keyLt key) heap = some (item, rest)) :
    Ordered key rest ∧ ∀ a ∈ item, ∀ b ∈ rest.toList, key a ≤ key b := by
  obtain ⟨first, hperm, hfirst⟩ := pop_perm hpop
  have hsize : heap.pop.size = heap.size - 1 := Array.size_pop
  rw [pop] at hpop
  split at hpop
  · cases hpop
  · next last hlast =>
    split at hpop
    · next hempty =>
      obtain ⟨-, rfl⟩ := Prod.mk.inj (Option.some.inj hpop)
      have hzero : heap.pop.size = 0 := Nat.le_zero.1 (Array.getElem?_eq_none_iff.1 hempty)
      rw [Array.eq_empty_of_size_eq_zero hzero]
      exact ⟨ordered_empty, fun _ _ _ hb => absurd hb List.not_mem_nil⟩
    · next root hroot =>
      obtain ⟨hpos, hroot⟩ := Array.getElem?_eq_some_iff.1 hroot
      have hget : ∀ i, 0 < i → i < heap.pop.size →
          (heap.pop.setIfInBounds 0 last)[i]? = heap[i]? := fun i hi hlt => by
        rw [Array.getElem?_setIfInBounds_ne (by omega), Array.getElem?_pop, if_pos (by omega)]
      obtain ⟨hitem, rfl⟩ := Prod.mk.inj (Option.some.inj hpop)
      -- The last item takes the place of the root, and is the only one out of order.
      refine ⟨siftUp_ordered _ _ _ (by simp) (by simpa using hpos)
        ⟨fun i hi hne hparent => ?_, fun h0 => absurd h0 (lt_irrefl 0)⟩, fun a ha b hb => ?_⟩
      · by_cases hlt : i < heap.pop.size
        · rw [Below, hget i hi hlt, hget _ (by omega) (by omega)]
          exact h i hi
        · exact below_of_size_le (by simpa using hlt)
      · -- What is given is the root, which is below every item of the heap.
        have ha0 : a ∈ heap[0]? := by
          by_cases hdone :
              (siftUp (keyLt key) 0 heap.pop.size (heap.pop.setIfInBounds 0 last) 0).1 = true
          · rw [if_pos hdone] at hitem
            rw [Array.getElem_pop] at hroot
            rw [← Option.some.inj (hitem.trans ha), ← hroot]
            exact Array.getElem?_eq_getElem (by omega)
          · rw [if_neg hdone] at hitem
            rw [← hitem] at ha
            cases ha
        obtain ⟨j, hj, rfl⟩ := List.mem_iff_getElem.1 (hperm.mem_iff.2 (List.mem_cons_of_mem _ hb))
        exact h.root j hj a ha0 _ (Array.getElem?_eq_getElem hj)

/-! ## Comparisons that answer alike -/

/-- `lt'` answers as `lt` wherever `lt` answers. -/
def Extends (lt lt' : α → α → Option Bool) (l : List α) : Prop :=
  ∀ a ∈ l, ∀ b ∈ l, ∀ less, lt a b = some less → lt' a b = some less

variable {lt lt' : α → α → Option Bool} {start : ℕ}

theorem Extends.perm {l l' : List α} (h : Extends lt lt' l) (hperm : l'.Perm l) : Extends lt lt' l' :=
  fun a ha b hb => h a (hperm.mem_iff.1 ha) b (hperm.mem_iff.1 hb)

theorem Extends.swap (h : Extends lt lt' heap.toList) (i j : ℕ) :
    Extends lt lt' (heap.swapIfInBounds i j).toList :=
  h.perm (Array.perm_iff_toList_perm.1 (swap_perm i j))

theorem Extends.answer {a b : α} {less : Bool} (h : Extends lt lt' heap.toList)
    (ha : heap[i]? = some a) (hb : heap[j]? = some b) (hlt : lt a b = some less) :
    lt' a b = some less :=
  h a (Array.mem_toList_iff.2 (Array.mem_of_getElem? ha)) b
    (Array.mem_toList_iff.2 (Array.mem_of_getElem? hb)) less hlt

theorem siftDown_extends (fuel : ℕ) (heap : Array α) (pos : ℕ) (h : Extends lt lt' heap.toList)
    (hdone : (siftDown lt start fuel heap pos).1 = true) :
    siftDown lt' start fuel heap pos = siftDown lt start fuel heap pos := by
  induction fuel generalizing heap pos with
  | zero => rfl
  | succ fuel ih =>
    rw [siftDown] at hdone
    rw [siftDown, siftDown]
    split
    · rfl
    · next hpos =>
      rw [if_neg hpos] at hdone
      split
      · next newitem parent hnew hparent =>
        rw [hnew, hparent] at hdone
        dsimp only at hdone
        cases hlt : lt newitem parent with
        | none =>
          rw [hlt] at hdone
          exact absurd hdone Bool.false_ne_true
        | some less =>
          rw [hlt] at hdone
          rw [h.answer hnew hparent hlt]
          cases less with
          | false => rfl
          | true => exact ih _ _ (h.swap _ _) hdone
      · rfl

theorem siftUp_extends (fuel : ℕ) (heap : Array α) (pos : ℕ) (h : Extends lt lt' heap.toList)
    (hdone : (siftUp lt start fuel heap pos).1 = true) :
    siftUp lt' start fuel heap pos = siftUp lt start fuel heap pos := by
  induction fuel generalizing heap pos with
  | zero => exact siftDown_extends _ _ _ h hdone
  | succ fuel ih =>
    rw [siftUp] at hdone
    rw [siftUp, siftUp]
    by_cases hpos : heap.size / 2 ≤ pos
    · rw [if_pos hpos] at hdone
      rw [if_pos hpos, if_pos hpos]
      exact siftDown_extends _ _ _ h hdone
    · rw [if_neg hpos] at hdone
      rw [if_neg hpos, if_neg hpos]
      cases hchild : smallerChild lt heap pos with
      | none =>
        rw [hchild] at hdone
        exact absurd hdone Bool.false_ne_true
      | some child =>
        have hchild' : smallerChild lt' heap pos = some child := by
          rw [smallerChild] at hchild ⊢
          split at hchild
          · next a b ha hb =>
            obtain ⟨less, hless, hc⟩ := Option.map_eq_some_iff.1 hchild
            rw [h.answer ha hb hless, Option.map_some, hc]
          · exact hchild
        rw [hchild] at hdone
        rw [hchild']
        exact ih _ _ (h.swap _ _) hdone

theorem push_extends {item : α} (h : Extends lt lt' (item :: heap.toList))
    (hdone : (push lt heap item).1 = true) : push lt' heap item = push lt heap item := by
  refine siftDown_extends _ _ _ (h.perm ?_) hdone
  rw [Array.toList_push]
  exact List.perm_append_singleton _ _

theorem pop_extends {item : α} {rest : Array α} (h : Extends lt lt' heap.toList)
    (hpop : pop lt heap = some (some item, rest)) : pop lt' heap = some (some item, rest) := by
  rw [pop] at hpop ⊢
  split at hpop
  · cases hpop
  · next last hlast =>
    split at hpop
    · exact hpop
    · next first hfirst =>
      by_cases hdone : (siftUp lt 0 heap.pop.size (heap.pop.setIfInBounds 0 last) 0).1 = true
      · rw [siftUp_extends _ _ _ ?_ hdone]
        · exact hpop
        · exact fun a ha b hb => h a (mem_of_mem_replaced hlast ha) b (mem_of_mem_replaced hlast hb)
      · dsimp only at hpop
        rw [if_neg hdone] at hpop
        cases hpop

end Heap

end Subgen

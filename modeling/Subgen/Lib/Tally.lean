import Mathlib.Algebra.BigOperators.Ring.Finset
import Mathlib.Data.Int.Basic
import Mathlib.Tactic.Ring
import Subgen.Lib.OrderedDict

/-!
# Tallies

Items of several classes, and a dictionary of records, one for each class, that have the number of
the items of their class (`Tally`).

The items are a list, of which the order does not matter, and the records may have other fields beside their
number. A record of a class without items is allowed, and its number is zero. The lemmas follow what happens to
such counters: an item comes, an item goes, a class is counted anew, and a record is made before it is needed.

* `Tally.cons`, `Tally.uncons`: an item comes or goes, and the record of its class is changed;
* `Tally.setDefault`: a record is made;
* `Tally.recount`: the items of one class are counted anew;
* `Tally.sum_eq`: the numbers add up to that of the items.
-/

namespace Subgen

variable {ν γ μ : Type} [DecidableEq γ] (cls : ν → γ) (num : μ → ℤ)

/-- Each item has a record for its class, and each record has the number of its items. -/
structure Tally (items : List ν) (records : OrderedDict γ μ) : Prop where
  named : ∀ x ∈ items, ∃ r, records.get (cls x) = some r
  counted : ∀ a r, records.get a = some r → num r = items.countP (cls · = a)

namespace Tally

variable {cls num} {items items' : List ν} {records : OrderedDict γ μ} {x : ν} {a : γ} {r : μ}
  {f : μ → μ}

theorem nil (h : ∀ a r, records.get a = some r → num r = 0) : Tally cls num [] records where
  named _ hx := absurd hx List.not_mem_nil
  counted a r hr := by
    rw [h a r hr, List.countP_nil]
    rfl

theorem perm (h : Tally cls num items records) (hperm : items.Perm items') :
    Tally cls num items' records where
  named x hx := h.named x (hperm.mem_iff.2 hx)
  counted a r hr := by rw [h.counted a r hr, hperm.countP_eq]

/-- The number of no record changes, and no record goes. -/
theorem congr {records' : OrderedDict γ μ} (h : Tally cls num items records)
    (hget : ∀ a, (records'.get a).map num = (records.get a).map num) : Tally cls num items records' where
  named x hx := by
    obtain ⟨r, hr⟩ := h.named x hx
    have hmap := hget (cls x)
    rw [hr] at hmap
    obtain ⟨r', hr', -⟩ := Option.map_eq_some_iff.1 hmap
    exact ⟨r', hr'⟩
  counted a r' hr' := by
    have hmap := hget a
    rw [hr'] at hmap
    obtain ⟨r, hr, heq⟩ := Option.map_eq_some_iff.1 hmap.symm
    rw [← heq, h.counted a r hr]

theorem countP_cons (cls : ν → γ) (x : ν) (items : List ν) (a : γ) :
    (x :: items).countP (cls · = a) = items.countP (cls · = a) + if cls x = a then 1 else 0 := by
  rw [List.countP_cons]
  simp only [decide_eq_true_iff]

theorem countP_eq_zero (h : Tally cls num items records) (ha : records.get a = none) :
    items.countP (cls · = a) = 0 := by
  refine List.countP_eq_zero.2 fun x hx hcls => ?_
  obtain ⟨r, hr⟩ := h.named x hx
  rw [of_decide_eq_true hcls, ha] at hr
  cases hr

/-- A record for a class that may not have had one. -/
theorem setDefault (h : Tally cls num items records) (a : γ) (hr : num r = 0) :
    Tally cls num items (records.setDefault a r) where
  named x hx := by
    rw [OrderedDict.get_setDefault]
    by_cases ha : cls x = a
    · exact ⟨_, if_pos ha⟩
    · rw [if_neg ha]
      exact h.named x hx
  counted a' r' hr' := by
    rw [OrderedDict.get_setDefault] at hr'
    by_cases ha : a' = a
    · rw [if_pos ha, Option.some.injEq] at hr'
      rcases hget : records.get a with _ | r₀
      · rw [← hr', hget, Option.getD_none, hr, ha, h.countP_eq_zero hget]
        rfl
      · rw [← hr', hget, Option.getD_some, ha, h.counted a r₀ hget]
    · rw [if_neg ha] at hr'
      exact h.counted a' r' hr'

/-- An item comes. -/
theorem cons (h : Tally cls num items records) (hr : records.get (cls x) = some r)
    (hf : num (f r) = num r + 1) : Tally cls num (x :: items) (records.modify (cls x) f) where
  named y hy := by
    rw [OrderedDict.get_modify]
    by_cases ha : cls y = cls x
    · rw [if_pos ha, hr]
      exact ⟨_, rfl⟩
    · rw [if_neg ha]
      exact h.named y ((List.mem_cons.1 hy).resolve_left fun heq => ha (congrArg cls heq))
  counted a r' hr' := by
    rw [OrderedDict.get_modify] at hr'
    by_cases ha : a = cls x
    · rw [if_pos ha, hr, Option.map_some, Option.some.injEq] at hr'
      rw [← hr', hf, h.counted _ r hr, ha, countP_cons, if_pos rfl]
      push_cast
      rfl
    · rw [if_neg ha] at hr'
      rw [h.counted a r' hr', countP_cons, if_neg (Ne.symm ha), add_zero]

/-- An item goes. -/
theorem uncons (h : Tally cls num (x :: items) records)
    (hf : ∀ r, records.get (cls x) = some r → num (f r) = num r - 1) :
    Tally cls num items (records.modify (cls x) f) where
  named y hy := by
    obtain ⟨r, hr⟩ := h.named y (List.mem_cons_of_mem _ hy)
    rw [OrderedDict.get_modify]
    by_cases ha : cls y = cls x
    · rw [if_pos ha, ← ha, hr]
      exact ⟨_, rfl⟩
    · rw [if_neg ha]
      exact ⟨r, hr⟩
  counted a r' hr' := by
    rw [OrderedDict.get_modify] at hr'
    by_cases ha : a = cls x
    · rw [if_pos ha] at hr'
      obtain ⟨r, hr, rfl⟩ := Option.map_eq_some_iff.1 hr'
      rw [hf r hr, h.counted _ r hr, ha, countP_cons, if_pos rfl]
      push_cast
      ring
    · rw [if_neg ha] at hr'
      rw [h.counted a r' hr', countP_cons, if_neg (Ne.symm ha), add_zero]

/-- The record of an item has it. -/
theorem one_le (h : Tally cls num items records) (hx : x ∈ items)
    (hr : records.get (cls x) = some r) : 1 ≤ num r := by
  rw [h.counted _ r hr]
  exact_mod_cast List.countP_pos_iff.2 ⟨x, hx, decide_eq_true rfl⟩

/-- Items of one class go, and the rest of them is counted. -/
theorem recount (h : Tally cls num items records) (hsub : items' ⊆ items)
    (hrest : ∀ b, b ≠ a → items'.countP (cls · = b) = items.countP (cls · = b))
    (hf : ∀ r, records.get a = some r → num (f r) = items'.countP (cls · = a)) :
    Tally cls num items' (records.modify a f) where
  named y hy := by
    obtain ⟨r, hr⟩ := h.named y (hsub hy)
    rw [OrderedDict.get_modify]
    by_cases ha : cls y = a
    · rw [if_pos ha, ← ha, hr]
      exact ⟨_, rfl⟩
    · rw [if_neg ha]
      exact ⟨r, hr⟩
  counted b r' hr' := by
    rw [OrderedDict.get_modify] at hr'
    by_cases ha : b = a
    · rw [if_pos ha] at hr'
      obtain ⟨r, hr, rfl⟩ := Option.map_eq_some_iff.1 hr'
      rw [hf r hr, ha]
    · rw [if_neg ha] at hr'
      rw [h.counted b r' hr', hrest b ha]

theorem sum_map_ite_eq_count (keys : List γ) (a : γ) :
    (keys.map fun b => if a = b then 1 else 0).sum = keys.count a := by
  induction keys with
  | nil => rfl
  | cons b keys ih =>
    rw [List.map_cons, List.sum_cons, ih, List.count_cons, add_comm]
    simp only [beq_iff_eq, eq_comm (a := a)]

theorem sum_countP {keys : List γ} (hnodup : keys.Nodup) (hmem : ∀ x ∈ items, cls x ∈ keys) :
    (keys.map fun a => items.countP (cls · = a)).sum = items.length := by
  induction items with
  | nil => simp
  | cons x items ih =>
    calc (keys.map fun a => (x :: items).countP (cls · = a)).sum
        = (keys.map fun a => items.countP (cls · = a)).sum + keys.count (cls x) := by
          simp only [countP_cons, List.sum_map_add, sum_map_ite_eq_count]
      _ = items.length + 1 := by
          rw [ih fun y hy => hmem y (List.mem_cons_of_mem _ hy),
            List.count_eq_one_of_mem hnodup (hmem x List.mem_cons_self)]

/-- The numbers add up. -/
theorem sum_eq (h : Tally cls num items records) : (records.values.map num).sum = items.length := by
  have hnum : records.values.map num =
      ((records.entries.map Prod.fst).map fun a => items.countP (cls · = a)).map Nat.cast := by
    rw [OrderedDict.values, List.map_map, List.map_map, List.map_map]
    exact List.map_congr_left fun e he => h.counted _ _ (OrderedDict.get_eq_some.2 he)
  have hmem : ∀ x ∈ items, cls x ∈ records.entries.map Prod.fst := fun x hx => by
    obtain ⟨r, hr⟩ := h.named x hx
    exact List.mem_map_of_mem (f := Prod.fst) (OrderedDict.get_eq_some.1 hr)
  rw [hnum, ← Nat.cast_list_sum, sum_countP records.nodup hmem]

end Tally

end Subgen

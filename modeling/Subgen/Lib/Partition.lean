import Mathlib

/-!
# Partitions into half-open intervals

A list of sets partitions a set when the sets are pairwise disjoint and their
union is the set (`IsPartition`). The order of the pieces does not matter
(`IsPartition.perm`), and a half-open interval may be cut in two or joined from
two at any point between its ends (`isPartition_split`).

Intervals are given by their end points, as pairs; `pieces` are the sets they
stand for.

* `coalesce` joins the adjacent intervals of a sorted list: the set it covers
  stays the same (`isPartition_coalesce`), and no two of its intervals touch
  (`pairwise_coalesce`).
* `IsPartition.length_apart_le`: how many intervals a partition can have that do not touch.
* `Tiles a b l`: the intervals of `l`, in their order, run from `a` to `b`
  without gap or overlap.
-/

namespace Subgen

open Set

section Partition

variable {α : Type*}

/-- The sets of `l` are pairwise disjoint and their union is `s`. -/
structure IsPartition (l : List (Set α)) (s : Set α) : Prop where
  disjoint : l.Pairwise Disjoint
  union : ⋃ p ∈ l, p = s

namespace IsPartition

variable {l l' : List (Set α)} {s a b : Set α}

/-- The order of the parts does not matter. -/
theorem perm (h : IsPartition l s) (hl : l.Perm l') : IsPartition l' s where
  disjoint := hl.pairwise h.disjoint fun hd => hd.symm
  union := by
    rw [← h.union]
    ext x
    simp [hl.mem_iff]

/-- An element belongs to the set exactly when it belongs to a part. -/
theorem mem_iff (h : IsPartition l s) {x : α} : x ∈ s ↔ ∃ p ∈ l, x ∈ p := by
  rw [← h.union]
  simp

/-- Every part lies in the set. -/
theorem subset (h : IsPartition l s) (ha : a ∈ l) : a ⊆ s :=
  fun _ hx => h.mem_iff.2 ⟨a, ha, hx⟩

end IsPartition

/-- Reordered parts partition the same set. -/
theorem isPartition_perm {l l' : List (Set α)} {s : Set α} (hl : l.Perm l') :
    IsPartition l s ↔ IsPartition l' s :=
  ⟨fun h => h.perm hl, fun h => h.perm hl.symm⟩

/-- A piece may be replaced by two disjoint ones with the same union, and back. -/
theorem isPartition_cons_union {l : List (Set α)} {s a b : Set α} (hab : Disjoint a b) :
    IsPartition ((a ∪ b) :: l) s ↔ IsPartition (a :: b :: l) s := by
  constructor
  · rintro ⟨hd, hu⟩
    rw [List.pairwise_cons] at hd
    refine ⟨?_, by rw [← hu]; ext x; simp [or_assoc]⟩
    simp only [List.pairwise_cons, List.mem_cons, forall_eq_or_imp]
    exact ⟨⟨hab, fun p hp => (disjoint_union_left.1 (hd.1 p hp)).1⟩,
      fun p hp => (disjoint_union_left.1 (hd.1 p hp)).2, hd.2⟩
  · rintro ⟨hd, hu⟩
    simp only [List.pairwise_cons, List.mem_cons, forall_eq_or_imp] at hd
    refine ⟨?_, by rw [← hu]; ext x; simp [or_assoc]⟩
    exact List.pairwise_cons.2
      ⟨fun p hp => disjoint_union_left.2 ⟨hd.1.2 p hp, hd.2.1 p hp⟩, hd.2.2⟩

/-- An empty part may be added or left out. -/
theorem isPartition_cons_empty {l : List (Set α)} {s : Set α} :
    IsPartition (∅ :: l) s ↔ IsPartition l s := by
  constructor
  · rintro ⟨hd, hu⟩
    exact ⟨(List.pairwise_cons.1 hd).2, by rw [← hu]; ext x; simp⟩
  · rintro ⟨hd, hu⟩
    exact ⟨List.pairwise_cons.2 ⟨fun p _ => empty_disjoint p, hd⟩, by rw [← hu]; ext x; simp⟩

end Partition

section Intervals

variable {α : Type*} [LinearOrder α]

/-- The half-open interval between the two ends of a pair. -/
def piece (p : α × α) : Set α := Ico p.1 p.2

/-- The half-open intervals of a list of pairs. -/
def pieces (l : List (α × α)) : List (Set α) := l.map piece

/-- The elements of a half-open interval. -/
@[simp] theorem mem_piece {p : α × α} {x : α} : x ∈ piece p ↔ p.1 ≤ x ∧ x < p.2 := Iff.rfl

@[simp] theorem pieces_cons (p : α × α) (l : List (α × α)) :
    pieces (p :: l) = piece p :: pieces l := rfl

@[simp] theorem pieces_append (l l' : List (α × α)) : pieces (l ++ l') = pieces l ++ pieces l' :=
  List.map_append

/-- Reordered intervals have reordered pieces. -/
theorem pieces_perm {l l' : List (α × α)} (h : l.Perm l') : (pieces l).Perm (pieces l') :=
  h.map piece

/-- A proper interval contains its left end. -/
theorem left_mem_piece {p : α × α} (h : p.1 < p.2) : p.1 ∈ piece p := left_mem_Ico.2 h

/-- An interval is cut in two, or joined, at any point between its ends. -/
theorem isPartition_split {l : List (α × α)} {s : Set α} {a b c : α} (hab : a ≤ b) (hbc : b ≤ c) :
    IsPartition (pieces ((a, c) :: l)) s ↔ IsPartition (pieces ((a, b) :: (b, c) :: l)) s := by
  have hd : Disjoint (Ico a b) (Ico b c) :=
    Set.disjoint_left.2 fun x hx hx' => absurd hx.2 (not_lt.2 hx'.1)
  simp only [pieces_cons, piece]
  rw [← Ico_union_Ico_eq_Ico hab hbc]
  exact isPartition_cons_union hd

/-- Two different non-empty intervals of a partition do not meet. -/
theorem IsPartition.disjoint_piece {l : List (α × α)} {s : Set α} {p q : α × α}
    (h : IsPartition (pieces (p :: l)) s) (hq : q ∈ l) : Disjoint (piece p) (piece q) :=
  (List.pairwise_cons.1 h.disjoint).1 _ (List.mem_map_of_mem hq)

/-- Of two disjoint non-empty intervals, the one that starts first ends before the other. -/
theorem le_of_disjoint {p q : α × α} (hd : Disjoint (piece p) (piece q)) (hq : q.1 < q.2)
    (hpq : p.1 ≤ q.1) : p.2 ≤ q.1 := by
  by_contra hlt
  exact Set.disjoint_left.1 hd ⟨hpq, not_le.1 hlt⟩ (left_mem_piece hq)

/-! ## Coalescing -/

/-- One step of the join: the interval `p` extends the last one joined, which is
    the head of `merged`, if it starts where that one ends. -/
def coalesceStep (merged : List (α × α)) (p : α × α) : List (α × α) :=
  match merged with
  | [] => [p]
  | last :: rest => if p.1 = last.2 then (last.1, p.2) :: rest else p :: last :: rest

/-- The adjacent intervals of a sorted list, joined. -/
def coalesce (l : List (α × α)) : List (α × α) := (l.foldl coalesceStep []).reverse

/-- Merging one interval into the last one keeps the partition. -/
theorem isPartition_coalesceStep {merged rest : List (α × α)} {p : α × α} {s : Set α}
    (hm : ∀ q ∈ merged, q.1 < q.2) (hp : p.1 < p.2) :
    IsPartition (pieces (coalesceStep merged p ++ rest)) s ↔
      IsPartition (pieces (merged ++ p :: rest)) s := by
  cases merged with
  | nil => rfl
  | cons last merged =>
    have hperm : (last :: merged ++ p :: rest).Perm (last :: p :: (merged ++ rest)) :=
      List.perm_middle.cons last
    rw [isPartition_perm (pieces_perm hperm), coalesceStep]
    split_ifs with h
    · obtain ⟨a, b⟩ := last
      obtain ⟨c, d⟩ := p
      obtain rfl : c = b := h
      exact isPartition_split (hm _ List.mem_cons_self).le hp.le
    · exact isPartition_perm (pieces_perm (List.Perm.swap last p _))

/-- Merging keeps intervals proper. -/
theorem lt_of_mem_coalesceStep {merged : List (α × α)} {p : α × α}
    (hm : ∀ q ∈ merged, q.1 < q.2) (hp : p.1 < p.2) : ∀ q ∈ coalesceStep merged p, q.1 < q.2 := by
  cases merged with
  | nil => simpa [coalesceStep] using hp
  | cons last merged =>
    rw [List.forall_mem_cons] at hm
    rw [coalesceStep]
    split_ifs with h
    · exact List.forall_mem_cons.2 ⟨hm.1.trans (h ▸ hp), hm.2⟩
    · exact List.forall_mem_cons.2 ⟨hp, List.forall_mem_cons.2 hm⟩

/-- Merging interval after interval keeps the partition, by induction on the list. -/
theorem isPartition_foldl_coalesceStep {l merged rest : List (α × α)} {s : Set α}
    (hm : ∀ q ∈ merged, q.1 < q.2) (hl : ∀ q ∈ l, q.1 < q.2) :
    IsPartition (pieces (l.foldl coalesceStep merged ++ rest)) s ↔
      IsPartition (pieces (merged ++ (l ++ rest))) s := by
  induction l generalizing merged with
  | nil => exact Iff.rfl
  | cons p l ih =>
    rw [List.forall_mem_cons] at hl
    exact (ih (lt_of_mem_coalesceStep hm hl.1) hl.2).trans (isPartition_coalesceStep hm hl.1)

/-- Joining adjacent intervals covers the same set. -/
theorem isPartition_coalesce {l rest : List (α × α)} {s : Set α} (hl : ∀ q ∈ l, q.1 < q.2) :
    IsPartition (pieces (coalesce l ++ rest)) s ↔ IsPartition (pieces (l ++ rest)) s := by
  rw [coalesce, isPartition_perm (pieces_perm ((List.reverse_perm _).append_right rest))]
  exact isPartition_foldl_coalesceStep (by simp) hl

/-- Merging interval after interval keeps them proper. -/
theorem lt_of_mem_foldl_coalesceStep {l merged : List (α × α)} (hm : ∀ q ∈ merged, q.1 < q.2)
    (hl : ∀ q ∈ l, q.1 < q.2) : ∀ q ∈ l.foldl coalesceStep merged, q.1 < q.2 := by
  induction l generalizing merged with
  | nil => exact hm
  | cons p l ih =>
    rw [List.forall_mem_cons] at hl
    exact ih (lt_of_mem_coalesceStep hm hl.1) hl.2

/-- Merged intervals are proper. -/
theorem lt_of_mem_coalesce {l : List (α × α)} (hl : ∀ q ∈ l, q.1 < q.2) :
    ∀ q ∈ coalesce l, q.1 < q.2 := fun q hq =>
  lt_of_mem_foldl_coalesceStep (by simp) hl q (List.mem_reverse.1 hq)

/-- What follows the intervals joined so far follows them after one more step. -/
theorem le_of_mem_coalesceStep {merged : List (α × α)} {p : α × α} {b : α}
    (hm : ∀ q ∈ merged, q.2 ≤ b) (hp : p.2 ≤ b) : ∀ q ∈ coalesceStep merged p, q.2 ≤ b := by
  cases merged with
  | nil => simpa [coalesceStep] using hp
  | cons last merged =>
    rw [List.forall_mem_cons] at hm
    rw [coalesceStep]
    split_ifs with h
    · exact List.forall_mem_cons.2 ⟨hp, hm.2⟩
    · exact List.forall_mem_cons.2 ⟨hp, List.forall_mem_cons.2 hm⟩

/-- Merging one interval keeps the merged ones apart. -/
theorem pairwise_coalesceStep {merged : List (α × α)} {p : α × α}
    (hm : merged.Pairwise fun q p => p.2 < q.1) (hne : ∀ q ∈ merged, q.1 < q.2)
    (hp : ∀ q ∈ merged, q.2 ≤ p.1) :
    (coalesceStep merged p).Pairwise fun q p => p.2 < q.1 := by
  cases merged with
  | nil => exact List.pairwise_singleton _ _
  | cons last merged =>
    rw [List.pairwise_cons] at hm
    rw [List.forall_mem_cons] at hne hp
    rw [coalesceStep]
    split_ifs with h
    · exact List.pairwise_cons.2 hm
    · -- The new interval does not touch the last one, which is after all others.
      have hlast : last.2 < p.1 := lt_of_le_of_ne hp.1 fun e => h e.symm
      exact List.pairwise_cons.2 ⟨List.forall_mem_cons.2 ⟨hlast, fun q hq =>
        (hm.1 q hq).trans (hne.1.trans hlast)⟩, List.pairwise_cons.2 hm⟩

/-- Merging interval after interval keeps the merged ones apart. -/
theorem pairwise_foldl_coalesceStep {l merged : List (α × α)}
    (hl : l.Pairwise fun p q => p.2 ≤ q.1) (hne : ∀ q ∈ l, q.1 < q.2)
    (hm : merged.Pairwise fun q p => p.2 < q.1) (hmne : ∀ q ∈ merged, q.1 < q.2)
    (hml : ∀ p ∈ l, ∀ q ∈ merged, q.2 ≤ p.1) :
    (l.foldl coalesceStep merged).Pairwise fun q p => p.2 < q.1 := by
  induction l generalizing merged with
  | nil => exact hm
  | cons p l ih =>
    rw [List.pairwise_cons] at hl
    rw [List.forall_mem_cons] at hne hml
    exact ih hl.2 hne.2 (pairwise_coalesceStep hm hmne hml.1) (lt_of_mem_coalesceStep hmne hne.1)
      fun q hq => le_of_mem_coalesceStep (hml.2 q hq) (hl.1 q hq)

/-- No two intervals touch after joining the adjacent ones of a sorted list. -/
theorem pairwise_coalesce {l : List (α × α)} (hl : l.Pairwise fun p q => p.2 ≤ q.1)
    (hne : ∀ q ∈ l, q.1 < q.2) : (coalesce l).Pairwise fun p q => p.2 < q.1 :=
  List.pairwise_reverse.2 (pairwise_foldl_coalesceStep hl hne List.Pairwise.nil (by simp) (by simp))

/-- Sorting disjoint non-empty intervals by their ends puts each one before the next. -/
theorem pairwise_of_sorted {l : List (α × α)} (h : (pieces l).Pairwise Disjoint)
    (hne : ∀ q ∈ l, q.1 < q.2) (hs : l.Pairwise fun p q => p.1 ≤ q.1) :
    l.Pairwise fun p q => p.2 ≤ q.1 := by
  have hd := List.pairwise_map.1 h
  exact (hd.and hs).imp_of_mem fun _ hq hpq => le_of_disjoint hpq.1 (hne _ hq) hpq.2

/-! ## Intervals that do not touch -/

/-- Proper intervals that lie apart are distinct. -/
theorem nodup_of_apart {l : List (α × α)} (hlt : ∀ p ∈ l, p.1 < p.2)
    (hapart : l.Pairwise fun p q => p.2 < q.1) : l.Nodup :=
  hapart.imp_of_mem fun hp _ hpq heq => absurd ((hlt _ hp).trans hpq) (heq ▸ lt_irrefl _)

/-- Of two different intervals that do not touch, one ends before the other. -/
theorem apart_or {l : List (α × α)} (hapart : l.Pairwise fun p q => p.2 < q.1) {p q : α × α} (hp : p ∈ l)
    (hq : q ∈ l) (hne : p ≠ q) : p.2 < q.1 ∨ q.2 < p.1 := by
  have hsymm : l.Pairwise fun p q => p.2 < q.1 ∨ q.2 < p.1 := hapart.imp fun h => .inl h
  have : Std.Symm fun p q : α × α => p.2 < q.1 ∨ q.2 < p.1 := ⟨fun _ _ h => h.symm⟩
  exact hsymm.forall hp hq hne

/-- Where an interval ends there is another piece of the partition, which reaches up to the next interval
    that does not touch it; so there are not many more intervals than other pieces. -/
theorem IsPartition.length_apart_le {l m : List (α × α)} {a x y d : α}
    (h : IsPartition (pieces ((a, x) :: m ++ l ++ [(y, d)])) (Ico a d)) (hlt : ∀ p ∈ l, p.1 < p.2)
    (hapart : l.Pairwise fun p q => p.2 < q.1) : l.length ≤ m.length + 1 := by
  have hdisjoint := h.disjoint
  simp only [pieces, List.map_append, List.map_cons, List.map_nil, List.cons_append, List.pairwise_cons,
    List.pairwise_append, List.mem_append, List.mem_map, List.mem_singleton] at hdisjoint
  obtain ⟨hfirst, ⟨-, -, hml⟩, -, hlast⟩ := hdisjoint
  -- The start of an interval is in no other piece.
  have hstart : ∀ p ∈ l, ¬ p.1 < x ∧ (∀ q ∈ m, p.1 ∉ piece q) ∧ ¬ (y ≤ p.1 ∧ p.1 < d) ∧ a ≤ p.1 ∧ p.1 < d := by
    intro p hp
    have hmem := left_mem_piece (hlt p hp)
    have hin : p.1 ∈ Ico a d := h.mem_iff.2 ⟨piece p, List.mem_map_of_mem (by simp [hp]), hmem⟩
    refine ⟨fun hx => ?_, fun q hq hpq => ?_, fun hy => ?_, hin⟩
    · exact Set.disjoint_left.1 (hfirst _ (.inl (.inr ⟨p, hp, rfl⟩))) ⟨hin.1, hx⟩ hmem
    · exact Set.disjoint_left.1 (hml _ ⟨q, hq, rfl⟩ _ ⟨p, hp, rfl⟩) hpq hmem
    · exact Set.disjoint_left.1 (hlast _ (.inr ⟨p, hp, rfl⟩) _ rfl) hmem hy
  have hnext : ∀ p ∈ l.dropLast, p ∈ l ∧ ∃ q ∈ l, p.2 < q.1 := by
    intro p hp
    have hne : l ≠ [] := by rintro rfl; cases hp
    refine ⟨List.dropLast_subset l hp, l.getLast hne, List.getLast_mem hne, ?_⟩
    rw [← List.dropLast_append_getLast hne, List.pairwise_append] at hapart
    exact hapart.2.2 p hp _ List.mem_cons_self
  have hcard : l.dropLast.toFinset.card ≤ m.toFinset.card := by
    refine Finset.card_le_card_of_forall_subsingleton (fun p q => p.2 ∈ piece q) (fun p hp => ?_) fun q hq p hp p' hp' => ?_
    · obtain ⟨hpl, q, hq, hpq⟩ := hnext p (List.mem_toFinset.1 hp)
      obtain ⟨-, -, hqy, -, hqd⟩ := hstart q hq
      obtain ⟨hpx, -, -, hpa, -⟩ := hstart p hpl
      have hp2 := hlt p hpl
      have hin : p.2 ∈ Ico a d := ⟨hpa.trans hp2.le, hpq.trans hqd⟩
      obtain ⟨_, hr, hpr⟩ := h.mem_iff.1 hin
      rw [pieces, List.mem_map] at hr
      obtain ⟨r, hr, rfl⟩ := hr
      simp only [List.cons_append, List.mem_cons, List.mem_append, List.not_mem_nil, or_false] at hr
      rcases hr with rfl | (hr | hr) | rfl
      · exact absurd (hp2.trans hpr.2) hpx
      · exact ⟨r, List.mem_toFinset.2 hr, hpr⟩
      · have hne : p ≠ r := fun heq => absurd hpr.2 (heq ▸ lt_irrefl _)
        rcases apart_or hapart hpl hr hne with hlt' | hlt'
        · exact absurd hpr.1 (not_le.2 hlt')
        · exact absurd (hp2.trans hpr.2) (not_lt.2 hlt'.le)
      · exact absurd ⟨hpr.1.trans hpq.le, hqd⟩ hqy
    · obtain ⟨hp, hpq⟩ := hp
      obtain ⟨hp', hpq'⟩ := hp'
      have hpl := (hnext p (List.mem_toFinset.1 hp)).1
      have hpl' := (hnext p' (List.mem_toFinset.1 hp')).1
      by_contra hne
      rcases apart_or hapart hpl hpl' hne with hlt' | hlt'
      · exact (hstart p' hpl').2.1 q (List.mem_toFinset.1 hq) ⟨hpq.1.trans hlt'.le, (hlt p' hpl').trans hpq'.2⟩
      · exact (hstart p hpl).2.1 q (List.mem_toFinset.1 hq) ⟨hpq'.1.trans hlt'.le, (hlt p hpl).trans hpq.2⟩
  rw [List.toFinset_card_of_nodup ((nodup_of_apart hlt hapart).sublist (List.dropLast_sublist l)),
    List.length_dropLast] at hcard
  have hm := List.toFinset_card_le m
  omega

/-! ## Tilings -/

/-- The intervals of `l`, in their order, run from `a` to `b` without gap or overlap. -/
def Tiles (a b : α) : List (α × α) → Prop
  | [] => a = b
  | p :: l => p.1 = a ∧ p.1 < p.2 ∧ Tiles p.2 b l

/-- A tiling runs forwards. -/
theorem Tiles.le {a b : α} {l : List (α × α)} (h : Tiles a b l) : a ≤ b := by
  induction l generalizing a with
  | nil => exact le_of_eq h
  | cons p l ih =>
    obtain ⟨rfl, hlt, h⟩ := h
    exact hlt.le.trans (ih h)

/-- Two tilings that meet are one tiling. -/
theorem tiles_append {a b : α} {l l' : List (α × α)} :
    Tiles a b (l ++ l') ↔ ∃ c, Tiles a c l ∧ Tiles c b l' := by
  induction l generalizing a with
  | nil => exact ⟨fun h => ⟨a, rfl, h⟩, fun ⟨c, hc, h⟩ => hc ▸ h⟩
  | cons p l ih =>
    simp only [List.cons_append, Tiles, ih]
    exact ⟨fun ⟨h₁, h₂, c, h₃, h₄⟩ => ⟨c, ⟨h₁, h₂, h₃⟩, h₄⟩,
      fun ⟨c, ⟨h₁, h₂, h₃⟩, h₄⟩ => ⟨h₁, h₂, c, h₃, h₄⟩⟩

/-- The tiles partition the interval they run over. -/
theorem Tiles.isPartition {a b : α} {l : List (α × α)} (h : Tiles a b l) :
    IsPartition (pieces l) (Ico a b) := by
  induction l generalizing a with
  | nil =>
    obtain rfl : a = b := h
    exact ⟨List.Pairwise.nil, by simp [pieces]⟩
  | cons p l ih =>
    obtain ⟨rfl, hlt, h⟩ := h
    obtain ⟨hd, hu⟩ := ih h
    refine ⟨List.pairwise_cons.2 ⟨fun q hq => ?_, hd⟩, ?_⟩
    · refine Set.disjoint_left.2 fun x hx hx' => absurd hx.2 (not_lt.2 ?_)
      exact ((IsPartition.mk hd hu).subset hq hx').1
    · rw [← Ico_union_Ico_eq_Ico hlt.le h.le, ← hu]
      ext x
      simp [piece]

/-- The intervals of a tiling are distinct. -/
theorem Tiles.nodup {a b : α} {l : List (α × α)} (h : Tiles a b l) : l.Nodup := by
  induction l generalizing a with
  | nil => exact List.nodup_nil
  | cons p l ih =>
    refine List.nodup_cons.2 ⟨fun hp => ?_, ih h.2.2⟩
    have hx : p.1 ∈ Ico p.2 b :=
      h.2.2.isPartition.subset (List.mem_map_of_mem hp) (left_mem_piece h.2.1)
    exact absurd hx.1 (not_le.2 h.2.1)

end Intervals

end Subgen

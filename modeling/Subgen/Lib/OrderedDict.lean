import Mathlib.Data.List.Nodup
import Mathlib.Data.List.Perm.Basic
import Mathlib.Data.List.Perm.Lattice

/-!
# Dictionaries

A dictionary keeps its entries in the order in which their keys came in, each key once
(`OrderedDict`).

The entries are a list of pairs with distinct keys, which is a field of the structure. An assignment to a key
that is there replaces its value in place, and one to a new key goes to the end, as in Python. Most facts are
about what is found behind a key; those about the order are stated on the entries (`entries_insert_of_append`,
`entries_setDefault_of_none`), and those about sums on the values, up to a permutation.

* `get_insert`, `get_erase`, `get_modify`, `get_setDefault`: what is found behind a key, and
  `contains_insert` and the like: whether there is such a key;
* `values_insert_of_none`, `perm_values_of_get`: the values, when an entry comes or goes.
-/

namespace Subgen

/-- The entries of a dictionary, with different keys. -/
@[ext]
structure OrderedDict (κ ν : Type) where
  entries : List (κ × ν)
  nodup : (entries.map Prod.fst).Nodup

namespace OrderedDict

variable {κ ν : Type}

/-- The dictionary without entries. -/
def empty : OrderedDict κ ν := ⟨[], List.nodup_nil⟩

/-- `d.values()`. -/
def values (d : OrderedDict κ ν) : List ν := d.entries.map Prod.snd

/-- Other values for the same keys. -/
def mapValues (f : ν → ν) (d : OrderedDict κ ν) : OrderedDict κ ν where
  entries := d.entries.map (Prod.map id f)
  nodup := by
    rw [List.map_map]
    exact d.nodup

variable [DecidableEq κ]

/-- `d.get(k)`. -/
def get (d : OrderedDict κ ν) (k : κ) : Option ν := (d.entries.find? (·.1 = k)).map Prod.snd

/-- `k in d`. -/
def contains (d : OrderedDict κ ν) (k : κ) : Bool := (d.get k).isSome

/-- The entries that are kept. -/
def filter (p : κ → ν → Bool) (d : OrderedDict κ ν) : OrderedDict κ ν where
  entries := d.entries.filter fun e => p e.1 e.2
  nodup := d.nodup.sublist (List.filter_sublist.map _)

/-- `d.pop(k, None)`, without its value. -/
def erase (d : OrderedDict κ ν) (k : κ) : OrderedDict κ ν := d.filter fun k' _ => k' ≠ k

/-- What a key has, replaced where it stands. -/
def replace (k : κ) (v : ν) (entry : κ × ν) : κ × ν := if entry.1 = k then (k, v) else entry

/-- Replacing a value keeps the keys and their order. -/
theorem map_fst_replace (k : κ) (v : ν) (l : List (κ × ν)) :
    (l.map (replace k v)).map Prod.fst = l.map Prod.fst := by
  rw [List.map_map]
  refine List.map_congr_left fun entry _ => ?_
  by_cases h : entry.1 = k
  · exact (congrArg Prod.fst (if_pos h)).trans h.symm
  · exact congrArg Prod.fst (if_neg h)

/-- A key has no value exactly when no entry carries it. -/
theorem get_eq_none {d : OrderedDict κ ν} {k : κ} : d.get k = none ↔ k ∉ d.entries.map Prod.fst := by
  rw [get, Option.map_eq_none_iff, List.find?_eq_none]
  constructor
  · rintro h hmem
    obtain ⟨entry, hentry, rfl⟩ := List.mem_map.1 hmem
    exact h entry hentry (decide_eq_true rfl)
  · rintro h entry hentry heq
    exact h (List.mem_map.2 ⟨entry, hentry, of_decide_eq_true heq⟩)

/-- A key has a value exactly when the pair is an entry, since keys are distinct. -/
theorem get_eq_some {d : OrderedDict κ ν} {k : κ} {v : ν} :
    d.get k = some v ↔ (k, v) ∈ d.entries := by
  constructor
  · intro h
    obtain ⟨⟨k', v'⟩, hfind, rfl⟩ := Option.map_eq_some_iff.1 h
    have hk : k' = k := by simpa using List.find?_some hfind
    exact hk ▸ List.mem_of_find?_eq_some hfind
  · intro hmem
    rcases hget : d.get k with _ | v'
    · exact absurd (List.mem_map_of_mem hmem) (get_eq_none.1 hget)
    · obtain ⟨⟨k', _⟩, hfind, rfl⟩ := Option.map_eq_some_iff.1 hget
      obtain rfl : k' = k := by simpa using List.find?_some hfind
      have hmem' := List.mem_of_find?_eq_some hfind
      exact congrArg (some ∘ Prod.snd) (List.inj_on_of_nodup_map d.nodup hmem' hmem rfl)

/-- `d[k] = v`: a key that is there keeps its place. -/
def insert (d : OrderedDict κ ν) (k : κ) (v : ν) : OrderedDict κ ν :=
  match h : d.get k with
  | some _ => ⟨d.entries.map (replace k v), (map_fst_replace k v d.entries).symm ▸ d.nodup⟩
  | none =>
    ⟨d.entries ++ [(k, v)], by
      rw [List.map_append, List.map_singleton]
      refine d.nodup.append (List.nodup_singleton k) fun a ha hb => ?_
      obtain rfl := List.mem_singleton.1 hb
      exact get_eq_none.1 h ha⟩

/-- `d.setdefault(k, v)`, without its value. -/
def setDefault (d : OrderedDict κ ν) (k : κ) (v : ν) : OrderedDict κ ν :=
  if d.contains k then d else d.insert k v

/-- What a key has is changed, if there is such a key. -/
def modify (d : OrderedDict κ ν) (k : κ) (f : ν → ν) : OrderedDict κ ν :=
  match d.get k with
  | some v => d.insert k (f v)
  | none => d

variable {d : OrderedDict κ ν} {k k' : κ} {v w : ν} {f : ν → ν}

/-- A new key goes to the end. -/
theorem entries_insert_of_none (h : d.get k = none) (v : ν) :
    (d.insert k v).entries = d.entries ++ [(k, v)] := by
  unfold insert
  split
  · next hget => exact absurd (hget.symm.trans h) nofun
  · rfl

/-- A key that is there keeps its place and takes the new value. -/
theorem entries_insert_of_some (h : d.get k = some w) (v : ν) :
    (d.insert k v).entries = d.entries.map (replace k v) := by
  unfold insert
  split
  · rfl
  · next hget => exact absurd (hget.symm.trans h) nofun

/-- An assignment in the middle of the entries changes that entry alone. -/
theorem entries_insert_of_append {done rest : List (κ × ν)} (h : d.entries = done ++ (k, w) :: rest)
    (v : ν) : (d.insert k v).entries = done ++ (k, v) :: rest := by
  have hget : d.get k = some w := get_eq_some.2 (h ▸ List.mem_append_right _ List.mem_cons_self)
  have hnodup := d.nodup
  rw [h, List.map_append, List.map_cons, List.nodup_middle, List.nodup_cons, ← List.map_append] at hnodup
  -- The other keys are different from this one.
  have hid : ∀ l ⊆ done ++ rest, l.map (replace k v) = l := fun l hl => by
    refine (List.map_congr_left fun entry hentry => if_neg fun hk => ?_).trans (List.map_id l)
    exact hnodup.1 (List.mem_map.2 ⟨entry, hl hentry, hk⟩)
  rw [entries_insert_of_some hget, h, List.map_append, List.map_cons,
    hid done (List.subset_append_left ..), hid rest (List.subset_append_right ..)]
  exact congrArg (done ++ · :: rest) (if_pos rfl)

/-! ## What is found -/

@[simp] theorem get_empty (k : κ) : (empty : OrderedDict κ ν).get k = none := rfl

/-- A filtered dictionary maps a key to a value when the entry was there and passes the test. -/
theorem get_filter_eq_some {p : κ → ν → Bool} :
    (d.filter p).get k = some v ↔ d.get k = some v ∧ p k v := by
  rw [get_eq_some, get_eq_some, filter, List.mem_filter]

/-- What a look-up finds after `pop`. -/
theorem get_erase (d : OrderedDict κ ν) (k k' : κ) :
    (d.erase k).get k' = if k' = k then none else d.get k' := by
  ext v
  rw [erase, get_filter_eq_some, decide_eq_true_iff]
  by_cases h : k' = k
  · simp [h]
  · simp [h]

/-- Removing a key that is not there changes nothing. -/
theorem erase_of_none (h : d.get k = none) : d.erase k = d := by
  refine OrderedDict.ext (List.filter_eq_self.2 fun entry hentry => decide_eq_true fun hk => ?_)
  exact get_eq_none.1 h (List.mem_map.2 ⟨entry, hentry, hk⟩)

/-- Entries of other keys survive a replacement as they are. -/
theorem mem_map_replace {v' : ν} {l : List (κ × ν)} (h : k' ≠ k) :
    (k', v') ∈ l.map (replace k v) ↔ (k', v') ∈ l := by
  rw [List.mem_map]
  constructor
  · rintro ⟨entry, hentry, heq⟩
    by_cases hk : entry.1 = k
    · exact absurd (congrArg Prod.fst ((if_pos hk).symm.trans heq)).symm h
    · exact (if_neg hk).symm.trans heq ▸ hentry
  · exact fun hmem => ⟨_, hmem, if_neg h⟩

/-- What a look-up finds after an assignment. -/
theorem get_insert (d : OrderedDict κ ν) (k k' : κ) (v : ν) :
    (d.insert k v).get k' = if k' = k then some v else d.get k' := by
  rcases hget : d.get k with _ | w
  · by_cases h : k' = k
    · rw [if_pos h, get_eq_some, entries_insert_of_none hget, h]
      exact List.mem_append_right _ (List.mem_singleton_self _)
    · rw [if_neg h]
      ext v'
      rw [get_eq_some, get_eq_some, entries_insert_of_none hget, List.mem_append]
      exact or_iff_left fun hmem => h (congrArg Prod.fst (List.mem_singleton.1 hmem))
  · by_cases h : k' = k
    · rw [if_pos h, get_eq_some, entries_insert_of_some hget, h]
      exact List.mem_map.2 ⟨_, get_eq_some.1 hget, if_pos rfl⟩
    · rw [if_neg h]
      ext v'
      rw [get_eq_some, get_eq_some, entries_insert_of_some hget, mem_map_replace h]

/-- What a look-up finds after an update in place. -/
theorem get_modify (d : OrderedDict κ ν) (k k' : κ) (f : ν → ν) :
    (d.modify k f).get k' = if k' = k then (d.get k).map f else d.get k' := by
  unfold modify
  split
  · next hget => rw [get_insert, hget, Option.map_some]
  · next hget =>
    by_cases h : k' = k
    · rw [if_pos h, h, hget, Option.map_none]
    · rw [if_neg h]

/-- What a look-up finds after `setdefault`. -/
theorem get_setDefault (d : OrderedDict κ ν) (k k' : κ) (v : ν) :
    (d.setDefault k v).get k' = if k' = k then some ((d.get k).getD v) else d.get k' := by
  unfold setDefault contains
  rcases hget : d.get k with _ | w
  · rw [Option.isSome_none, if_neg Bool.false_ne_true, get_insert, Option.getD_none]
  · rw [Option.isSome_some, if_pos rfl]
    by_cases h : k' = k
    · rw [if_pos h, h, hget, Option.getD_some]
    · rw [if_neg h]

theorem contains_iff : d.contains k = true ↔ ∃ v, d.get k = some v := Option.isSome_iff_exists

/-- An update in place adds and removes no key. -/
theorem contains_modify (d : OrderedDict κ ν) (k k' : κ) (f : ν → ν) :
    (d.modify k f).contains k' = d.contains k' := by
  rw [contains, contains, get_modify]
  by_cases h : k' = k
  · rw [if_pos h, h, Option.isSome_map]
  · rw [if_neg h]

/-- The keys after an assignment. -/
theorem contains_insert (d : OrderedDict κ ν) (k k' : κ) (v : ν) :
    (d.insert k v).contains k' = true ↔ k' = k ∨ d.contains k' = true := by
  rw [contains, contains, get_insert]
  by_cases h : k' = k
  · simp [h]
  · simp [h]

/-- The keys after `pop`. -/
theorem contains_erase (d : OrderedDict κ ν) (k k' : κ) :
    (d.erase k).contains k' = true ↔ d.contains k' = true ∧ k' ≠ k := by
  rw [contains, contains, get_erase]
  by_cases h : k' = k
  · simp [h]
  · simp [h]

/-- The keys after `setdefault`. -/
theorem contains_setDefault (d : OrderedDict κ ν) (k k' : κ) (v : ν) :
    (d.setDefault k v).contains k' = true ↔ k' = k ∨ d.contains k' = true := by
  rw [contains, contains, get_setDefault]
  by_cases h : k' = k
  · simp [h]
  · simp [h]

/-! ## One change after another -/

/-- An update in place maps the entries one by one. -/
theorem entries_modify (d : OrderedDict κ ν) (k : κ) (f : ν → ν) :
    (d.modify k f).entries = d.entries.map fun e => if e.1 = k then (k, f e.2) else e := by
  unfold modify
  split
  · next v hget =>
    rw [entries_insert_of_some hget]
    refine List.map_congr_left fun entry hentry => ?_
    by_cases hk : entry.1 = k
    · have hv : d.get k = some entry.2 := get_eq_some.2 (hk ▸ hentry)
      rw [hget, Option.some.injEq] at hv
      rw [replace, if_pos hk, if_pos hk, hv]
    · rw [replace, if_neg hk, if_neg hk]
  · next hget =>
    refine ((List.map_congr_left fun entry hentry => if_neg fun hk => ?_).trans (List.map_id _)).symm
    exact get_eq_none.1 hget (List.mem_map.2 ⟨entry, hentry, hk⟩)

theorem modify_of_none (h : d.get k = none) : d.modify k f = d := by
  rw [modify, h]

/-- Two updates of one key are one update. -/
theorem modify_modify (d : OrderedDict κ ν) (k : κ) (f g : ν → ν) :
    (d.modify k f).modify k g = d.modify k (g ∘ f) := by
  refine OrderedDict.ext ?_
  rw [entries_modify, entries_modify, entries_modify, List.map_map]
  refine List.map_congr_left fun entry _ => ?_
  by_cases hk : entry.1 = k
  · simp [hk]
  · simp [hk]

/-- A change that leaves what is there as it is. -/
theorem modify_eq_self (h : ∀ v, d.get k = some v → f v = v) : d.modify k f = d := by
  refine OrderedDict.ext ?_
  rw [entries_modify]
  refine (List.map_congr_left fun entry hentry => ?_).trans (List.map_id _)
  by_cases hk : entry.1 = k
  · rw [if_pos hk, h entry.2 (get_eq_some.2 (hk ▸ hentry)), ← hk]
    rfl
  · rw [if_neg hk]
    rfl

/-- Assigning a new key and removing it again gives the dictionary back. -/
theorem erase_insert_of_none (h : d.get k = none) (v : ν) : (d.insert k v).erase k = d := by
  refine OrderedDict.ext ?_
  change (d.insert k v).entries.filter (fun e => e.1 ≠ k) = d.entries
  have hrest : d.entries.filter (fun e => e.1 ≠ k) = d.entries :=
    congrArg OrderedDict.entries (erase_of_none h)
  rw [entries_insert_of_none h, List.filter_append, hrest]
  simp

/-- `setdefault` on a key that is there changes nothing. -/
theorem setDefault_of_contains (h : d.contains k = true) (v : ν) : d.setDefault k v = d := if_pos h

/-- `setdefault` on a new key appends its entry. -/
theorem entries_setDefault_of_none (h : d.get k = none) (v : ν) :
    (d.setDefault k v).entries = d.entries ++ [(k, v)] := by
  rw [setDefault, if_neg (by simp [contains, h]), entries_insert_of_none h]

/-- A default for one key and a change of another one. -/
theorem modify_setDefault_of_ne (h : k' ≠ k) (v : ν) :
    (d.setDefault k v).modify k' f = (d.modify k' f).setDefault k v := by
  rcases hget : d.get k with _ | w
  · have hget' : (d.modify k' f).get k = none := by rw [get_modify, if_neg (Ne.symm h), hget]
    refine OrderedDict.ext ?_
    rw [entries_modify, entries_setDefault_of_none hget, entries_setDefault_of_none hget', entries_modify,
      List.map_append, List.map_singleton, if_neg (Ne.symm h)]
  · have hcontains : d.contains k = true := contains_iff.2 ⟨w, hget⟩
    rw [setDefault_of_contains hcontains, setDefault_of_contains ((contains_modify ..).trans hcontains)]

/-- A change that leaves a default as it is. -/
theorem modify_setDefault_of_eq (h : d.get k = none) (hf : f v = v) :
    (d.setDefault k v).modify k f = (d.modify k f).setDefault k v := by
  rw [modify_of_none h]
  refine modify_eq_self fun w hw => ?_
  rw [get_setDefault, if_pos rfl, h, Option.getD_none, Option.some.injEq] at hw
  rw [← hw, hf]

/-! ## Its values -/

/-- What a look-up finds is among the values. -/
theorem mem_values_of_get (h : d.get k = some v) : v ∈ d.values :=
  List.mem_map_of_mem (f := Prod.snd) (get_eq_some.1 h)

/-- A new key puts its value last. -/
theorem values_insert_of_none (h : d.get k = none) (v : ν) :
    (d.insert k v).values = d.values ++ [v] := by
  rw [values, entries_insert_of_none h, List.map_append]
  rfl

/-- An entry, and then all the others. -/
theorem perm_values_of_get (h : d.get k = some v) : d.values.Perm (v :: (d.erase k).values) := by
  suffices hperm : d.entries.Perm ((k, v) :: (d.erase k).entries) from hperm.map Prod.snd
  have hrest : (k, v) ∉ (d.erase k).entries := fun hmem =>
    of_decide_eq_true (List.mem_filter.1 hmem).2 rfl
  refine (List.perm_ext_iff_of_nodup d.nodup.of_map ?_).2 fun entry => ?_
  · exact List.nodup_cons.2 ⟨hrest, (d.erase k).nodup.of_map⟩
  · rw [List.mem_cons, erase, filter, List.mem_filter, decide_eq_true_iff]
    constructor
    · intro hmem
      by_cases hk : entry.1 = k
      · exact .inl (List.inj_on_of_nodup_map d.nodup hmem (get_eq_some.1 h) hk)
      · exact .inr ⟨hmem, hk⟩
    · rintro (rfl | hmem)
      · exact get_eq_some.1 h
      · exact hmem.1

end OrderedDict

end Subgen

import Mathlib.Data.List.Basic
import Mathlib.Data.Prod.Lex
import Mathlib.Order.OrderDual
import Subgen.Lib.HeapOrder
import Subgen.Queue.DeduplicatedQueue

/-!
# The order of the tasks

The calls of `DeduplicatedQueue` one after the other: what is put is got back by class, and in a class
as it arrived, if and only if the clock ticks from one put of a class to the next
(`serves_iff_ticking`).

For one direction, a clock that ticks compares the entries as their numbers do (`byTime id`). For
the other one, two entries of a class with equal times could be told apart by their numbers in either
way (`byTime id`, `byTime toDual`): a heap that never had to compare them would have sorted them in both
orders.
-/

namespace Subgen

open OrderDual

variable {π : Type}

namespace DeduplicatedQueue

section Calls

variable [DecidableEq π]

/-- `put`: whether the task was accepted, `none` if the heap raised. -/
def put (q : DeduplicatedQueue π) (now : ℚ) (item : QueueTask π) :
    Option Bool × DeduplicatedQueue π :=
  match putStep q none now item with
  | (q', .adding path _) => (some true, (addStep q' path none).1)
  | (q', _) => (if q.isActive item.path then some false else none, q')

/-- `get`: the task, `none` if there is none or the heap raised. -/
def get (q : DeduplicatedQueue π) : Option (QueueTask π) × DeduplicatedQueue π :=
  match getStep q with
  | (q', .moving entry) => (some entry.item, (moveStep q' entry).1)
  | (q', _) => (none, q')

/-- Puts in a row, each with the time that is read. -/
def putAll (puts : List (ℚ × QueueTask π)) : DeduplicatedQueue π :=
  puts.foldl (fun q p => (q.put p.1 p.2).2) new

/-- Gets in a row. -/
def gets : ℕ → DeduplicatedQueue π → List (Option (QueueTask π))
  | 0, _ => []
  | n + 1, q => q.get.1 :: gets n q.get.2

/-- The paths of the heap are the queued ones, each once. -/
structure Consistent (q : DeduplicatedQueue π) : Prop where
  nodup : (q.queue.toList.map QueueEntry.path).Nodup
  queued : ∀ path, path ∈ q.queued ↔ path ∈ q.queue.toList.map QueueEntry.path

/-- By class. In a class, nothing moves. -/
def inTurn {α : Type} (type : α → TaskType) (l : List α) : List α :=
  l.filter (type · = .detectLanguage) ++ l.filter (type · = .asr) ++ l.filter (type · = .transcribe)

/-- Every put succeeds and leaves a consistent queue, and the gets behind the puts return the tasks
    by class, and in a class as they arrived. -/
structure Serves (puts : List (ℚ × QueueTask π)) : Prop where
  accepted : ∀ done p, done ++ [p] <+: puts → ((putAll done).put p.1 p.2).1 = some true
  consistent : ∀ done, done <+: puts → (putAll done).Consistent
  gets : gets puts.length (putAll puts) = (inTurn (·.2.type) puts).map (some ·.2)

end Calls

/-- The clock ticks from one put of a class to the next one. -/
def Ticking (puts : List (ℚ × QueueTask π)) : Prop :=
  puts.Pairwise fun p p' => p.2.type = p'.2.type → p.1 < p'.1

/-! ## Entries -/

/-- The entry of the put with a number. -/
def entryOf (p : (ℚ × QueueTask π) × ℕ) : QueueEntry π := ⟨p.1.2.type.priority, p.1.1, p.1.2, p.2⟩

/-- The entries of some calls of `put`. -/
def entries (puts : List (ℚ × QueueTask π)) : List (QueueEntry π) := puts.zipIdx.map entryOf

/-- What an entry is compared by, with its number for equal times. -/
def byTime {τ : Type} (tie : ℕ → τ) (e : QueueEntry π) : ℕ ×ₗ ℚ ×ₗ τ :=
  toLex (e.priority, toLex (e.timestamp, tie e.ticket))

variable {puts : List (ℚ × QueueTask π)} {p : ℚ × QueueTask π} {q : DeduplicatedQueue π}

theorem priority_injective : Function.Injective TaskType.priority := by
  rintro (_ | _ | _) (_ | _ | _) h <;> first | rfl | cases h

theorem length_entries (puts : List (ℚ × QueueTask π)) : (entries puts).length = puts.length := by
  rw [entries, List.length_map, List.length_zipIdx]

theorem getElem_entries {i : ℕ} (h : i < (entries puts).length) :
    (entries puts)[i] = entryOf (puts.get ⟨i, length_entries puts ▸ h⟩, i) := by
  simp [entries]

theorem entries_concat : entries (puts ++ [p]) = entries puts ++ [entryOf (p, puts.length)] := by
  simp [entries, List.zipIdx_append]

theorem map_item_entries (puts : List (ℚ × QueueTask π)) : (entries puts).map QueueEntry.item = puts.map (·.2) := by
  rw [entries, List.map_map, ← List.zipIdx_map_fst 0 puts, List.map_map, List.zipIdx_map_fst]
  rfl

theorem map_path_entries : (entries puts).map QueueEntry.path = puts.map (·.2.path) := by
  have h := congrArg (List.map QueueTask.path) (map_item_entries puts)
  rw [List.map_map, List.map_map] at h
  exact h

/-- An entry is known by its task. -/
theorem item_injOn_entries (hnodup : (puts.map (·.2.path)).Nodup) {a b : QueueEntry π}
    (ha : a ∈ entries puts) (hb : b ∈ entries puts) (h : a.item = b.item) : a = b := by
  rw [← map_path_entries] at hnodup
  exact List.inj_on_of_nodup_map hnodup ha hb (congrArg QueueTask.path h)

theorem eq_of_map_item_eq (hnodup : (puts.map (·.2.path)).Nodup) {l l' : List (QueueEntry π)}
    (hl : ∀ e ∈ l, e ∈ entries puts) (hl' : ∀ e ∈ l', e ∈ entries puts)
    (h : l.map QueueEntry.item = l'.map QueueEntry.item) : l = l' := by
  refine List.ext_getElem (by simpa using congrArg List.length h) fun i hi hi' => ?_
  refine item_injOn_entries hnodup (hl _ (List.getElem_mem hi)) (hl' _ (List.getElem_mem hi')) ?_
  have hget := List.getElem_of_eq h (i := i) (by simpa using hi)
  rwa [List.getElem_map, List.getElem_map] at hget

/-- An entry is known by its number, as well. -/
theorem byTime_inj {a b : QueueEntry π} (ha : a ∈ entries puts) (hb : b ∈ entries puts)
    (h : byTime id a = byTime id b) : a = b := by
  obtain ⟨i, hi, rfl⟩ := List.mem_iff_getElem.1 ha
  obtain ⟨j, hj, rfl⟩ := List.mem_iff_getElem.1 hb
  rw [getElem_entries, getElem_entries] at h
  obtain rfl : i = j := congrArg (fun k => (ofLex (ofLex k).2).2) h
  rfl

/-- Where the comparison of two entries answers, it answers by priority and time. -/
theorem lt_extends [DecidableEq π] {τ : Type} [LinearOrder τ] (tie : ℕ → τ) {l : List (QueueEntry π)}
    (h : ∀ a ∈ l, ∀ b ∈ l, a.item = b.item → a = b) :
    Heap.Extends QueueEntry.lt (Heap.keyLt (byTime tie)) l := by
  intro a ha b hb less hless
  rw [Heap.keyLt, ← hless, QueueEntry.lt]
  simp only [byTime, Prod.Lex.toLex_lt_toLex]
  by_cases hpriority : a.priority = b.priority
  · rw [if_neg (not_not.2 hpriority)]
    by_cases htime : a.timestamp = b.timestamp
    · rw [if_neg (not_not.2 htime)]
      by_cases hitem : a.item = b.item
      · rw [if_pos hitem, h a ha b hb hitem]
        simp
      · rw [QueueEntry.lt, if_neg (not_not.2 hpriority), if_neg (not_not.2 htime), if_neg hitem] at hless
        cases hless
    · rw [if_pos htime]
      simp [hpriority, htime]
  · rw [if_pos hpriority]
    simp [hpriority]

/-! ## Classes -/

section Classes

variable {α : Type} {type : α → TaskType}

theorem inTurn_map (type : α → TaskType) {β : Type} (f : β → α) (l : List β) :
    inTurn type (l.map f) = (inTurn (fun b => type (f b)) l).map f := by
  simp [inTurn, List.filter_map, Function.comp_def]

theorem inTurn_perm (type : α → TaskType) (l : List α) : (inTurn type l).Perm l := by
  induction l with
  | nil => exact .refl _
  | cons a l ih =>
    refine List.Perm.trans ?_ (ih.cons a)
    cases htype : type a with
    | detectLanguage => simp [inTurn, htype]
    | asr =>
      simp [inTurn, htype]
    | transcribe =>
      have hmove : ((l.filter (type · = .detectLanguage) ++ l.filter (type · = .asr)) ++
          a :: l.filter (type · = .transcribe)).Perm (a :: inTurn type l) := List.perm_middle
      simpa [inTurn, htype] using hmove

/-- A list is in order by class if and only if each class is, when the classes themselves are. -/
theorem pairwise_inTurn {r : α → α → Prop} (l : List α)
    (hclasses : ∀ a ∈ l, ∀ b ∈ l, (type a).priority < (type b).priority → r a b) :
    (inTurn type l).Pairwise r ↔ l.Pairwise fun a b => type a = type b → r a b := by
  have hmem : ∀ {a c}, a ∈ l.filter (type · = c) → a ∈ l ∧ type a = c := fun ha =>
    ⟨List.mem_of_mem_filter ha, of_decide_eq_true (List.mem_filter.1 ha).2⟩
  have hcross : ∀ {c c' : TaskType}, c.priority < c'.priority → ∀ a ∈ l.filter (type · = c),
      ∀ b ∈ l.filter (type · = c'), r a b := fun hlt a ha b hb =>
    hclasses a (hmem ha).1 b (hmem hb).1 (by rwa [(hmem ha).2, (hmem hb).2])
  have hclass : l.Pairwise (fun a b => type a = type b → r a b) ↔
      ∀ c, (l.filter (type · = c)).Pairwise r := by
    constructor
    · intro h c
      refine List.pairwise_filter.2 (h.imp fun hr ha hb => hr ?_)
      rw [of_decide_eq_true ha, of_decide_eq_true hb]
    · intro h
      rw [List.pairwise_iff_getElem]
      intro i j hi hj hij htype
      have hfilter := List.pairwise_filter.1 (h (type l[i]))
      exact List.pairwise_iff_getElem.1 hfilter i j hi hj hij (decide_eq_true rfl)
        (decide_eq_true htype.symm)
  rw [hclass, inTurn, List.pairwise_append, List.pairwise_append]
  constructor
  · rintro ⟨⟨hdetect, hasr, -⟩, htranscribe, -⟩ (_ | _ | _)
    · exact hdetect
    · exact hasr
    · exact htranscribe
  · intro h
    refine ⟨⟨h _, h _, hcross (by decide)⟩, h _, fun a ha b hb => ?_⟩
    rcases List.mem_append.1 ha with ha | ha
    · exact hcross (by decide) a ha b hb
    · exact hcross (by decide) a ha b hb

end Classes

/-! ## A clock that ticks -/

theorem map_item_inTurn :
    (inTurn (·.item.type) (entries puts)).map QueueEntry.item = (inTurn (·.2.type) puts).map (·.2) := by
  have hentries := inTurn_map QueueTask.type QueueEntry.item (entries puts)
  rw [← hentries, map_item_entries]
  exact inTurn_map QueueTask.type Prod.snd puts

/-- Two entries of one class are in order if and only if their times are, and their numbers are if the times
    are equal. -/
theorem byTime_le {τ : Type} [LinearOrder τ] (tie : ℕ → τ) {a b : QueueEntry π}
    (h : a.priority = b.priority) : byTime tie a ≤ byTime tie b ↔
      a.timestamp < b.timestamp ∨ a.timestamp = b.timestamp ∧ tie a.ticket ≤ tie b.ticket := by
  simp [byTime, Prod.Lex.toLex_le_toLex, h]

theorem byTime_lt_of_priority {τ : Type} [LinearOrder τ] (tie : ℕ → τ) {a b : QueueEntry π}
    (h : a.priority < b.priority) : byTime tie a ≤ byTime tie b :=
  Prod.Lex.toLex_le_toLex.2 (.inl h)

theorem priority_entries {e : QueueEntry π} (h : e ∈ entries puts) : e.priority = e.item.type.priority := by
  obtain ⟨p, -, rfl⟩ := List.mem_map.1 h
  rfl

/-- The clock ticks if and only if the entries, by class, are in order whatever tells equal times apart. -/
theorem ticking_iff_sorted : Ticking puts ↔ ∀ {τ : Type} [LinearOrder τ] (tie : ℕ → τ),
    (inTurn (·.item.type) (entries puts)).Pairwise fun a b => byTime tie a ≤ byTime tie b := by
  have hsorted : ∀ {τ : Type} [LinearOrder τ] (tie : ℕ → τ),
      (inTurn (·.item.type) (entries puts)).Pairwise (fun a b => byTime tie a ≤ byTime tie b) ↔
      (entries puts).Pairwise fun a b => a.item.type = b.item.type → byTime tie a ≤ byTime tie b := by
    intro τ _ tie
    refine pairwise_inTurn _ fun a ha b hb hlt => byTime_lt_of_priority tie ?_
    rwa [priority_entries ha, priority_entries hb]
  constructor
  · intro h τ _ tie
    rw [hsorted, List.pairwise_iff_getElem]
    intro i j hi hj hij
    rw [getElem_entries, getElem_entries]
    intro htype
    refine (byTime_le tie (congrArg TaskType.priority htype)).2 (.inl ?_)
    exact List.pairwise_iff_getElem.1 h i j _ _ hij htype
  · intro h
    refine List.pairwise_iff_getElem.2 fun i j hi hj hij htype => ?_
    have hle : ∀ {τ : Type} [LinearOrder τ] (tie : ℕ → τ),
        puts[i].1 < puts[j].1 ∨ puts[i].1 = puts[j].1 ∧ tie i ≤ tie j := by
      intro τ _ tie
      have hi' : i < (entries puts).length := length_entries puts ▸ hi
      have hj' : j < (entries puts).length := length_entries puts ▸ hj
      have hpair := List.pairwise_iff_getElem.1 ((hsorted tie).1 (h tie)) i j hi' hj' hij
      rw [getElem_entries, getElem_entries] at hpair
      exact (byTime_le tie (congrArg TaskType.priority htype)).1 (hpair htype)
    -- The numbers tell equal times apart in both ways.
    rcases hle toDual with hlt | ⟨-, htie⟩
    · exact hlt
    · exact absurd (toDual_le_toDual.1 htie) (not_le.2 hij)

/-- While the clock ticks, the heap never raises. -/
theorem Ticking.comparable [DecidableEq π] (h : Ticking puts) : Heap.Comparable QueueEntry.lt (entries puts) := by
  refine comparable_of_apart (List.pairwise_iff_getElem.2 fun i j hi hj hij => ?_)
  rw [getElem_entries, getElem_entries]
  intro hpriority
  exact (List.pairwise_iff_getElem.1 h i j _ _ hij (priority_injective hpriority)).ne

/-! ## Puts -/

/-- A queue that has accepted some puts, and has given nothing back. -/
structure Filled (puts : List (ℚ × QueueTask π)) (q : DeduplicatedQueue π) : Prop where
  perm : q.queue.toList.Perm (entries puts)
  queued : ∀ path, path ∈ q.queued ↔ path ∈ puts.map (·.2.path)
  processing : q.processing = ∅
  tickets : q.tickets = puts.length

theorem filled_new : Filled ([] : List (ℚ × QueueTask π)) (DeduplicatedQueue.new) where
  perm := .refl _
  queued _ := iff_of_false (Finset.notMem_empty _) List.not_mem_nil
  processing := rfl
  tickets := rfl

theorem Filled.consistent (h : Filled puts q) (hnodup : (puts.map (·.2.path)).Nodup) : q.Consistent := by
  have hpaths : (q.queue.toList.map QueueEntry.path).Perm (puts.map (·.2.path)) := by
    rw [← map_path_entries]
    exact h.perm.map _
  exact ⟨hpaths.nodup_iff.2 hnodup, fun path => (h.queued path).trans hpaths.mem_iff.symm⟩

theorem notMem_of_nodup_concat (hnodup : ((puts ++ [p]).map (·.2.path)).Nodup) :
    p.2.path ∉ puts.map (·.2.path) := by
  rw [List.map_append] at hnodup
  exact fun hmem => List.disjoint_of_nodup_append hnodup hmem (List.mem_singleton_self _)

variable [DecidableEq π]

/-- What a put of a new path does, if the heap does not raise. -/
theorem Filled.put (h : Filled puts q) (hnew : p.2.path ∉ puts.map (·.2.path)) :
    ((q.put p.1 p.2).1 = some true ↔
      (Heap.push QueueEntry.lt q.queue (entryOf (p, puts.length))).1 = true) ∧
    ((q.put p.1 p.2).1 = some true → Filled (puts ++ [p]) (q.put p.1 p.2).2 ∧
      (q.put p.1 p.2).2.queue =
        (Heap.push QueueEntry.lt q.queue (entryOf (p, puts.length))).2) := by
  have hinactive : q.isActive p.2.path = false := by
    have hqueued := mt (h.queued p.2.path).1 hnew
    simp [isActive, hqueued, h.processing]
  have hentry : (⟨p.2.type.priority, p.1, p.2, q.tickets⟩ : QueueEntry π) = entryOf (p, puts.length) := by
    rw [h.tickets]
    rfl
  have hperm : (Heap.push QueueEntry.lt q.queue (entryOf (p, puts.length))).2.toList.Perm
      (entryOf (p, puts.length) :: q.queue.toList) := Heap.push_perm _ _
  rw [DeduplicatedQueue.put, putStep, if_neg (by simp [hinactive]), hentry]
  rcases hpush : Heap.push QueueEntry.lt q.queue (entryOf (p, puts.length)) with ⟨_ | _, heap⟩
  · simp [QueueThread.ofTask, hinactive]
  · rw [hpush] at hperm
    refine ⟨iff_of_true rfl rfl, fun _ => ⟨⟨?_, fun path => ?_, h.processing, ?_⟩, rfl⟩⟩
    · rw [entries_concat]
      exact hperm.trans ((h.perm.cons _).trans (List.perm_append_singleton _ _).symm)
    · rw [List.map_append, List.mem_append, List.map_singleton, List.mem_singleton, ← h.queued path]
      exact Finset.mem_insert.trans or_comm
    · rw [List.length_append, ← h.tickets]
      rfl

theorem putAll_concat : putAll (puts ++ [p]) = ((putAll puts).put p.1 p.2).2 := by
  rw [putAll, List.foldl_append]
  rfl

/-- A run of puts that were accepted fills the queue, and sorts its heap by any key that the
    comparison follows. -/
theorem filled_putAll (hnodup : (puts.map (·.2.path)).Nodup)
    (h : ∀ done p, done ++ [p] <+: puts → ((putAll done).put p.1 p.2).1 = some true) :
    Filled puts (putAll puts) ∧ ∀ {τ : Type} [LinearOrder τ] (tie : ℕ → τ),
      Heap.Ordered (byTime tie) (putAll puts).queue := by
  induction puts using List.reverseRecOn with
  | nil => exact ⟨filled_new, fun _ => Heap.ordered_empty⟩
  | append_singleton puts p ih =>
    have hinit : (puts.map (·.2.path)).Nodup := by
      rw [List.map_append] at hnodup
      exact hnodup.of_append_left
    obtain ⟨hfilled, hordered⟩ := ih hinit fun done p' hdone =>
      h done p' (hdone.trans (List.prefix_append _ _))
    obtain ⟨hiff, hput⟩ := hfilled.put (notMem_of_nodup_concat hnodup)
    have haccepted := h puts p List.prefix_rfl
    obtain ⟨hfilled', hqueue⟩ := hput haccepted
    rw [putAll_concat]
    refine ⟨hfilled', fun tie => ?_⟩
    have hperm : (entryOf (p, puts.length) :: (putAll puts).queue.toList).Perm (entries (puts ++ [p])) := by
      rw [entries_concat]
      exact (hfilled.perm.cons _).trans (List.perm_append_singleton _ _).symm
    have hextends := (lt_extends tie fun a ha b hb => item_injOn_entries hnodup ha hb).perm hperm
    rw [hqueue, ← Heap.push_extends hextends (hiff.1 haccepted)]
    exact Heap.push_ordered (hordered tie) _

/-! ## Gets -/

theorem get_of_pop {entry : QueueEntry π} {rest : Array (QueueEntry π)}
    (h : Heap.pop QueueEntry.lt q.queue = some (some entry, rest)) :
    q.get.1 = some entry.item ∧ q.get.2.queue = rest := by
  rw [DeduplicatedQueue.get, getStep, h]
  exact ⟨rfl, rfl⟩

theorem exists_pop_of_get {item : QueueTask π} (h : q.get.1 = some item) :
    ∃ entry rest, Heap.pop QueueEntry.lt q.queue = some (some entry, rest) := by
  rw [DeduplicatedQueue.get, getStep] at h
  rcases hpop : Heap.pop QueueEntry.lt q.queue with _ | ⟨_ | entry, rest⟩
  · rw [hpop] at h
    cases h
  · rw [hpop] at h
    cases h
  · exact ⟨entry, rest, rfl⟩

/-- Gets that all return something return what is in the heap, sorted by any key that the comparison
    follows. -/
theorem exists_of_gets {items : List (QueueTask π)} {n : ℕ} (hn : q.queue.size = n)
    (h : q.gets n = items.map some) :
    ∃ l : List (QueueEntry π), l.map QueueEntry.item = items ∧ l.Perm q.queue.toList ∧
      ∀ {τ : Type} [LinearOrder τ] (tie : ℕ → τ),
        Heap.Extends QueueEntry.lt (Heap.keyLt (byTime tie)) q.queue.toList →
        Heap.Ordered (byTime tie) q.queue → l.Pairwise fun a b => byTime tie a ≤ byTime tie b := by
  induction n generalizing q items with
  | zero =>
    refine ⟨[], (List.map_eq_nil_iff.1 h.symm).symm, ?_, fun _ _ _ => .nil⟩
    rw [Array.eq_empty_of_size_eq_zero hn]
  | succ n ih =>
    rcases items with _ | ⟨item, items⟩
    · cases h
    · obtain ⟨hget, hrest⟩ := List.cons.inj h
      obtain ⟨entry, rest, hpop⟩ := exists_pop_of_get hget
      obtain ⟨hitem, hqueue⟩ := get_of_pop hpop
      obtain ⟨first, hperm, hfirst⟩ := Heap.pop_perm hpop
      obtain rfl := hfirst entry rfl
      have hsize : rest.size = n := by
        have hlength := hperm.length_eq
        rw [Array.length_toList, hn, List.length_cons, Array.length_toList] at hlength
        omega
      obtain ⟨l, hl, hlperm, hsorted⟩ := ih (hqueue ▸ hsize) hrest
      rw [hqueue] at hlperm hsorted
      refine ⟨entry :: l, ?_, (hlperm.cons _).trans hperm.symm, fun tie hextends hordered => ?_⟩
      · rw [List.map_cons, hl, Option.some.inj (hitem.symm.trans hget)]
      · obtain ⟨hordered', hleast⟩ := Heap.pop_ordered hordered (Heap.pop_extends hextends hpop)
        have hsub : ∀ a ∈ rest.toList, a ∈ q.queue.toList := fun a ha =>
          hperm.mem_iff.2 (List.mem_cons_of_mem _ ha)
        exact .cons (fun b hb => hleast entry rfl b (hlperm.mem_iff.1 hb))
          (hsorted tie (fun a ha b hb => hextends a (hsub a ha) b (hsub b hb)) hordered')

/-- If the entries can be compared, every get returns something. -/
theorem exists_gets {n : ℕ} (hn : q.queue.size = n)
    (h : Heap.Comparable QueueEntry.lt q.queue.toList) : ∃ items : List (QueueTask π), q.gets n = items.map some := by
  induction n generalizing q with
  | zero => exact ⟨[], rfl⟩
  | succ n ih =>
    have hne : q.queue ≠ #[] := fun hempty => by simp [hempty] at hn
    obtain ⟨entry, rest, hpop⟩ := Heap.pop_completes h hne
    obtain ⟨hitem, hqueue⟩ := get_of_pop hpop
    obtain ⟨first, hperm, -⟩ := Heap.pop_perm hpop
    have hsize : rest.size = n := by
      have hlength := hperm.length_eq
      rw [Array.length_toList, hn, List.length_cons, Array.length_toList] at hlength
      omega
    have hsub : ∀ a ∈ rest.toList, a ∈ q.queue.toList := fun a ha =>
      hperm.mem_iff.2 (List.mem_cons_of_mem _ ha)
    obtain ⟨items, hitems⟩ := ih (q := q.get.2) (hqueue ▸ hsize)
      (hqueue ▸ fun a ha b hb => h a (hsub a ha) b (hsub b hb))
    exact ⟨entry.item :: items, by rw [gets, hitem, hitems, List.map_cons]⟩

/-! ## Puts and gets -/

theorem Ticking.accepted (h : Ticking puts) (hnodup : (puts.map (·.2.path)).Nodup)
    {done : List (ℚ × QueueTask π)} (hdone : done ++ [p] <+: puts) :
    ((putAll done).put p.1 p.2).1 = some true := by
  induction puts using List.reverseRecOn generalizing done p with
  | nil => simp at hdone
  | append_singleton puts p' ih =>
    have hinit : (puts.map (·.2.path)).Nodup := by
      rw [List.map_append] at hnodup
      exact hnodup.of_append_left
    have hticking : Ticking puts := (List.pairwise_append.1 h).1
    rcases List.prefix_concat_iff.1 hdone with heq | hlt
    · obtain ⟨rfl, hp⟩ := List.append_inj' heq rfl
      obtain rfl := List.singleton_inj.1 hp
      obtain ⟨hfilled, -⟩ := filled_putAll hinit fun _ _ => ih hticking hinit
      refine (hfilled.put (notMem_of_nodup_concat hnodup)).1.2 (Heap.push_completes ?_)
      refine h.comparable.perm ?_
      rw [entries_concat]
      exact (hfilled.perm.cons _).trans (List.perm_append_singleton _ _).symm
    · exact ih hticking hinit hlt

/-- Tasks with different paths are served by class, and in a class as they arrived, if and only if the
    clock ticks from one put of a class to the next. -/
theorem serves_iff_ticking (hnodup : (puts.map (·.2.path)).Nodup) : Serves puts ↔ Ticking puts := by
  have hextends : ∀ {τ : Type} [LinearOrder τ] (tie : ℕ → τ),
      Heap.Extends QueueEntry.lt (Heap.keyLt (byTime tie)) (entries puts) := fun tie =>
    lt_extends tie fun a ha b hb => item_injOn_entries hnodup ha hb
  have hperm := inTurn_perm (fun e : QueueEntry π => e.item.type) (entries puts)
  have hturn : (inTurn (·.2.type) puts).map (some ·.2) =
      ((inTurn (·.item.type) (entries puts)).map QueueEntry.item).map some := by
    rw [map_item_inTurn, List.map_map]
    rfl
  have hsize : Filled puts (putAll puts) → (putAll puts).queue.size = puts.length := fun hfilled => by
    rw [← Array.length_toList, hfilled.perm.length_eq, length_entries]
  constructor
  · -- What was served is sorted by class, time and path, and it is the order of the arrivals.
    intro h
    obtain ⟨hfilled, hordered⟩ := filled_putAll hnodup h.accepted
    obtain ⟨l, hitems, hl, hsorted⟩ := exists_of_gets (hsize hfilled) (h.gets.trans hturn)
    have heq : l = inTurn (·.item.type) (entries puts) :=
      eq_of_map_item_eq hnodup (fun e he => hfilled.perm.mem_iff.1 (hl.mem_iff.1 he))
        (fun e he => hperm.mem_iff.1 he) hitems
    rw [ticking_iff_sorted]
    intro τ _ tie
    rw [← heq]
    exact hsorted tie ((hextends tie).perm hfilled.perm) (hordered tie)
  · -- Two entries are compared by their times, so that no put and no get compares two items.
    intro h
    have haccepted : ∀ done p, done ++ [p] <+: puts → ((putAll done).put p.1 p.2).1 = some true :=
      fun _ _ => h.accepted hnodup
    obtain ⟨hfilled, hordered⟩ := filled_putAll hnodup haccepted
    refine ⟨haccepted, fun done hdone => ?_, ?_⟩
    · have hinit : (done.map (·.2.path)).Nodup := (hdone.sublist.map _).nodup hnodup
      obtain ⟨hfilled', -⟩ := filled_putAll hinit fun done' p hp => haccepted done' p (hp.trans hdone)
      exact hfilled'.consistent hinit
    · obtain ⟨items, hitems⟩ := exists_gets (hsize hfilled) (h.comparable.perm hfilled.perm)
      obtain ⟨l, rfl, hl, hsorted⟩ := exists_of_gets (hsize hfilled) hitems
      rw [hitems, hturn]
      congr 2
      refine List.Perm.eq_of_pairwise (fun a b ha hb hab hba => ?_)
        (hsorted id ((hextends id).perm hfilled.perm) (hordered id)) (ticking_iff_sorted.1 h id)
        ((hl.trans hfilled.perm).trans hperm.symm)
      exact byTime_inj (hfilled.perm.mem_iff.1 (hl.mem_iff.1 ha)) (hperm.mem_iff.1 hb) (hab.antisymm hba)

/-- Two files, and an upload behind them. -/
theorem serves_ticking : Serves (π := Unit)
    [(1, ⟨text "a.mkv", .transcribe, ()⟩), (2, ⟨text "b.mkv", .transcribe, ()⟩),
      (2, ⟨text "c.mp3", .asr, ()⟩)] := by
  refine (serves_iff_ticking (by decide)).2 ?_
  unfold Ticking
  decide +kernel

/-- Two files at one time: the second put raises. Its entry stays in the heap, and its path is not
    queued. -/
theorem not_serves_same_time : ¬ ∀ puts : List (ℚ × QueueTask Unit),
    (puts.map (·.2.path)).Nodup → Serves puts := by
  intro h
  have haccepted := (h [(1, ⟨text "a.mkv", .transcribe, ()⟩), (1, ⟨text "b.mkv", .transcribe, ()⟩)]
    (by decide)).accepted [(1, ⟨text "a.mkv", .transcribe, ()⟩)] _ List.prefix_rfl
  have hraised : ((putAll [((1 : ℚ), (⟨text "a.mkv", .transcribe, ()⟩ : QueueTask Unit))]).put 1
      ⟨text "b.mkv", .transcribe, ()⟩).1 = none := by decide +kernel
  rw [hraised] at haccepted
  cases haccepted

end DeduplicatedQueue

end Subgen

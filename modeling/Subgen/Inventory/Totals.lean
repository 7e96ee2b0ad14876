import Subgen.Inventory.Threads
import Subgen.Lib.Switches
import Subgen.Lib.Tally

/-!
# The totals behind the scan

When no scan runs, the calls about items keep the totals: a library has as many items, and as many that
were scanned, as there are identities counted with its label (`Exact`). What is counted is a set, and
each call puts one identity into it or takes one away (`ItemCall.counts`, `ItemCall.uncounts`).

* `Exact.count`, `Exact.uncount`, `Exact.recount`: an identity comes, goes, or changes its name;
* `Exact.afterCall`: one call;
* `totals_stay_exact`: any calls;
* `not_counted_by_name`: the name of a call alone does not say whether an identity is counted.
-/

namespace Subgen

/-- The calls about items, without a generation. -/
inductive ItemCall
  | queued (path : Option Text) (source : Text)
  | observed (path : Option Text)
  | completed (path : Option Text)
  | removed (path : Option Text)
  | moved (source destination : Option Text)
  | cancelled (path : Option Text)

namespace ItemCall

/-- The call of the inventory. -/
def call : ItemCall → InventoryCall
  | queued path source => .markItemQueued path source none
  | observed path => .markItemObserved path none
  | completed path => .markItemCompleted path none
  | removed path => .markItemRemoved path none
  | moved source destination => .markItemMoved source destination none
  | cancelled path => .cancelItemQueue path none

/-- The paths of a call. -/
def paths : ItemCall → List (Option Text)
  | queued path _ | observed path | completed path | removed path | cancelled path => [path]
  | moved source destination => [source, destination]

/-- The call counts the identity: it is queued or observed, or a counted item is moved there, into a
    library. -/
def counts (config : InventoryConfig) (key : ItemKey) (s : Inventory) : ItemCall → Prop
  | queued path source =>
    pathKey config.sha256 path = some key ∧ (s.markItemQueued config path source none).2 = true
  | observed path =>
    pathKey config.sha256 path = some key ∧ (s.markItemObserved config path none).2 = true
  | moved source destination =>
    ∃ k, pathKey config.sha256 source = some k ∧ pathKey config.sha256 destination = some key ∧ k ≠ key ∧
      s.countedItems.contains k = true ∧ (s.labelForPath destination).isSome = true
  | _ => False

/-- The call takes the identity away: it is removed or moved away, or the reservation that has counted
    it is rolled back. -/
def uncounts (config : InventoryConfig) (key : ItemKey) (s : Inventory) : ItemCall → Prop
  | removed path => pathKey config.sha256 path = some key
  | moved source destination =>
    pathKey config.sha256 source = some key ∧
      ∃ k, pathKey config.sha256 destination = some k ∧ k ≠ key
  | cancelled path =>
    pathKey config.sha256 path = some key ∧
      ∃ item, s.pendingItems.get key = some item ∧ item.countedAtEnqueue = true
  | _ => False

end ItemCall

namespace Inventory

variable {config : InventoryConfig} {lib : ItemKey → Text} {s s' : Inventory} {key : ItemKey}
  {label : Text} {path : Option Text} {f : MutableLibrary → MutableLibrary}

/-- The inventory behind a call. -/
def afterCall (config : InventoryConfig) (s : Inventory) (c : ItemCall) : Inventory :=
  c.call.perform config s

/-- The inventory behind some calls. -/
def afterCalls (config : InventoryConfig) (s : Inventory) (calls : List ItemCall) : Inventory :=
  calls.foldl (afterCall config) s

/-- The label of the library that a path lies in. -/
def home (s : Inventory) (path : Option Text) : Text := (s.labelForPath path).getD otherLabel

/-- No scan runs, and the totals of each library are the number of the identities that are counted with
    its label. The labels are those of the libraries that the identities belong to, and what a
    reservation has counted is counted. -/
structure Exact (lib : ItemKey → Text) (s : Inventory) : Prop where
  finished : s.scanFinished = true
  total : Tally id MutableLibrary.total s.countedItems.values s.libraries
  scanned : Tally id MutableLibrary.scanned s.countedItems.values s.libraries
  counted : ∀ key label, s.countedItems.get key = some label → label = lib key
  pending : ∀ key item, s.pendingItems.get key = some item → item.label = lib key
  reserved : ∀ key item, s.pendingItems.get key = some item → item.countedAtEnqueue = true →
    s.countedItems.contains key = true
  rooted : ∀ root ∈ s.roots, s.libraries.contains root.2 = true

/-- What the totals are about. -/
def books (s : Inventory) : Bool × OrderedDict ItemKey Text × OrderedDict ItemKey PendingItem ×
    List (Text × Text) × (Text → Option (ℤ × ℤ)) :=
  (s.scanFinished, s.countedItems, s.pendingItems, s.roots,
    fun label => (s.libraries.get label).map fun l => (l.total, l.scanned))

/-- Only the books matter. -/
theorem Exact.congr (h : Exact lib s) (heq : s'.books = s.books) : Exact lib s' := by
  obtain ⟨hfinished, hrest⟩ := Prod.mk.inj heq
  obtain ⟨hcounted, hrest⟩ := Prod.mk.inj hrest
  obtain ⟨hpending, hrest⟩ := Prod.mk.inj hrest
  obtain ⟨hroots, hlibraries⟩ := Prod.mk.inj hrest
  have hget : ∀ a (g : ℤ × ℤ → ℤ), ((s'.libraries.get a).map fun l => g (l.total, l.scanned)) =
      (s.libraries.get a).map fun l => g (l.total, l.scanned) := fun a g => by
    have hmap := congrArg (Option.map g) (congrFun hlibraries a)
    rwa [Option.map_map, Option.map_map] at hmap
  refine ⟨hfinished.trans h.finished, hcounted ▸ h.total.congr fun a => hget a Prod.fst,
    hcounted ▸ h.scanned.congr fun a => hget a Prod.snd, hcounted ▸ h.counted, hpending ▸ h.pending,
    hpending ▸ hcounted ▸ h.reserved, fun root hroot => ?_⟩
  have hsome := congrArg Option.isSome (congrFun hlibraries root.2)
  rw [Option.isSome_map, Option.isSome_map] at hsome
  exact hsome.trans (h.rooted root (hroots ▸ hroot))

/-- A library is changed, but not its totals. -/
theorem books_modify (hfinished : s'.scanFinished = s.scanFinished)
    (hcounted : s'.countedItems = s.countedItems) (hpending : s'.pendingItems = s.pendingItems)
    (hroots : s'.roots = s.roots) (hlibraries : s'.libraries = s.libraries.modify label f)
    (hf : ∀ l, (f l).total = l.total ∧ (f l).scanned = l.scanned) : s'.books = s.books := by
  refine Prod.ext hfinished (Prod.ext hcounted (Prod.ext hpending (Prod.ext hroots (funext fun a => ?_))))
  change (s'.libraries.get a).map _ = (s.libraries.get a).map _
  rw [hlibraries, OrderedDict.get_modify]
  by_cases h : a = label
  · rw [if_pos h, h, Option.map_map]
    exact congrArg (Option.map · _) (funext fun l => Prod.ext (hf l).1 (hf l).2)
  · rw [if_neg h]

/-- The totals of a library that is there. -/
theorem Exact.totals (h : Exact lib s) {l : MutableLibrary} (hl : s.libraries.get label = some l) :
    l.scanned = l.total :=
  (h.scanned.counted label l hl).trans (h.total.counted label l hl).symm

/-! ## What is counted -/

/-- An identity is counted. -/
theorem Exact.count (h : Exact lib s) (hkey : s.countedItems.get key = none)
    (hlabel : s.libraries.contains (lib key) = true)
    (hf : ∀ l, (f l).total = l.total + 1 ∧ (f l).scanned = l.scanned + 1) :
    Exact lib { s with
      countedItems := s.countedItems.insert key (lib key)
      libraries := s.libraries.modify (lib key) f } := by
  obtain ⟨l, hl⟩ := OrderedDict.contains_iff.1 hlabel
  have hperm := (List.perm_append_singleton (lib key) s.countedItems.values).symm
  rw [← OrderedDict.values_insert_of_none hkey] at hperm
  refine ⟨h.finished, (h.total.cons hl (hf l).1).perm hperm, (h.scanned.cons hl (hf l).2).perm hperm,
    fun k a hk => ?_, h.pending, fun k item hk hcounted => ?_, fun root hroot => ?_⟩
  · dsimp only at hk
    rw [OrderedDict.get_insert] at hk
    by_cases hkey : k = key
    · rw [if_pos hkey, Option.some.injEq] at hk
      rw [← hk, hkey]
    · rw [if_neg hkey] at hk
      exact h.counted k a hk
  · exact (OrderedDict.contains_insert ..).2 (.inr (h.reserved k item hk hcounted))
  · exact (OrderedDict.contains_modify ..).trans (h.rooted root hroot)

/-- An identity that does not wait is not counted any longer. -/
theorem Exact.uncount (h : Exact lib s) (hkey : s.countedItems.get key = some label)
    (hpending : s.pendingItems.get key = none)
    (hf : ∀ l, 1 ≤ l.total → l.scanned = l.total →
      (f l).total = l.total - 1 ∧ (f l).scanned = l.scanned - 1) :
    Exact lib { s with
      countedItems := s.countedItems.erase key
      libraries := s.libraries.modify label f } := by
  have hperm := OrderedDict.perm_values_of_get hkey
  have hless : ∀ l, s.libraries.get label = some l →
      (f l).total = l.total - 1 ∧ (f l).scanned = l.scanned - 1 := fun l hl =>
    hf l (h.total.one_le (OrderedDict.mem_values_of_get hkey) hl) (h.totals hl)
  refine ⟨h.finished, (h.total.perm hperm).uncons fun l hl => (hless l hl).1,
    (h.scanned.perm hperm).uncons fun l hl => (hless l hl).2, fun k a hk => ?_, h.pending,
    fun k item hk hcounted => ?_, fun root hroot => ?_⟩
  · dsimp only at hk
    rw [OrderedDict.get_erase] at hk
    exact h.counted k a (Option.ite_none_left_eq_some.1 hk).2
  · have hne : k ≠ key := fun heq => by
      rw [heq, hpending] at hk
      cases hk
    rw [OrderedDict.contains, OrderedDict.get_erase, if_neg hne]
    exact h.reserved k item hk hcounted
  · exact (OrderedDict.contains_modify ..).trans (h.rooted root hroot)

/-- An identity that does not wait is counted under another name in the same library. -/
theorem Exact.recount (h : Exact lib s) {key' : ItemKey} (hkey : s.countedItems.get key = some label)
    (hpending : s.pendingItems.get key = none) (hkey' : s.countedItems.get key' = none)
    (hlabel : label = lib key') :
    Exact lib { s with countedItems := (s.countedItems.erase key).insert key' label } := by
  have hnone : (s.countedItems.erase key).get key' = none := by
    rw [OrderedDict.get_erase, hkey', ite_self]
  have hperm : s.countedItems.values.Perm ((s.countedItems.erase key).insert key' label).values := by
    rw [OrderedDict.values_insert_of_none hnone]
    exact (OrderedDict.perm_values_of_get hkey).trans (List.perm_append_singleton _ _).symm
  refine ⟨h.finished, h.total.perm hperm, h.scanned.perm hperm, fun k a hk => ?_, h.pending,
    fun k item hk hcounted => ?_, h.rooted⟩
  · dsimp only at hk
    rw [OrderedDict.get_insert, OrderedDict.get_erase] at hk
    by_cases hk' : k = key'
    · rw [if_pos hk', Option.some.injEq] at hk
      rw [← hk, hlabel, hk']
    · rw [if_neg hk'] at hk
      exact h.counted k a (Option.ite_none_left_eq_some.1 hk).2
  · have hne : k ≠ key := fun heq => by
      rw [heq, hpending] at hk
      cases hk
    refine (OrderedDict.contains_insert ..).2 (.inr ?_)
    rw [OrderedDict.contains, OrderedDict.get_erase, if_neg hne]
    exact h.reserved k item hk hcounted

/-! ## What waits -/

/-- An item that was counted before is reserved. -/
theorem Exact.reserve (h : Exact lib s) (key : ItemKey) (item : PendingItem) (hlabel : item.label = lib key)
    (hcounted : item.countedAtEnqueue = true → s.countedItems.contains key = true) :
    Exact lib { s with pendingItems := s.pendingItems.insert key item } := by
  refine ⟨h.finished, h.total, h.scanned, h.counted, fun k item' hk => ?_, fun k item' hk hreserved => ?_,
    h.rooted⟩
  · dsimp only at hk
    rw [OrderedDict.get_insert] at hk
    by_cases hkey : k = key
    · rw [if_pos hkey, Option.some.injEq] at hk
      rw [← hk, hkey, hlabel]
    · rw [if_neg hkey] at hk
      exact h.pending k item' hk
  · dsimp only at hk
    rw [OrderedDict.get_insert] at hk
    by_cases hkey : k = key
    · rw [if_pos hkey, Option.some.injEq] at hk
      exact hkey ▸ hcounted (hk ▸ hreserved)
    · rw [if_neg hkey] at hk
      exact h.reserved k item' hk hreserved

/-- An item does not wait any longer. -/
theorem Exact.dequeue (h : Exact lib s) (key : ItemKey) :
    Exact lib (s.dequeue key (s.pendingItems.get key)) ∧
      (s.dequeue key (s.pendingItems.get key)).pendingItems.get key = none ∧
      (s.dequeue key (s.pendingItems.get key)).countedItems = s.countedItems := by
  rcases hget : s.pendingItems.get key with _ | item
  · exact ⟨h, hget, rfl⟩
  · have herase : ∀ k item', (s.pendingItems.erase key).get k = some item' →
        s.pendingItems.get k = some item' := fun k item' hk => by
      rw [OrderedDict.get_erase] at hk
      exact (Option.ite_none_left_eq_some.1 hk).2
    refine ⟨?_, (OrderedDict.get_erase ..).trans (if_pos rfl), rfl⟩
    have hgone : Exact lib { s with pendingItems := s.pendingItems.erase key } :=
      ⟨h.finished, h.total, h.scanned, h.counted, fun k item' hk => h.pending k item' (herase k item' hk),
        fun k item' hk => h.reserved k item' (herase k item' hk), h.rooted⟩
    exact hgone.congr (books_modify rfl rfl rfl rfl rfl fun _ => ⟨rfl, rfl⟩)

/-- The library of a path is there. -/
theorem Exact.contains_of_label (h : Exact lib s) (hlabel : s.labelForPath path = some label) :
    s.libraries.contains label = true := by
  obtain ⟨_, -, hfind⟩ := Option.bind_eq_some_iff.1 hlabel
  obtain ⟨root, hroot, rfl⟩ := Option.map_eq_some_iff.1 hfind
  exact h.rooted root (List.mem_of_find?_eq_some hroot)

/-- The library of a path is there. -/
theorem Exact.bindLabel (h : Exact lib s) (path : Option Text) :
    (s.bindLabel path).1 = s.home path ∧ (s.bindLabel path).2.contains (s.home path) = true ∧
      Exact lib { s with libraries := (s.bindLabel path).2 } := by
  unfold Inventory.bindLabel home
  rcases hlabel : s.labelForPath path with _ | label
  · refine ⟨rfl, (OrderedDict.contains_setDefault ..).2 (.inl rfl), h.finished, h.total.setDefault _ rfl,
      h.scanned.setDefault _ rfl, h.counted, h.pending, h.reserved, fun root hroot => ?_⟩
    exact (OrderedDict.contains_setDefault ..).2 (.inr (h.rooted root hroot))
  · exact ⟨rfl, h.contains_of_label hlabel, h⟩

/-! ## The calls -/

/-- What a reservation does. -/
theorem markItemQueued_inv (config : InventoryConfig) (s : Inventory) (path : Option Text) (source : Text) :
    s.markItemQueued config path source none = (s, false) ∨
      ∃ key, pathKey config.sha256 path = some key ∧
        s.markItemQueued config path source none = (s.enqueue key path source none, true) := by
  unfold Inventory.markItemQueued
  rcases hkey : pathKey config.sha256 path with _ | key
  · exact .inl rfl
  · dsimp only
    split
    · exact .inl rfl
    · exact .inr ⟨key, rfl, rfl⟩

/-- What an observation does. -/
theorem markItemObserved_inv (config : InventoryConfig) (s : Inventory) (path : Option Text) :
    s.markItemObserved config path none = (s, false) ∨
      ∃ key, pathKey config.sha256 path = some key ∧ s.countedItems.get key = none ∧
        s.markItemObserved config path none = (s.observe key path none, true) := by
  unfold Inventory.markItemObserved
  rcases hkey : pathKey config.sha256 path with _ | key
  · exact .inl rfl
  · dsimp only
    split
    · exact .inl rfl
    · next hnew =>
      refine .inr ⟨key, rfl, Option.not_isSome_iff_eq_none.1 fun hsome => ?_, rfl⟩
      exact hnew (.inr (.inr (.inl hsome)))

section Calls

variable (h : Exact lib s) (hlib : ∀ key, pathKey config.sha256 path = some key → lib key = s.home path)
include h hlib

/-- A new item is counted and enqueued. -/
theorem Exact.enqueue (hkey : pathKey config.sha256 path = some key) (source : Text) :
    Exact lib (s.enqueue key path source none) ∧
      ∀ k, (s.enqueue key path source none).countedItems.contains k = true ↔
        k = key ∨ s.countedItems.contains k = true := by
  obtain ⟨hfst, hcontains, hbound⟩ := h.bindLabel path
  rw [← hlib key hkey] at hfst hcontains
  unfold Inventory.enqueue
  dsimp only
  rw [hfst]
  rcases hcounted : s.countedItems.contains key with _ | _
  · have hcounts : (s.scanFinished && !false) = true := by rw [h.finished, Bool.not_false, Bool.and_self]
    have hnone : s.countedItems.get key = none := Option.not_isSome_iff_eq_none.1 (by
      rw [← OrderedDict.contains, hcounted]
      exact Bool.false_ne_true)
    have hcount := hbound.count hnone hcontains (f := .enqueued true) fun _ => ⟨rfl, rfl⟩
    have hreserve := hcount.reserve key ⟨lib key, true, none⟩ rfl fun _ =>
      (OrderedDict.contains_insert ..).2 (.inl rfl)
    rw [hcounts, if_pos rfl]
    exact ⟨hreserve.congr rfl, fun k => OrderedDict.contains_insert ..⟩
  · have hmodify : Exact lib { s with
        libraries := (s.bindLabel path).2.modify (lib key) (.enqueued false) } :=
      hbound.congr (books_modify rfl rfl rfl rfl rfl fun _ => ⟨rfl, rfl⟩)
    have hreserve := hmodify.reserve key ⟨lib key, false, none⟩ rfl (by simp)
    have hsame : ∀ k, s.countedItems.contains k = true ↔ k = key ∨ s.countedItems.contains k = true :=
      fun k => ⟨.inr, fun hk => hk.elim (fun heq => heq ▸ hcounted) id⟩
    rw [Bool.not_true, Bool.and_false, if_neg Bool.false_ne_true]
    split
    · exact ⟨hreserve.congr rfl, hsame⟩
    · exact ⟨hreserve.congr rfl, hsame⟩

/-- A new item is counted. -/
theorem Exact.observe (hkey : pathKey config.sha256 path = some key)
    (hnone : s.countedItems.get key = none) : Exact lib (s.observe key path none) ∧
      ∀ k, (s.observe key path none).countedItems.contains k = true ↔
        k = key ∨ s.countedItems.contains k = true := by
  obtain ⟨hfst, hcontains, hbound⟩ := h.bindLabel path
  rw [← hlib key hkey] at hfst hcontains
  have hcount := hbound.count hnone hcontains
    (f := fun l => { l with total := l.total + 1, scanned := l.scanned + 1 }) fun _ => ⟨rfl, rfl⟩
  unfold Inventory.observe
  dsimp only
  rw [hfst, if_pos h.finished]
  exact ⟨hcount.congr rfl, fun k => OrderedDict.contains_insert ..⟩

/-- A reservation keeps the books exact. -/
theorem Exact.markItemQueued (source : Text) :
    Exact lib (s.markItemQueued config path source none).1 ∧ ∀ k,
      (s.markItemQueued config path source none).1.countedItems.contains k = true ↔
        (ItemCall.queued path source).counts config k s ∨ s.countedItems.contains k = true := by
  have hcounts : ∀ k, (ItemCall.queued path source).counts config k s ↔
      pathKey config.sha256 path = some k ∧ (s.markItemQueued config path source none).2 = true :=
    fun _ => Iff.rfl
  rcases markItemQueued_inv config s path source with heq | ⟨key, hkey, heq⟩
  · simp only [hcounts, heq]
    exact ⟨h, fun k => by simp⟩
  · simp only [hcounts, heq, hkey, Option.some.injEq, and_true]
    obtain ⟨hexact, hcontains⟩ := h.enqueue hlib hkey source
    exact ⟨hexact, fun k => (hcontains k).trans (or_congr_left eq_comm)⟩

/-- So does an observation. -/
theorem Exact.markItemObserved :
    Exact lib (s.markItemObserved config path none).1 ∧ ∀ k,
      (s.markItemObserved config path none).1.countedItems.contains k = true ↔
        (ItemCall.observed path).counts config k s ∨ s.countedItems.contains k = true := by
  have hcounts : ∀ k, (ItemCall.observed path).counts config k s ↔
      pathKey config.sha256 path = some k ∧ (s.markItemObserved config path none).2 = true :=
    fun _ => Iff.rfl
  rcases markItemObserved_inv config s path with heq | ⟨key, hkey, hnone, heq⟩
  · simp only [hcounts, heq]
    exact ⟨h, fun k => by simp⟩
  · simp only [hcounts, heq, hkey, Option.some.injEq, and_true]
    obtain ⟨hexact, hcontains⟩ := h.observe hlib hkey hnone
    exact ⟨hexact, fun k => (hcontains k).trans (or_congr_left eq_comm)⟩

end Calls

/-- Behind the scan, nothing is noted of an item that is removed. -/
theorem noteRemoved_of_finished (hfinished : s.scanFinished = true) (key : ItemKey) (known : Bool)
    (generation : Option ℤ) : s.noteRemoved key known generation = s := by
  rw [noteRemoved, if_neg]
  rintro ⟨-, hnot, -⟩
  rw [hfinished] at hnot
  cases hnot

/-- When the scan is finished all items have been scanned. -/
theorem wasScanned_of_finished (hfinished : s.scanFinished = true) (key : ItemKey) :
    s.wasScanned key = true := decide_eq_true (.inl hfinished)

/-- A counted item is taken off both totals. -/
theorem uncount_totals (l : MutableLibrary) (hone : 1 ≤ l.total) (hscanned : l.scanned = l.total) :
    (Inventory.uncount true l).total = l.total - 1 ∧ (Inventory.uncount true l).scanned = l.scanned - 1 := by
  have hless : 0 ≤ l.total - 1 := by linarith
  unfold Inventory.uncount
  dsimp only
  rw [if_pos rfl, hscanned, max_eq_right hless, min_self]
  exact ⟨rfl, rfl⟩

section

variable (h : Exact lib s)
include h

/-- A completion keeps the books exact. -/
theorem Exact.markItemCompleted (config : InventoryConfig) (path : Option Text) :
    Exact lib (s.markItemCompleted config path none).1 ∧
      (s.markItemCompleted config path none).1.countedItems = s.countedItems := by
  unfold Inventory.markItemCompleted
  rcases pathKey config.sha256 path with _ | key
  · exact ⟨h, rfl⟩
  · dsimp only
    split
    · exact ⟨h, rfl⟩
    · obtain ⟨hexact, -, hcounted⟩ := h.dequeue key
      rcases hget : s.pendingItems.get key with _ | item
      · exact ⟨h, rfl⟩
      · rw [hget] at hexact hcounted
        exact ⟨hexact.congr rfl, hcounted⟩

/-- So does a cancellation. -/
theorem Exact.cancelItemQueue (config : InventoryConfig) (path : Option Text) :
    Exact lib (s.cancelItemQueue config path none).1 ∧ ∀ k,
      (s.cancelItemQueue config path none).1.countedItems.contains k = true ↔
        s.countedItems.contains k = true ∧ ¬ (ItemCall.cancelled path).uncounts config k s := by
  have huncounts : ∀ k, (ItemCall.cancelled path).uncounts config k s ↔
      pathKey config.sha256 path = some k ∧
        ∃ item, s.pendingItems.get k = some item ∧ item.countedAtEnqueue = true := fun _ => Iff.rfl
  simp only [huncounts]
  unfold Inventory.cancelItemQueue
  rcases hkey : pathKey config.sha256 path with _ | key
  · exact ⟨h, fun k => by simp⟩
  · dsimp only
    rw [if_neg (by simp [generationMatches])]
    obtain ⟨hexact, hpending, hcounted⟩ := h.dequeue key
    rcases hget : s.pendingItems.get key with _ | item
    · refine ⟨h, fun k => ⟨fun hk => ⟨hk, ?_⟩, And.left⟩⟩
      rintro ⟨heq, item, hitem, -⟩
      rw [← Option.some.inj heq, hget] at hitem
      cases hitem
    · rw [hget] at hexact hpending hcounted
      have hlabel : item.label = lib key := h.pending key item hget
      dsimp only
      -- Only what the reservation counted is taken back.
      rcases hreserved : item.countedAtEnqueue with _ | _
      · rw [if_neg (fun hand => Bool.false_ne_true hand.1)]
        refine ⟨hexact.congr rfl, fun k => ⟨fun hk => ⟨hk, ?_⟩, And.left⟩⟩
        rintro ⟨heq, item', hitem', htrue⟩
        rw [← Option.some.inj heq, hget, Option.some.injEq] at hitem'
        exact Bool.false_ne_true ((hitem' ▸ hreserved).symm.trans htrue)
      · obtain ⟨label, hcountedKey⟩ := OrderedDict.contains_iff.1 (h.reserved key item hget hreserved)
        -- The item is counted under the label of its library, so the total of this one sinks.
        have hsame : label = item.label := (h.counted key label hcountedKey).trans hlabel.symm
        obtain ⟨l, hl⟩ := h.total.named label (OrderedDict.mem_values_of_get hcountedKey)
        have hcontains : s.libraries.contains item.label = true :=
          OrderedDict.contains_iff.2 ⟨l, hsame ▸ hl⟩
        rw [if_pos ⟨rfl, hcontains⟩]
        have hless := hexact.uncount (hcounted ▸ hcountedKey) hpending
          (f := fun l => { l with total := max 0 (l.total - 1), scanned := max 0 (l.scanned - 1) })
          fun l hone hscanned => ⟨max_eq_right (by linarith), max_eq_right (by linarith)⟩
        refine ⟨hsame ▸ hless.congr rfl, fun k => ?_⟩
        refine (OrderedDict.contains_erase ..).trans (and_congr_right fun _ => not_congr ?_)
        constructor
        · rintro rfl
          exact ⟨rfl, item, hget, hreserved⟩
        · exact fun hk => (Option.some.inj hk.1).symm

/-- What is left of an item that is removed or moved away, before its library is changed. -/
theorem Exact.leave (key : ItemKey) (known : Bool) (generation : Option ℤ) :
    ((s.dequeue key (s.pendingItems.get key)).leaveScan key).noteRemoved key known generation =
      (s.dequeue key (s.pendingItems.get key)).leaveScan key :=
  have hfinished : ((s.dequeue key (s.pendingItems.get key)).leaveScan key).scanFinished = true :=
    (h.dequeue key).1.finished
  noteRemoved_of_finished hfinished key known generation

/-- An item that is not counted leaves the totals as they are. -/
theorem Exact.leaveScan_of_none (hkey : s.countedItems.get key = none) :
    Exact lib (s.leaveScan key) ∧ (s.leaveScan key).countedItems = s.countedItems := by
  have hcounted : (s.leaveScan key).countedItems = s.countedItems := OrderedDict.erase_of_none hkey
  refine ⟨h.congr (Prod.ext rfl (Prod.ext hcounted rfl)), hcounted⟩

/-- The library of a counted item that is removed. -/
theorem Exact.leavingLabel (hlib : ∀ key, pathKey config.sha256 path = some key → lib key = s.home path)
    (hkey : pathKey config.sha256 path = some key) (hcounted : s.countedItems.get key = some label) :
    s.leavingLabel key path = some label := by
  have hlabel : label = lib key := h.counted key label hcounted
  unfold Inventory.leavingLabel
  rcases hget : s.pendingItems.get key with _ | item
  · dsimp only
    rw [hcounted, orElseLabel]
    -- The name of a library may be empty, if it is that of the root of the path.
    split
    · next hempty =>
      rw [hlib key hkey, home] at hlabel
      rcases hroot : s.labelForPath path with _ | l
      · rw [hroot, Option.getD_none, hempty] at hlabel
        exact absurd hlabel (by decide)
      · rw [hroot, Option.getD_some] at hlabel
        rw [hlabel]
    · rfl
  · exact congrArg some ((h.pending key item hget).trans hlabel.symm)

/-- So does a removal. -/
theorem Exact.markItemRemoved (hlib : ∀ key, pathKey config.sha256 path = some key → lib key = s.home path) :
    Exact lib (s.markItemRemoved config path none).1 ∧ ∀ k,
      (s.markItemRemoved config path none).1.countedItems.contains k = true ↔
        s.countedItems.contains k = true ∧ pathKey config.sha256 path ≠ some k := by
  unfold Inventory.markItemRemoved
  rcases hkey : pathKey config.sha256 path with _ | key
  · exact ⟨h, fun k => by simp⟩
  · obtain ⟨hexact, hpending, hcounted⟩ := h.dequeue key
    dsimp only
    rw [if_neg (by simp [generationMatches]), h.leave, wasScanned_of_finished h.finished]
    rcases hget : s.countedItems.get key with _ | label
    · obtain ⟨hleft, hsame⟩ := hexact.leaveScan_of_none (hcounted ▸ hget)
      have hcontains : ∀ k, s.countedItems.contains k = true ↔
          s.countedItems.contains k = true ∧ some key ≠ some k := fun k => by
        refine ⟨fun hk => ⟨hk, fun heq => ?_⟩, And.left⟩
        rw [← Option.some.inj heq, OrderedDict.contains, hget] at hk
        cases hk
      rcases s.leavingLabel key path with _ | label
      · exact ⟨hleft, fun k => by rw [hsame, hcounted]; exact hcontains k⟩
      · exact ⟨hleft, fun k => by rw [hsame, hcounted]; exact hcontains k⟩
    · rw [h.leavingLabel hlib hkey hget]
      refine ⟨(hexact.uncount (hcounted ▸ hget) hpending uncount_totals).congr rfl, fun k => ?_⟩
      change ((s.dequeue key (s.pendingItems.get key)).countedItems.erase key).contains k = true ↔ _
      rw [hcounted, OrderedDict.contains_erase, ne_eq, ne_eq, Option.some.injEq, eq_comm (a := key)]

/-- The count of a moved item leaves the library it was in. -/
theorem Exact.uncountMoved (hkey : s.countedItems.get key = some label)
    (hpending : s.pendingItems.get key = none) {transferred : Option Text} {before : Inventory}
    (hbefore : before.scanFinished = true) (htransferred : transferred ≠ some label) :
    Exact lib ((s.leaveScan key).uncountMoved key label transferred before) := by
  rw [Inventory.uncountMoved, if_neg htransferred, wasScanned_of_finished hbefore]
  exact (h.uncount hkey hpending uncount_totals).congr rfl

/-- It comes to the library of the destination. -/
theorem Exact.transfer {destination : ItemKey} (hkey : s.countedItems.get key = some label)
    (hpending : s.pendingItems.get key = none) (hnone : s.countedItems.get destination = none)
    (hlabel : s.libraries.contains (lib destination) = true) {before : Inventory}
    (hbefore : before.scanFinished = true) :
    Exact lib (((s.leaveScan key).uncountMoved key label (some (lib destination)) before).transfer key
      destination label (lib destination) before none) := by
  have hscanned := wasScanned_of_finished hbefore key
  by_cases hsame : label = lib destination
  · rw [Inventory.uncountMoved, if_pos (congrArg some hsame.symm), Inventory.transfer,
      if_neg (by simp [leaveScan, forget, hlabel])]
    dsimp only
    rw [if_pos hsame, hscanned]
    have hfinished : (s.leaveScan key).scanFinished = true := h.finished
    rw [if_pos hfinished]
    exact (h.recount hkey hpending hnone hsame).congr (hsame ▸ rfl)
  · have hmoved := h.uncountMoved hkey hpending hbefore (fun heq => hsame (Option.some.inj heq).symm)
    rw [Inventory.uncountMoved, if_neg (fun heq => hsame (Option.some.inj heq).symm), hscanned] at hmoved ⊢
    have hcontains := (OrderedDict.contains_modify s.libraries label (lib destination)
      (Inventory.uncount true)).trans hlabel
    have hnone' : (s.countedItems.erase key).get destination = none := by
      rw [OrderedDict.get_erase, hnone, ite_self]
    have hcount := hmoved.count hnone' hcontains
      (f := fun l => { l with total := l.total + 1, scanned := l.scanned + 1 }) fun _ => ⟨rfl, rfl⟩
    rw [Inventory.transfer, if_neg (by simp [leaveScan, forget, hcontains])]
    dsimp only
    rw [if_neg hsame, hscanned]
    have hfinished : (s.leaveScan key).scanFinished = true := h.finished
    rw [if_pos hfinished]
    exact hcount.congr rfl

omit h in
/-- The old path is no longer counted. -/
theorem countedItems_uncountMoved (s : Inventory) (source : ItemKey) (counted : Text)
    (transferred : Option Text) (before : Inventory) :
    ((s.leaveScan source).uncountMoved source counted transferred before).countedItems =
      s.countedItems.erase source := by
  unfold Inventory.uncountMoved
  split <;> rfl

omit h in
/-- The libraries are the same. -/
theorem contains_uncountMoved (s : Inventory) (source : ItemKey) (counted : Text)
    (transferred : Option Text) (before : Inventory) (label : Text) :
    ((s.leaveScan source).uncountMoved source counted transferred before).libraries.contains label =
      s.libraries.contains label := by
  unfold Inventory.uncountMoved
  split
  · rfl
  · exact OrderedDict.contains_modify ..

omit h in
/-- The new path is counted in its library. -/
theorem countedItems_transfer {source destination : ItemKey} {counted : Text} {before : Inventory}
    {generation : Option ℤ} (hlabel : s.libraries.contains label = true) :
    (s.transfer source destination counted label before generation).countedItems =
      s.countedItems.insert destination label := by
  rw [Inventory.transfer, if_neg (by simp [hlabel])]
  dsimp only
  split <;> rfl

/-- A counted item that is moved goes from one library to another, or to none. -/
theorem Exact.markItemMoved {source destination : Option Text}
    (hlib : ∀ key, pathKey config.sha256 destination = some key → lib key = s.home destination) :
    Exact lib (s.markItemMoved config source destination none).1 ∧ ∀ k,
      (s.markItemMoved config source destination none).1.countedItems.contains k = true ↔
        (ItemCall.moved source destination).counts config k s ∨
          (s.countedItems.contains k = true ∧
            ¬ (ItemCall.moved source destination).uncounts config k s) := by
  have hcounts : ∀ k, (ItemCall.moved source destination).counts config k s ↔ ∃ k',
      pathKey config.sha256 source = some k' ∧ pathKey config.sha256 destination = some k ∧ k' ≠ k ∧
        s.countedItems.contains k' = true ∧ (s.labelForPath destination).isSome = true := fun _ => Iff.rfl
  have huncounts : ∀ k, (ItemCall.moved source destination).uncounts config k s ↔
      pathKey config.sha256 source = some k ∧
        ∃ k', pathKey config.sha256 destination = some k' ∧ k' ≠ k := fun _ => Iff.rfl
  simp only [hcounts, huncounts]
  unfold Inventory.markItemMoved
  rcases hsource : pathKey config.sha256 source with _ | a
  · exact ⟨h, fun k => by simp⟩
  rcases hdestination : pathKey config.sha256 destination with _ | b
  · exact ⟨h, fun k => by simp⟩
  dsimp only
  by_cases hab : a = b
  · rw [if_pos (.inl hab)]
    exact ⟨h, fun k => by grind⟩
  rw [if_neg (by simp [generationMatches, hab]), h.leave]
  obtain ⟨hexact, hpending, hcounted⟩ := h.dequeue a
  simp only [Option.some.injEq, exists_eq_left']
  rcases hget : s.countedItems.get a with _ | label
  · obtain ⟨hleft, hsame⟩ := hexact.leaveScan_of_none (hcounted ▸ hget)
    refine ⟨hleft, fun k => ?_⟩
    have hnot : s.countedItems.contains a = false := by rw [OrderedDict.contains, hget, Option.isSome_none]
    rw [hsame, hcounted]
    grind
  · have ha : s.countedItems.contains a = true := OrderedDict.contains_iff.2 ⟨label, hget⟩
    have hgone : ∀ k, ((s.dequeue a (s.pendingItems.get a)).countedItems.erase a).contains k = true ↔
        s.countedItems.contains k = true ∧ k ≠ a := fun k => by rw [hcounted, OrderedDict.contains_erase]
    have hnone : (none : Option Text) ≠ some label := Option.some_ne_none label |>.symm
    -- What is behind the move, if the destination is counted already or in no library.
    have hlost : Exact lib (((s.dequeue a (s.pendingItems.get a)).leaveScan a).uncountMoved a label none s) :=
      hexact.uncountMoved (hcounted ▸ hget) hpending h.finished hnone
    dsimp only
    rcases hb : s.countedItems.contains b with _ | _
    · rw [if_neg Bool.false_ne_true]
      rcases hlabel : s.labelForPath destination with _ | label'
      · refine ⟨hlost, fun k => ?_⟩
        rw [countedItems_uncountMoved, hgone]
        grind
      · have hsame : ((s.dequeue a (s.pendingItems.get a))).labelForPath destination =
            s.labelForPath destination := by
          rcases s.pendingItems.get a <;> rfl
        have hhome : lib b = label' := by rw [hlib b hdestination, home, hlabel, Option.getD_some]
        have hcontains := hexact.contains_of_label (hsame.trans hlabel)
        have hnew : s.countedItems.get b = none := Option.not_isSome_iff_eq_none.1 fun hsome =>
          Bool.false_ne_true (hb.symm.trans hsome)
        have hexact' := hexact.transfer (hcounted ▸ hget) hpending (hcounted ▸ hnew) (hhome ▸ hcontains)
          h.finished
        rw [hhome] at hexact'
        refine ⟨hexact', fun k => ?_⟩
        dsimp only
        rw [countedItems_transfer ((contains_uncountMoved ..).trans hcontains), countedItems_uncountMoved,
          OrderedDict.contains_insert, hgone]
        grind
    · rw [if_pos rfl]
      refine ⟨hlost, fun k => ?_⟩
      rw [countedItems_uncountMoved, hgone]
      grind

end

/-! ## The roots -/

/-- An item that leaves the queue leaves the roots alone. -/
theorem roots_dequeue (s : Inventory) (key : ItemKey) (item : Option PendingItem) :
    (s.dequeue key item).roots = s.roots := by
  rcases item <;> rfl

/-- So does one that leaves the scan. -/
theorem roots_leave (s : Inventory) (key : ItemKey) (item : Option PendingItem) (known : Bool)
    (generation : Option ℤ) :
    (((s.dequeue key item).leaveScan key).noteRemoved key known generation).roots = s.roots := by
  refine Eq.trans ?_ (roots_dequeue s key item)
  unfold noteRemoved
  split <;> rfl

/-- A reservation leaves the roots alone. -/
theorem roots_markItemQueued (path : Option Text) (source : Text) :
    (s.markItemQueued config path source none).1.roots = s.roots := by
  rcases markItemQueued_inv config s path source with heq | ⟨key, -, heq⟩
  · rw [heq]
  · rw [heq]
    unfold Inventory.enqueue
    dsimp only
    split
    · rfl
    · split <;> rfl

/-- So does an observation. -/
theorem roots_markItemObserved (path : Option Text) :
    (s.markItemObserved config path none).1.roots = s.roots := by
  rcases markItemObserved_inv config s path with heq | ⟨key, -, -, heq⟩
  · rw [heq]
  · rw [heq]
    unfold Inventory.observe
    dsimp only
    split <;> rfl

/-- So does a completion. -/
theorem roots_markItemCompleted (path : Option Text) :
    (s.markItemCompleted config path none).1.roots = s.roots := by
  unfold Inventory.markItemCompleted
  split
  · rfl
  · split
    · rfl
    · split <;> rfl

/-- So does a cancellation. -/
theorem roots_cancelItemQueue (path : Option Text) :
    (s.cancelItemQueue config path none).1.roots = s.roots := by
  unfold Inventory.cancelItemQueue
  split
  · rfl
  · split
    · rfl
    · split
      · rfl
      · dsimp only
        split <;> rfl

/-- So does a removal. -/
theorem roots_markItemRemoved (path : Option Text) :
    (s.markItemRemoved config path none).1.roots = s.roots := by
  unfold Inventory.markItemRemoved
  split
  · rfl
  · split
    · rfl
    · dsimp only
      split
      · exact roots_leave ..
      · exact roots_leave ..

/-- So does a move. -/
theorem roots_markItemMoved (source destination : Option Text) :
    (s.markItemMoved config source destination none).1.roots = s.roots := by
  have hmoved : ∀ (s : Inventory) source counted transferred before,
      (s.uncountMoved source counted transferred before).roots = s.roots := fun s _ _ _ _ => by
    unfold Inventory.uncountMoved
    split <;> rfl
  have htransfer : ∀ (s : Inventory) source destination counted label before,
      (s.transfer source destination counted label before none).roots = s.roots := fun s _ _ _ _ _ => by
    unfold Inventory.transfer
    split
    · rfl
    · dsimp only
      split <;> rfl
  unfold Inventory.markItemMoved
  split
  · split
    · rfl
    · dsimp only
      split
      · exact roots_leave ..
      · split
        · exact (hmoved ..).trans (roots_leave ..)
        · exact (htransfer ..).trans ((hmoved ..).trans (roots_leave ..))
  · rfl

/-- The library of a path is the same behind every call. -/
theorem home_afterCall (config : InventoryConfig) (s : Inventory) (c : ItemCall) :
    (s.afterCall config c).home = s.home := by
  have hroots : (s.afterCall config c).roots = s.roots := by
    cases c with
    | queued path source => exact roots_markItemQueued path source
    | observed path => exact roots_markItemObserved path
    | completed path => exact roots_markItemCompleted path
    | removed path => exact roots_markItemRemoved path
    | moved source destination => exact roots_markItemMoved source destination
    | cancelled path => exact roots_cancelItemQueue path
  funext path
  rw [home, home, labelForPath, labelForPath, labelForNormalizedPath, labelForNormalizedPath, hroots]

/-! ## Any calls -/

/-- The identities of the paths belong to the libraries that the paths lie in. -/
def Belongs (config : InventoryConfig) (lib : ItemKey → Text) (s : Inventory)
    (paths : List (Option Text)) : Prop :=
  ∀ path ∈ paths, ∀ key, pathKey config.sha256 path = some key → lib key = s.home path

/-- One call keeps the totals exact, and puts into what is counted what it counts, or takes away what it
    does not count any longer. -/
theorem Exact.afterCall (h : Exact lib s) {c : ItemCall} (hlib : Belongs config lib s c.paths) :
    Exact lib (s.afterCall config c) ∧ ∀ k, (s.afterCall config c).countedItems.contains k = true ↔
      c.counts config k s ∨ (s.countedItems.contains k = true ∧ ¬ c.uncounts config k s) := by
  cases c with
  | queued path source =>
    obtain ⟨hexact, hcontains⟩ := h.markItemQueued (hlib path (List.mem_singleton_self _)) source
    exact ⟨hexact, fun k => (hcontains k).trans (or_congr_right (and_iff_left id).symm)⟩
  | observed path =>
    obtain ⟨hexact, hcontains⟩ := h.markItemObserved (hlib path (List.mem_singleton_self _))
    exact ⟨hexact, fun k => (hcontains k).trans (or_congr_right (and_iff_left id).symm)⟩
  | completed path =>
    obtain ⟨hexact, hcounted⟩ := h.markItemCompleted config path
    refine ⟨hexact, fun k => Iff.trans ?_ (or_iff_right id).symm⟩
    change (s.markItemCompleted config path none).1.countedItems.contains k = true ↔ _
    rw [hcounted]
    exact (and_iff_left id).symm
  | removed path =>
    obtain ⟨hexact, hcontains⟩ := h.markItemRemoved (hlib path (List.mem_singleton_self _))
    exact ⟨hexact, fun k => (hcontains k).trans (or_iff_right id).symm⟩
  | moved source destination =>
    exact h.markItemMoved (hlib destination (List.mem_cons_of_mem _ (List.mem_singleton_self _)))
  | cancelled path =>
    obtain ⟨hexact, hcontains⟩ := h.cancelItemQueue config path
    exact ⟨hexact, fun k => (hcontains k).trans (or_iff_right id).symm⟩

end Inventory

open Switches in
/-- Behind the scan, whatever calls about items follow: each library has as many items, and as many that
    were scanned, as there are identities counted with its label; and an identity is counted if and only
    if a call has counted it and none has taken it away since then, or it was counted before and no call
    has taken it away. -/
theorem totals_stay_exact {config : InventoryConfig} {lib : ItemKey → Text} {s : Inventory}
    (h : s.Exact lib) {calls : List ItemCall} (hlib : ∀ c ∈ calls, s.Belongs config lib c.paths) :
    (∀ label l, (s.afterCalls config calls).libraries.get label = some l →
      l.total = (s.afterCalls config calls).countedItems.values.countP (· = label) ∧
      l.scanned = (s.afterCalls config calls).countedItems.values.countP (· = label)) ∧
    ∀ key, (s.afterCalls config calls).countedItems.contains key = true ↔
      (s.countedItems.contains key = true ∧
        Stays (Inventory.afterCall config) (fun s c => c.uncounts config key s) s calls) ∨
      SwitchedOn (Inventory.afterCall config) (fun s c => c.counts config key s)
        (fun s c => c.uncounts config key s) s calls := by
  let I : Inventory → Prop := fun s' => s'.Exact lib ∧ s'.home = s.home
  -- The libraries are where they were, so each path belongs to the same one throughout.
  have hbelongs : ∀ c ∈ calls, ∀ s', I s' → s'.Belongs config lib c.paths := fun c hc s' hs' path hpath key
    hkey => (hlib c hc path hpath key hkey).trans (congrFun hs'.2 path).symm
  have hI : ∀ c ∈ calls, ∀ s', I s' → I (s'.afterCall config c) := fun c hc s' hs' =>
    ⟨(hs'.1.afterCall (hbelongs c hc s' hs')).1, (Inventory.home_afterCall config s' c).trans hs'.2⟩
  have hexact : I (s.afterCalls config calls) :=
    List.foldlRecOn calls (Inventory.afterCall config) ⟨h, rfl⟩ fun s' hs' c hc => hI c hc s' hs'
  refine ⟨fun label l hl => ?_, fun key => ?_⟩
  · exact ⟨hexact.1.total.counted label l hl, hexact.1.scanned.counted label l hl⟩
  · exact holds_foldl_iff (I := I) (P := fun s' => s'.countedItems.contains key = true) ⟨h, rfl⟩ hI
      fun c hc s' hs' => (hs'.1.afterCall (hbelongs c hc s' hs')).2 key

/-- A scan of one library is over, which has found nothing. -/
def scannedLibrary : Inventory :=
  ((Inventory.new.armScan ⟨true, id⟩).layOut ⟨[some (text "/tv")], [], []⟩).conclude true

/-- The library of a path, which is its own identity here. -/
def libraryOf (key : ItemKey) : Text := (scannedLibrary.labelForNormalizedPath (some key)).getD otherLabel

/-- The books of the scanned library are exact. -/
theorem exact_scannedLibrary : scannedLibrary.Exact libraryOf := by
  have hlibraries : scannedLibrary.libraries.entries =
      [(text "Library 1", MutableLibrary.new (text "Library 1"))] := by decide +kernel
  have hzero : ∀ label l, scannedLibrary.libraries.get label = some l → l.total = 0 ∧ l.scanned = 0 := by
    intro label l hl
    rw [OrderedDict.get_eq_some, hlibraries, List.mem_singleton] at hl
    rw [(Prod.mk.inj hl).2]
    exact ⟨rfl, rfl⟩
  exact ⟨rfl, .nil fun label l hl => (hzero label l hl).1, .nil fun label l hl => (hzero label l hl).2,
    nofun, nofun, nofun, by decide +kernel⟩

/-- A file that comes while the scan is running. -/
def arrival : Option Text := some (text "/tv/a.mkv")

/-- Its name behind a move. -/
def newName : Option Text := some (text "/tv/b.mkv")

/-- The library of the items of the tests. -/
theorem belongs_scannedLibrary {c : ItemCall} (hc : c.paths ⊆ [arrival, newName]) :
    scannedLibrary.Belongs ⟨true, id⟩ libraryOf c.paths := by
  have hpaths : ∀ path ∈ [arrival, newName], ∀ key ∈ pathKey id path,
      libraryOf key = scannedLibrary.home path := by decide +kernel
  exact fun path hpath key hkey => hpaths path (hc hpath) key hkey

/-- An item arrives and is moved. -/
theorem totals_stay_exact_moved :
    ((scannedLibrary.afterCalls ⟨true, id⟩ [.observed arrival, .moved arrival newName]).libraries.get
      (text "Library 1")).map MutableLibrary.total = some 1 := by
  have hbelongs : ∀ c ∈ [ItemCall.observed arrival, .moved arrival newName],
      scannedLibrary.Belongs ⟨true, id⟩ libraryOf c.paths := by
    intro c hc
    refine belongs_scannedLibrary ?_
    rcases List.mem_pair.1 hc with rfl | rfl
    · exact List.cons_subset_cons _ (List.nil_subset _)
    · exact List.Subset.refl _
  obtain ⟨l, hl⟩ : ∃ l, (scannedLibrary.afterCalls ⟨true, id⟩
      [.observed arrival, .moved arrival newName]).libraries.get (text "Library 1") = some l :=
    OrderedDict.contains_iff.1 (by decide +kernel)
  rw [hl, Option.map_some, ((totals_stay_exact exact_scannedLibrary hbelongs).1 _ l hl).1]
  decide +kernel

/-! ## What is not so -/

/-- The totals are exact, and the labels are those of the libraries; nothing is said of the
    reservations, nor of the libraries that are there. -/
structure Inventory.Agrees (lib : ItemKey → Text) (s : Inventory) : Prop where
  finished : s.scanFinished = true
  exact : ∀ label l, s.libraries.get label = some l →
    l.total = s.countedItems.values.countP (· = label) ∧
      l.scanned = s.countedItems.values.countP (· = label)
  counted : ∀ key label, s.countedItems.get key = some label → label = lib key
  pending : ∀ key item, s.pendingItems.get key = some item → item.label = lib key

/-- The identity comes by the name of the call. -/
def ItemCall.comes (config : InventoryConfig) (key : ItemKey) : ItemCall → Prop
  | queued path _ | observed path | moved _ path => pathKey config.sha256 path = some key
  | _ => False

/-- The identity goes by the name of the call. -/
def ItemCall.goes (config : InventoryConfig) (key : ItemKey) : ItemCall → Prop
  | removed path | cancelled path | moved path _ => pathKey config.sha256 path = some key
  | _ => False

/-- A reservation that has counted an item which is not counted, beside one that is. -/
def strayReservation : Inventory :=
  { scannedLibrary with
    libraries := OrderedDict.empty.insert (text "Library 1") ⟨text "Library 1", 1, 1, 1⟩
    pendingItems := OrderedDict.empty.insert (text "/tv/a.mkv") ⟨text "Library 1", true, none⟩
    countedItems := OrderedDict.empty.insert (text "/tv/b.mkv") (text "Library 1") }

/-- The books agree with the libraries, but for the stray reservation. -/
theorem agrees_strayReservation : strayReservation.Agrees libraryOf := by
  have hlibraries : strayReservation.libraries.entries =
      [(text "Library 1", ⟨text "Library 1", 1, 1, 1⟩)] := by decide +kernel
  have hcounted : strayReservation.countedItems.entries = [(text "/tv/b.mkv", text "Library 1")] := by
    decide +kernel
  have hpending : strayReservation.pendingItems.entries =
      [(text "/tv/a.mkv", ⟨text "Library 1", true, none⟩)] := by decide +kernel
  refine ⟨rfl, fun label l hl => ?_, fun key label hget => ?_, fun key item hget => ?_⟩
  · rw [OrderedDict.get_eq_some, hlibraries, List.mem_singleton] at hl
    rw [(Prod.mk.inj hl).1, (Prod.mk.inj hl).2]
    decide +kernel
  · rw [OrderedDict.get_eq_some, hcounted, List.mem_singleton] at hget
    rw [(Prod.mk.inj hget).1, (Prod.mk.inj hget).2]
    decide +kernel
  · rw [OrderedDict.get_eq_some, hpending, List.mem_singleton] at hget
    rw [(Prod.mk.inj hget).1, (Prod.mk.inj hget).2]
    decide +kernel

open Switches in
/-- An item that was not counted is moved, and its new name is not counted. A stray reservation is
    rolled back, and a library has nothing although an identity is counted with its label. -/
theorem not_counted_by_name :
    (¬ ∀ (config : InventoryConfig) (lib : ItemKey → Text) (s : Inventory) (calls : List ItemCall),
      s.Exact lib → (∀ c ∈ calls, s.Belongs config lib c.paths) →
      ∀ key, (s.afterCalls config calls).countedItems.contains key = true ↔
        (s.countedItems.contains key = true ∧
          Stays (Inventory.afterCall config) (fun _ c => c.goes config key) s calls) ∨
        SwitchedOn (Inventory.afterCall config) (fun _ c => c.comes config key)
          (fun _ c => c.goes config key) s calls) ∧
    (¬ ∀ (config : InventoryConfig) (lib : ItemKey → Text) (s : Inventory) (calls : List ItemCall),
      s.Agrees lib → (∀ c ∈ calls, s.Belongs config lib c.paths) →
      ∀ label l, (s.afterCalls config calls).libraries.get label = some l →
        l.total = (s.afterCalls config calls).countedItems.values.countP (· = label)) := by
  constructor
  · intro h
    have hiff := h ⟨true, id⟩ libraryOf scannedLibrary [.moved arrival newName] exact_scannedLibrary
      (fun c hc => belongs_scannedLibrary (List.mem_singleton.1 hc ▸ List.Subset.refl _)) (text "/tv/b.mkv")
    have hcomes : (ItemCall.moved arrival newName).comes ⟨true, id⟩ (text "/tv/b.mkv") := by
      change pathKey id newName = some _
      decide +kernel
    exact absurd (hiff.2 (.inr ⟨[], _, [], rfl, hcomes, trivial⟩)) (by decide +kernel)
  · intro h
    have hbelongs : ∀ c ∈ [ItemCall.cancelled arrival],
        strayReservation.Belongs ⟨true, id⟩ libraryOf c.paths :=
      fun c hc => belongs_scannedLibrary
        (List.mem_singleton.1 hc ▸ List.cons_subset_cons _ (List.nil_subset _))
    obtain ⟨l, hl⟩ : ∃ l, (strayReservation.afterCalls ⟨true, id⟩
        [.cancelled arrival]).libraries.get (text "Library 1") = some l :=
      OrderedDict.contains_iff.1 (by decide +kernel)
    have htotal := h ⟨true, id⟩ libraryOf strayReservation [.cancelled arrival] agrees_strayReservation
      hbelongs (text "Library 1") l hl
    have hone : (strayReservation.afterCalls ⟨true, id⟩ [.cancelled arrival]).countedItems.values.countP
        (· = text "Library 1") = 1 := by decide +kernel
    have hzero : ((strayReservation.afterCalls ⟨true, id⟩ [.cancelled arrival]).libraries.get
        (text "Library 1")).map MutableLibrary.total = some 0 := by decide +kernel
    rw [hl, Option.map_some, Option.some.injEq, htotal, hone] at hzero
    exact absurd hzero (by decide)

end Subgen

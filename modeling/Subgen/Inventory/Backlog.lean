import Subgen.Inventory.Threads
import Subgen.Lib.Tally

/-!
# The backlog

Each item that waits has the label of a library, and each library counts the items with its label
(`Counted`). Most sections leave what that is about as it is (`backlog`); an item comes with `enqueue`
and goes with `dequeue`, a new layout gives the items other labels (`layOut`), and at the end of a scan
a library is counted anew (`reconcileFinalLibrary`).

The counters are a tally of the pending items by their labels (`Lib.Tally`), so that each section is one of
the moves of a tally. An item whose label has no library any more gets that of the library for the other items,
which is made for it. The code clamps its counters at zero; as each of them is the number of some items, no
clamp ever binds.

* `backlog_is_counted`: along every run of any number of threads.
-/

namespace Subgen

namespace Inventory

/-- The items that wait, the roots, and what each library has left. -/
def backlog (s : Inventory) :
    OrderedDict ItemKey PendingItem × List (Text × Text) × (Text → Option ℤ) :=
  (s.pendingItems, s.roots, fun label => (s.libraries.get label).map MutableLibrary.itemsLeft)

/-- The items that wait are counted by the libraries of their labels. The labels of the roots have
    libraries, too, so that an item can come. -/
structure Counted (s : Inventory) : Prop where
  tally : Tally PendingItem.label MutableLibrary.itemsLeft s.pendingItems.values s.libraries
  rooted : ∀ root ∈ s.roots, s.libraries.contains root.2

variable {s s' : Inventory} {config : InventoryConfig} {key : ItemKey} {path : Option Text}
  {label : Text} {generation : Option ℤ}

/-- Only the backlog matters. -/
theorem Counted.congr (h : Counted s) (heq : s'.backlog = s.backlog) : Counted s' := by
  obtain ⟨hpending, hrest⟩ := Prod.mk.inj heq
  obtain ⟨hroots, hlibraries⟩ := Prod.mk.inj hrest
  refine ⟨hpending ▸ h.tally.congr (congrFun hlibraries), fun root hroot => ?_⟩
  have hget := congrArg Option.isSome (congrFun hlibraries root.2)
  rw [Option.isSome_map, Option.isSome_map] at hget
  exact hget.trans (h.rooted root (hroots ▸ hroot))

/-- A library is changed, but not what it has left. -/
theorem backlog_modify {f : MutableLibrary → MutableLibrary} (hpending : s'.pendingItems = s.pendingItems)
    (hroots : s'.roots = s.roots) (hlibraries : s'.libraries = s.libraries.modify label f)
    (hf : ∀ l, (f l).itemsLeft = l.itemsLeft) : s'.backlog = s.backlog := by
  refine Prod.ext hpending (Prod.ext hroots (funext fun label' => ?_))
  change (s'.libraries.get label').map _ = (s.libraries.get label').map _
  rw [hlibraries, OrderedDict.get_modify]
  by_cases h : label' = label
  · rw [if_pos h, h, Option.map_map]
    exact congrArg (Option.map · _) (funext hf)
  · rw [if_neg h]

/-- What steps one after another leave as it is. -/
theorem backlog_foldl {α : Type} {f : Inventory → α → Inventory} (hf : ∀ s x, (f s x).backlog = s.backlog)
    (xs : List α) (s : Inventory) : (xs.foldl f s).backlog = s.backlog := by
  induction xs generalizing s with
  | nil => rfl
  | cons x xs ih => exact (ih (f s x)).trans (hf s x)

/-! ## What leaves the backlog as it is -/

/-- `stop` leaves the backlog alone. -/
theorem backlog_stop (s : Inventory) : s.stop.backlog = s.backlog := by
  unfold stop
  split <;> rfl

/-- So does a new total. -/
theorem backlog_setLibraryTotal (s : Inventory) (label : Text) (total : ℤ) (generation : Option ℤ) :
    (s.setLibraryTotal label total generation).backlog = s.backlog := by
  unfold setLibraryTotal
  split
  · rfl
  · exact backlog_modify rfl rfl rfl fun _ => rfl

/-- So does an item that is counted by the scan. -/
theorem backlog_recordCountedItem (config : InventoryConfig) (s : Inventory) (label : Text)
    (path : Option Text) (generation : Option ℤ) :
    (s.recordCountedItem config label path generation).backlog = s.backlog := by
  unfold recordCountedItem
  split
  · rfl
  · split <;> rfl

/-- So do items that were scanned. -/
theorem backlog_recordScanned (s : Inventory) (label : Text) (count : ℤ) (generation : Option ℤ) :
    (s.recordScanned label count generation).backlog = s.backlog := by
  unfold recordScanned
  split
  · rfl
  · exact backlog_modify rfl rfl rfl fun _ => rfl

/-- So does a single item that was scanned. -/
theorem backlog_recordScannedItem (config : InventoryConfig) (s : Inventory) (label : Text)
    (path : Option Text) (generation : Option ℤ) :
    (s.recordScannedItem config label path generation).backlog = s.backlog := by
  unfold recordScannedItem
  split
  · rfl
  · split
    · exact backlog_modify rfl rfl rfl fun _ => rfl
    · exact backlog_modify rfl rfl rfl fun _ => rfl

/-- So does an error. -/
theorem backlog_recordScanError (s : Inventory) (generation : Option ℤ) :
    (s.recordScanError generation).backlog = s.backlog := by
  unfold recordScanError
  split <;> rfl

/-- A removal that is noted is not in the backlog. -/
theorem backlog_noteRemoved (s : Inventory) (key : ItemKey) (known : Bool) (generation : Option ℤ) :
    (s.noteRemoved key known generation).backlog = s.backlog := by
  unfold noteRemoved
  split <;> rfl

/-- What is taken from the totals is not taken from the items that are left. -/
theorem itemsLeft_uncount (wasScanned : Bool) (l : MutableLibrary) :
    (uncount wasScanned l).itemsLeft = l.itemsLeft := rfl

/-- The old path of a file is no longer counted, and the backlog is the same. -/
theorem backlog_uncountMoved (s : Inventory) (source : ItemKey) (counted : Text)
    (transferred : Option Text) (before : Inventory) :
    (s.uncountMoved source counted transferred before).backlog = s.backlog := by
  unfold uncountMoved
  split
  · rfl
  · exact backlog_modify rfl rfl rfl (itemsLeft_uncount _)

/-- The count of a file goes over to its new path, and the backlog is the same. -/
theorem backlog_transfer (s : Inventory) (source destination : ItemKey) (counted label : Text)
    (before : Inventory) (generation : Option ℤ) :
    (s.transfer source destination counted label before generation).backlog = s.backlog := by
  unfold transfer
  split
  · rfl
  · dsimp only
    have hmoved : ∀ s' : Inventory, (if s.scanFinished then s'
        else s'.addRuntimeItem destination label generation).backlog = s'.backlog := fun s' => by
      split <;> rfl
    rw [hmoved]
    by_cases h : counted = label
    · rw [if_pos h]
      rfl
    · rw [if_neg h]
      exact backlog_modify rfl rfl rfl fun _ => rfl

/-- A count is taken back, and the backlog is the same. -/
theorem backlog_takeBack (s : Inventory) (label : Text) (key : ItemKey) :
    (s.takeBack label key).backlog = s.backlog :=
  backlog_modify rfl rfl rfl fun _ => rfl

/-- An arrival is counted, and the backlog is the same. -/
theorem backlog_countRuntimeItem (s : Inventory) (entry : ItemKey × Text) :
    (s.countRuntimeItem entry).backlog = s.backlog := by
  unfold countRuntimeItem
  split
  · rfl
  · dsimp only
    split
    · rfl
    · split
      · exact backlog_modify rfl rfl rfl fun _ => rfl
      · exact backlog_modify rfl rfl rfl fun _ => rfl

/-- What was not visited is dropped from the totals only. -/
theorem backlog_dropUnvisited (s : Inventory) (entry : Text × Finset ItemKey) :
    (s.dropUnvisited entry).backlog = s.backlog :=
  backlog_modify rfl rfl rfl fun _ => rfl

/-- The end of a scan counts the arrivals in the totals only. -/
theorem backlog_reconcileRuntimeAdditions (s : Inventory) (dropsUnvisited : Bool) :
    (s.reconcileRuntimeAdditions dropsUnvisited).backlog = s.backlog := by
  have hcounted := backlog_foldl backlog_countRuntimeItem s.runtimeItemsDuringScan.entries s
  unfold reconcileRuntimeAdditions
  rcases dropsUnvisited with _ | _
  · exact hcounted
  · exact (backlog_foldl backlog_dropUnvisited _ _).trans hcounted

/-- The scan ends, and the backlog is the same. -/
theorem backlog_conclude (s : Inventory) (successful : Bool) :
    (s.conclude successful).backlog = s.backlog :=
  backlog_reconcileRuntimeAdditions _ _

/-- `finish_scan` leaves the backlog alone. -/
theorem backlog_finishScan (s : Inventory) (successful : Bool) (generation : Option ℤ) :
    (s.finishScan successful generation).1.backlog = s.backlog := by
  unfold finishScan
  split
  · rfl
  · dsimp only
    split
    · rfl
    · exact backlog_conclude _ _

/-- So it does behind its wait. -/
theorem backlog_resumeFinish (s : Inventory) (generation : ℤ) :
    (s.resumeFinish generation).backlog = s.backlog := by
  unfold resumeFinish
  split
  · exact backlog_conclude _ _
  · exact backlog_conclude _ _

/-- So does the watchdog. -/
theorem backlog_expireScan (s : Inventory) (generation : Option ℤ) :
    (s.expireScan generation).backlog = s.backlog := by
  unfold expireScan
  split
  · rfl
  · exact backlog_reconcileRuntimeAdditions _ _

/-- So does a file event that begins. -/
theorem backlog_acquireScanEvent (s : Inventory) : s.acquireScanEvent.1.backlog = s.backlog := by
  unfold acquireScanEvent
  split <;> rfl

/-- So does a file event that ends. -/
theorem backlog_releaseScanEvent (s : Inventory) (generation : ℤ) :
    (s.releaseScanEvent generation).backlog = s.backlog := by
  unfold releaseScanEvent
  split <;> rfl

/-- So does the cutoff. -/
theorem backlog_closeScanEventCutoff (s : Inventory) (generation : Option ℤ) :
    (s.closeScanEventCutoff generation).backlog = s.backlog := by
  unfold closeScanEventCutoff
  split <;> rfl

/-! ## Items come and go -/

/-- The library of a path is the one of a root. -/
theorem labelForPath_mem (h : s.labelForPath path = some label) : ∃ root ∈ s.roots, root.2 = label := by
  obtain ⟨_, -, hfind⟩ := Option.bind_eq_some_iff.1 h
  obtain ⟨root, hroot, rfl⟩ := Option.map_eq_some_iff.1 hfind
  exact ⟨root, List.mem_of_find?_eq_some hroot, rfl⟩

/-- A path has the label of a library, and the others stay as they are. -/
theorem Counted.bindLabel (h : Counted s) (path : Option Text) :
    (s.bindLabel path).2.contains (s.bindLabel path).1 ∧
      Counted { s with libraries := (s.bindLabel path).2 } := by
  unfold Inventory.bindLabel
  split
  · next label hlabel =>
    obtain ⟨root, hroot, rfl⟩ := labelForPath_mem hlabel
    exact ⟨h.rooted root hroot, h⟩
  · refine ⟨(OrderedDict.contains_setDefault ..).2 (.inl rfl), h.tally.setDefault _ rfl, fun root hroot => ?_⟩
    exact (OrderedDict.contains_setDefault ..).2 (.inr (h.rooted root hroot))

/-- An item comes into a library that is there. -/
theorem Counted.add (h : Counted s) (item : PendingItem) {f : MutableLibrary → MutableLibrary}
    (hkey : s.pendingItems.get key = none) (hlabel : s.libraries.contains item.label)
    (hf : ∀ l, (f l).itemsLeft = l.itemsLeft + 1) :
    Counted { s with
      pendingItems := s.pendingItems.insert key item
      libraries := s.libraries.modify item.label f } where
  tally := by
    obtain ⟨l, hl⟩ := OrderedDict.contains_iff.1 hlabel
    rw [OrderedDict.values_insert_of_none hkey]
    exact (h.tally.cons hl (hf l)).perm (List.perm_append_singleton item _).symm
  rooted root hroot := (OrderedDict.contains_modify ..).trans (h.rooted root hroot)

/-- An item that is enqueued is one more that is left. -/
theorem itemsLeft_enqueued (counted : Bool) (l : MutableLibrary) :
    (l.enqueued counted).itemsLeft = l.itemsLeft + 1 := by
  unfold MutableLibrary.enqueued
  dsimp only
  split <;> rfl

/-- An item that was not pending is counted once. -/
theorem Counted.enqueue (h : Counted s) (hkey : s.pendingItems.get key = none) (path : Option Text)
    (source : Text) (generation : Option ℤ) : Counted (s.enqueue key path source generation) := by
  obtain ⟨hlabel, hbound⟩ := h.bindLabel path
  refine (hbound.add ⟨_, s.scanFinished && !s.countedItems.contains key, generation⟩ hkey hlabel
    (itemsLeft_enqueued (s.scanFinished && !s.countedItems.contains key))).congr ?_
  unfold Inventory.enqueue
  dsimp only
  split
  · rfl
  · split <;> rfl

/-- A library that has an item has one less without it: the bound of the subtraction does not matter. -/
theorem Counted.dequeue (h : Counted s) (key : ItemKey) :
    Counted (s.dequeue key (s.pendingItems.get key)) := by
  rcases hget : s.pendingItems.get key with _ | item
  · exact h
  · refine ⟨(h.tally.perm (OrderedDict.perm_values_of_get hget)).uncons fun l hl => ?_, fun root hroot => ?_⟩
    · have hone := h.tally.one_le (OrderedDict.mem_values_of_get hget) hl
      exact max_eq_right (by linarith)
    · exact (OrderedDict.contains_modify ..).trans (h.rooted root hroot)

/-- A reservation counts its item. -/
theorem Counted.markItemQueued (h : Counted s) (config : InventoryConfig) (path : Option Text)
    (source : Text) (generation : Option ℤ) : Counted (s.markItemQueued config path source generation).1 := by
  unfold Inventory.markItemQueued
  split
  · exact h
  · next key _ =>
    split
    · exact h
    · next hnot =>
      have hkey : s.pendingItems.get key = none := by
        by_contra hsome
        exact hnot (.inr (.inr (Option.isSome_iff_ne_none.2 hsome)))
      exact h.enqueue hkey path source generation

/-- An arrival that is only observed does not change the backlog. -/
theorem Counted.markItemObserved (h : Counted s) (config : InventoryConfig) (path : Option Text)
    (generation : Option ℤ) : Counted (s.markItemObserved config path generation).1 := by
  unfold Inventory.markItemObserved
  split
  · exact h
  · split
    · exact h
    · refine (h.bindLabel path).2.congr ?_
      unfold observe
      dsimp only
      split
      · exact backlog_modify rfl rfl rfl fun _ => rfl
      · rfl

/-- A completed item is taken off once. -/
theorem Counted.markItemCompleted (h : Counted s) (config : InventoryConfig) (path : Option Text)
    (generation : Option ℤ) : Counted (s.markItemCompleted config path generation).1 := by
  unfold Inventory.markItemCompleted
  split
  · exact h
  · next key _ =>
    split
    · exact h
    · split
      · exact h
      · next item hget => exact (hget ▸ h.dequeue key : Counted (s.dequeue key (some item))).congr rfl

/-- So is a cancelled one. -/
theorem Counted.cancelItemQueue (h : Counted s) (config : InventoryConfig) (path : Option Text)
    (generation : Option ℤ) : Counted (s.cancelItemQueue config path generation).1 := by
  unfold Inventory.cancelItemQueue
  split
  · exact h
  · next key _ =>
    split
    · exact h
    · split
      · exact h
      · next item hget =>
        have hgone : Counted (s.dequeue key (some item)) := hget ▸ h.dequeue key
        dsimp only
        split
        · exact hgone.congr (backlog_takeBack _ _ _)
        · exact hgone.congr rfl

/-- So is a removed one. -/
theorem Counted.markItemRemoved (h : Counted s) (config : InventoryConfig) (path : Option Text)
    (generation : Option ℤ) : Counted (s.markItemRemoved config path generation).1 := by
  unfold Inventory.markItemRemoved
  split
  · exact h
  · next key _ =>
    split
    · exact h
    · have hgone := (h.dequeue key).congr (backlog_noteRemoved ((s.dequeue key _).leaveScan key) key
        (s.isKnown key) generation)
      dsimp only
      split
      · exact hgone.congr (backlog_modify rfl rfl rfl (itemsLeft_uncount _))
      · exact hgone

/-- A file that moves takes its item along. -/
theorem Counted.markItemMoved (h : Counted s) (config : InventoryConfig) (source destination : Option Text)
    (generation : Option ℤ) : Counted (s.markItemMoved config source destination generation).1 := by
  unfold Inventory.markItemMoved
  split
  · next key _ _ _ =>
    split
    · exact h
    · have hgone := (h.dequeue key).congr (backlog_noteRemoved ((s.dequeue key _).leaveScan key) key
        (s.isKnown key) generation)
      split
      · exact hgone
      · have hmoved := fun counted transferred =>
          hgone.congr (backlog_uncountMoved _ key counted transferred s)
        dsimp only
        split
        · exact hmoved _ _
        · exact (hmoved _ _).congr (backlog_transfer ..)
  · exact h

/-! ## A new layout -/

/-- Nothing is left in the libraries of a layout, and its roots have the labels of them. -/
structure LayoutBindings.Fresh (found : LayoutBindings) : Prop where
  empty : ∀ label l, found.libraries.get label = some l → l.itemsLeft = 0
  rooted : ∀ root ∈ found.roots, found.libraries.contains root.2

/-- The libraries of a new layout are empty. -/
theorem fresh_bindings (layout : ScanLayout) : LayoutBindings.Fresh layout.bindings := by
  suffices hfold : ∀ (xs : List (Option Text × ℕ)) found, LayoutBindings.Fresh found →
      LayoutBindings.Fresh (xs.foldl layout.bindPath found) by
    have hfresh := hfold layout.paths.zipIdx ⟨[], [], .empty⟩ ⟨fun _ _ => nofun, nofun⟩
    exact ⟨hfresh.empty, fun root hroot => hfresh.rooted root (List.mem_mergeSort.1 hroot)⟩
  intro xs
  induction xs with
  | nil => exact fun _ h => h
  | cons entry xs ih =>
    refine fun found h => ih _ ⟨fun label l hl => ?_, fun root hroot => ?_⟩
    · rw [ScanLayout.bindPath, OrderedDict.get_insert] at hl
      split at hl
      · exact Option.some.inj hl ▸ rfl
      · exact h.empty label l hl
    · rw [ScanLayout.bindPath] at hroot ⊢
      rw [OrderedDict.contains_insert]
      rcases List.mem_append.1 hroot with hroot | hroot
      · exact .inr (h.rooted root hroot)
      · obtain ⟨_, -, rfl⟩ := List.mem_map.1 hroot
        exact .inl rfl

/-- The items are bound one after another, and counted by then. -/
structure Rebinding (s : Inventory) (done rest : List (ItemKey × PendingItem)) : Prop where
  entries : s.pendingItems.entries = done ++ rest
  tally : Tally PendingItem.label MutableLibrary.itemsLeft (done.map Prod.snd) s.libraries
  rooted : ∀ root ∈ s.roots, s.libraries.contains root.2

/-- One pending item is counted in its new library. -/
theorem Rebinding.rebind {done rest : List (ItemKey × PendingItem)} {entry : ItemKey × PendingItem}
    (h : Rebinding s done (entry :: rest)) :
    Rebinding (s.rebind entry)
      (done ++ [(entry.1, { entry.2 with label := s.reboundLabel entry.1 entry.2 })]) rest where
  entries := by
    rw [List.append_assoc, List.singleton_append, Inventory.rebind]
    dsimp only
    split
    · next hlabel => rw [hlabel, h.entries]
    · exact OrderedDict.entries_insert_of_append h.entries _
  tally := by
    set label := s.reboundLabel entry.1 entry.2
    have htally := h.tally.setDefault label (r := .new label) rfl
    obtain ⟨l, hl⟩ := OrderedDict.contains_iff.1
      ((OrderedDict.contains_setDefault s.libraries label label (.new label)).2 (.inl rfl))
    rw [List.map_append]
    exact (htally.cons (x := { entry.2 with label := label }) hl (itemsLeft_enqueued false l)).perm
      (List.perm_append_singleton _ _).symm
  rooted root hroot := by
    rw [Inventory.rebind, OrderedDict.contains_modify, OrderedDict.contains_setDefault]
    exact .inr (h.rooted root hroot)

/-- All of them are. -/
theorem Rebinding.foldl (done : List (ItemKey × PendingItem)) {rest : List (ItemKey × PendingItem)}
    (h : Rebinding s done rest) :
    Counted (rest.foldl Inventory.rebind s) := by
  induction rest generalizing s done with
  | nil =>
    have hentries := h.entries
    rw [List.append_nil] at hentries
    refine ⟨?_, h.rooted⟩
    rw [List.foldl_nil, OrderedDict.values, hentries]
    exact h.tally
  | cons entry rest ih => exact ih _ h.rebind

/-- A new layout counts the pending items again. -/
theorem Counted.layOut (h : Counted s) (layout : ScanLayout) : Counted (s.layOut layout) := by
  have hfresh := fresh_bindings layout
  unfold Inventory.layOut
  dsimp only
  split
  · exact h
  · exact Rebinding.foldl [] ⟨rfl, .nil hfresh.empty, hfresh.rooted⟩

/-! ## A library is counted anew -/

/-- The items that are dropped are no longer pending. -/
theorem foldl_dropItem (xs : List (ItemKey × PendingItem)) (s : Inventory) :
    (xs.foldl dropItem s).pendingItems.entries =
        s.pendingItems.entries.filter (fun entry => entry.1 ∉ xs.map Prod.fst) ∧
      (xs.foldl dropItem s).roots = s.roots ∧ (xs.foldl dropItem s).libraries = s.libraries := by
  induction xs generalizing s with
  | nil => simp
  | cons x xs ih =>
    obtain ⟨hentries, hrest⟩ := ih (s.dropItem x)
    refine ⟨?_, hrest⟩
    rw [List.foldl_cons, hentries]
    change List.filter _ (List.filter _ _) = _
    rw [List.filter_filter]
    refine List.filter_congr fun entry _ => ?_
    rw [List.map_cons, Bool.eq_iff_iff]
    simp only [Bool.and_eq_true, decide_eq_true_iff, List.mem_cons, not_or]
    exact and_comm

/-- The items that a library had, but that are no files of it, are dropped. -/
theorem entries_dropPending (s : Inventory) (label : Text) (keys : List ItemKey) :
    (s.dropPending label keys).pendingItems.entries =
      s.pendingItems.entries.filter fun entry => !s.isDropped label keys entry.1 entry.2 := by
  rw [dropPending, (foldl_dropItem _ s).1]
  refine List.filter_congr fun entry hentry => ?_
  rw [Bool.eq_iff_iff, decide_eq_true_iff, Bool.not_eq_true', ← Bool.not_eq_true, not_iff_not]
  constructor
  · intro hmem
    -- The keys are different, so that the entry with this one is the one that is dropped.
    obtain ⟨dropped, hdropped, hkey⟩ := List.mem_map.1 hmem
    obtain ⟨hin, hcond⟩ := List.mem_filter.1 hdropped
    exact List.inj_on_of_nodup_map s.pendingItems.nodup hin hentry hkey ▸ hcond
  · exact fun hcond => List.mem_map_of_mem (List.mem_filter.2 ⟨hentry, hcond⟩)

/-- Only items with the label are dropped. -/
theorem countP_dropPending (s : Inventory) (label : Text) (keys : List ItemKey) {other : Text}
    (hother : other ≠ label) : (s.dropPending label keys).pendingItems.values.countP (·.label = other) =
      s.pendingItems.values.countP (·.label = other) := by
  rw [OrderedDict.values, entries_dropPending, List.countP_map, List.countP_filter, OrderedDict.values,
    List.countP_map]
  refine List.countP_congr fun entry _ => ?_
  rw [Bool.and_eq_true, Function.comp_apply, decide_eq_true_iff]
  refine and_iff_left_of_imp fun hlabel => ?_
  rw [Bool.not_eq_true', isDropped, decide_eq_false_iff_not]
  exact fun hdropped => hother (hlabel.symm.trans hdropped.1)

/-- The arrivals that are settled leave the backlog alone. -/
theorem settleRuntimeItems_frame (s : Inventory) (label : Text) (keys : List ItemKey) :
    (s.settleRuntimeItems label keys).pendingItems = s.pendingItems ∧
      (s.settleRuntimeItems label keys).roots = s.roots ∧
      (s.settleRuntimeItems label keys).libraries = s.libraries := by
  have hfold : ∀ (xs : List (ItemKey × Text)) (s : Inventory),
      (xs.foldl (fun s => s.settleRuntimeItem label keys) s).pendingItems = s.pendingItems ∧
        (xs.foldl (fun s => s.settleRuntimeItem label keys) s).roots = s.roots ∧
        (xs.foldl (fun s => s.settleRuntimeItem label keys) s).libraries = s.libraries := by
    intro xs
    induction xs with
    | nil => exact fun s => ⟨rfl, rfl, rfl⟩
    | cons x xs ih =>
      intro s
      obtain ⟨hpending, hroots, hlibraries⟩ := ih (s.settleRuntimeItem label keys x)
      rw [List.foldl_cons, hpending, hroots, hlibraries, settleRuntimeItem]
      split <;> exact ⟨rfl, rfl, rfl⟩
  exact hfold _ s

/-- A last listing drops the items that it does not have. -/
theorem Counted.reconcileFinalLibrary (h : Counted s) (config : InventoryConfig) (label : Text)
    (paths : List (Option Text)) (generation : ℤ) :
    Counted (s.reconcileFinalLibrary config label paths generation) := by
  unfold Inventory.reconcileFinalLibrary
  split
  · exact h
  · dsimp only
    set keys := s.finalKeys config paths
    set s₁ := s.recountItems label keys
    obtain ⟨-, hroots, hlibraries⟩ := foldl_dropItem
      (s₁.pendingItems.entries.filter fun entry => s₁.isDropped label keys entry.1 entry.2) s₁
    obtain ⟨hpending', hroots', hlibraries'⟩ := settleRuntimeItems_frame (s₁.dropPending label keys) label keys
    have hlibs := hlibraries'.trans hlibraries
    refine ⟨?_, fun root hroot => ?_⟩
    · rw [recountLibrary]
      dsimp only
      rw [hlibs, hpending']
      refine h.tally.recount (fun item hitem => ?_) (fun other => countP_dropPending s₁ label keys) fun _ _ => rfl
      rw [OrderedDict.values, entries_dropPending] at hitem
      exact (List.filter_sublist.map _).subset hitem
    · rw [recountLibrary, OrderedDict.contains_modify, hlibs]
      exact h.rooted root (hroots'.trans hroots ▸ hroot)

/-! ## Runs -/

/-- At first nothing is pending. -/
theorem counted_new : Counted new := ⟨.nil fun _ _ => nofun, nofun⟩

/-- Behind the arming of a scan nothing is pending. -/
theorem counted_armScan (config : InventoryConfig) (s : Inventory) : Counted (s.armScan config) :=
  ⟨.nil fun _ _ => nofun, nofun⟩

/-- Every call keeps the count. -/
theorem Counted.perform (h : Counted s) (config : InventoryConfig) (call : InventoryCall) :
    Counted (call.perform config s) := by
  cases call with
  | stop => exact h.congr (backlog_stop s)
  | armScan => exact counted_armScan config s
  | beginScan => exact h
  | setLibraryTotal => exact h.congr (backlog_setLibraryTotal ..)
  | recordCountedItem => exact h.congr (backlog_recordCountedItem ..)
  | recordScanned => exact h.congr (backlog_recordScanned ..)
  | recordScannedItem => exact h.congr (backlog_recordScannedItem ..)
  | recordScanError => exact h.congr (backlog_recordScanError ..)
  | markItemQueued path source generation => exact h.markItemQueued config path source generation
  | markItemObserved path generation => exact h.markItemObserved config path generation
  | markItemCompleted path generation => exact h.markItemCompleted config path generation
  | markItemRemoved path generation => exact h.markItemRemoved config path generation
  | markItemMoved source destination generation => exact h.markItemMoved config source destination generation
  | cancelItemQueue path generation => exact h.cancelItemQueue config path generation
  | finishScan => exact h.congr (backlog_finishScan ..)
  | expireScan => exact h.congr (backlog_expireScan ..)
  | waitUntilScanned => exact h
  | acquireScanEvent => exact h.congr (backlog_acquireScanEvent s)
  | releaseScanEvent => exact h.congr (backlog_releaseScanEvent ..)
  | closeScanEventCutoff => exact h.congr (backlog_closeScanEventCutoff ..)
  | waitForScanEvents => exact h
  | reconcileFinalLibrary label paths generation => exact h.reconcileFinalLibrary config label paths generation

/-- Every step does. -/
theorem Counted.step (h : Counted s) {ch : InventoryChoice} {l l' : InventoryThread}
    (hstep : inventoryStep config ch s l = some (s', l')) : Counted s' := by
  rcases step_of_inventoryStep hstep with _ | _ | _ | _ | _ | _
  · exact h.perform config ch.call
  · exact h
  · exact counted_armScan config s
  · exact h.layOut _
  · exact h.congr (backlog_resumeFinish s _)
  · exact h.congr (backlog_expireScan s _)

end Inventory

open Interleaving in
/-- In every state that any threads reach, the label of each item that waits names a library, which
    has one item less when that item is gone; each library has as many items left as there are items
    with its label, and together they have all of them. -/
theorem backlog_is_counted {config : InventoryConfig} {n : ℕ} {c : Config Inventory InventoryThread}
    (h : Runs (ofStep (inventoryStep config)) ⟨.new, List.replicate n .start⟩ c) :
    (∀ key item, c.shared.pendingItems.get key = some item →
      ∃ l, c.shared.libraries.get item.label = some l ∧ l.dequeued.itemsLeft = l.itemsLeft - 1) ∧
    (∀ label l, c.shared.libraries.get label = some l →
      l.itemsLeft = c.shared.pendingItems.values.countP (·.label = label)) ∧
    c.shared.snapshot.itemsLeft =
      (c.shared.snapshot.libraries.map LibraryInventory.itemsLeft).sum := by
  have hcounted : c.shared.Counted :=
    h.invariant (I := fun c => c.shared.Counted) Inventory.counted_new
      fun _ _ _ _ _ hc hmoves => hc.step hmoves.step.choose_spec
  refine ⟨fun key item hget => ?_, hcounted.tally.counted, ?_⟩
  · have hmem := OrderedDict.mem_values_of_get hget
    obtain ⟨l, hl⟩ := hcounted.tally.named item hmem
    have hone := hcounted.tally.one_le hmem hl
    exact ⟨l, hl, max_eq_right (by linarith)⟩
  · have hlength : c.shared.pendingItems.values.length = c.shared.pendingItems.entries.length :=
      List.length_map _
    rw [Inventory.snapshot, Inventory.librarySnapshots, List.map_map, ← hlength]
    exact hcounted.tally.sum_eq.symm

open Interleaving in
/-- An item of no library is queued, and then a layout has a root for it. -/
theorem backlog_is_counted_laid_out : ∃ c : Config Inventory InventoryThread,
    c.shared.libraries.values = [⟨text "Library 1", 0, 0, 1⟩] ∧
      c.shared.snapshot.itemsLeft = (c.shared.snapshot.libraries.map LibraryInventory.itemsLeft).sum := by
  have hexec : (exec (inventoryStep ⟨true, id⟩) ⟨.new, List.replicate 1 .start⟩
      [(0, ⟨.armScan, false⟩), (0, ⟨.markItemQueued (some (text "/tv/a.mkv")) (text "runtime") none, false⟩),
        (0, ⟨.beginScan ⟨[some (text "/tv")], [], []⟩, false⟩), (0, ⟨.stop, false⟩)]).map
      (fun c => c.shared.libraries.values) = some [⟨text "Library 1", 0, 0, 1⟩] := by
    decide +kernel
  obtain ⟨c, hc, hvalues⟩ := Option.map_eq_some_iff.1 hexec
  exact ⟨c, hvalues, (backlog_is_counted (runs_of_exec _ hc fun a _ _ _ _ h => ⟨a, h⟩)).2.2⟩

end Subgen

import Subgen.Inventory.OtherLibrary

/-!
# Reservations that are rolled back

A reservation that is cancelled at once leaves the state as it was, if nothing was noted of the identity
before (`Unnoted`); it may leave an empty library for the items that belong to none (`rolledBack_eq`).
The libraries never have negative numbers by then (`NonNegative.step`), so that what was added can be
taken away again.

The state with the empty library is beside the state without it: any call leads from two such states to two
such states again, with the same answer, as long as it names no library that only one of them has. So the
two runs that go on from there publish the same.

* `cancel_of_enqueue`: a reservation and its cancellation, one behind the other;
* `rolledBack_eq`: the state that they leave, in both cases;
* `rollback_leaves_no_trace`: no steps of any threads can tell that there was such a reservation;
* `rollback_forgets_arrival`: but an arrival that was noted is forgotten.
-/

namespace Subgen

namespace Inventory

variable {config : InventoryConfig} {s s' : Inventory} {key : ItemKey} {label : Text}
  {path : Option Text} {generation : Option ℤ} {f : MutableLibrary → MutableLibrary}

/-! ## The numbers of the libraries -/

/-- The totals of the libraries are not negative. -/
structure NonNegative (s : Inventory) : Prop where
  nonneg : ∀ label l, s.libraries.get label = some l → 0 ≤ l.total ∧ 0 ≤ l.scanned

/-- Only the libraries matter. -/
theorem NonNegative.congr (h : NonNegative s) (heq : s'.libraries = s.libraries) : NonNegative s' :=
  ⟨heq ▸ h.nonneg⟩

/-- A library is changed by something that keeps its counts. -/
theorem NonNegative.modify (h : NonNegative s) (heq : s'.libraries = s.libraries.modify label f)
    (hf : ∀ l, 0 ≤ l.total → 0 ≤ l.scanned → 0 ≤ (f l).total ∧ 0 ≤ (f l).scanned) : NonNegative s' := by
  refine ⟨fun a l hl => ?_⟩
  rw [heq, OrderedDict.get_modify] at hl
  by_cases ha : a = label
  · rw [if_pos ha] at hl
    obtain ⟨l', hl', rfl⟩ := Option.map_eq_some_iff.1 hl
    exact hf l' (h.nonneg label l' hl').1 (h.nonneg label l' hl').2
  · rw [if_neg ha] at hl
    exact h.nonneg a l hl

/-- A new library is empty. -/
theorem NonNegative.setDefault (h : NonNegative s) (label : Text) :
    NonNegative { s with libraries := s.libraries.setDefault label (.new label) } := by
  refine ⟨fun a l hl => ?_⟩
  dsimp only at hl
  rw [OrderedDict.get_setDefault] at hl
  by_cases ha : a = label
  · rw [if_pos ha, Option.some.injEq] at hl
    rcases hget : s.libraries.get label with _ | l'
    · rw [hget, Option.getD_none] at hl
      rw [← hl]
      exact ⟨le_rfl, le_rfl⟩
    · rw [hget, Option.getD_some] at hl
      exact hl ▸ h.nonneg label l' hget
  · rw [if_neg ha] at hl
    exact h.nonneg a l hl

/-- A path gets its library. -/
theorem NonNegative.bindLabel (h : NonNegative s) (path : Option Text) :
    NonNegative { s with libraries := (s.bindLabel path).2 } := by
  unfold Inventory.bindLabel
  split
  · exact h
  · exact h.setDefault otherLabel

/-- A loop keeps the counts if one round does. -/
theorem nonNegative_foldl {α : Type} {f : Inventory → α → Inventory}
    (hf : ∀ s x, NonNegative s → NonNegative (f s x)) (xs : List α) (h : NonNegative s) :
    NonNegative (xs.foldl f s) :=
  List.foldlRecOn xs f h fun s hs x _ => hf s x hs

/-- Items are added to a library. -/
theorem addScanned_nonneg {count : ℤ} (hcount : 0 ≤ count) (l : MutableLibrary) (htotal : 0 ≤ l.total)
    (hscanned : 0 ≤ l.scanned) : 0 ≤ (addScanned count l).total ∧ 0 ≤ (addScanned count l).scanned :=
  ⟨htotal.trans (le_max_left _ _), add_nonneg hscanned hcount⟩

/-- What is taken away is bounded by what is there. -/
theorem uncount_nonneg (wasScanned : Bool) (l : MutableLibrary) (_ : 0 ≤ l.total) (hscanned : 0 ≤ l.scanned) :
    0 ≤ (uncount wasScanned l).total ∧ 0 ≤ (uncount wasScanned l).scanned := by
  refine ⟨le_max_left _ _, le_min ?_ (le_max_left _ _)⟩
  split
  · exact le_max_left _ _
  · exact hscanned

section

variable (h : NonNegative s)
include h

/-- `stop` leaves the libraries. -/
theorem NonNegative.stop : NonNegative s.stop := h.congr (by unfold Inventory.stop; split <;> rfl)

/-- A total is at least zero. -/
theorem NonNegative.setLibraryTotal (label : Text) (total : ℤ) (generation : Option ℤ) :
    NonNegative (s.setLibraryTotal label total generation) := by
  unfold Inventory.setLibraryTotal
  split
  · exact h
  · exact h.modify rfl fun l _ hscanned => ⟨hscanned.trans (le_max_right _ _), hscanned⟩

/-- An item is counted. -/
theorem NonNegative.recordCountedItem (config : InventoryConfig) (label : Text) (path : Option Text)
    (generation : Option ℤ) : NonNegative (s.recordCountedItem config label path generation) := by
  unfold Inventory.recordCountedItem
  split
  · exact h
  · split
    · exact h
    · exact h.congr rfl

/-- Some items are scanned. -/
theorem NonNegative.recordScanned (label : Text) (count : ℤ) (generation : Option ℤ) :
    NonNegative (s.recordScanned label count generation) := by
  unfold Inventory.recordScanned
  split
  · exact h
  · next hcount => exact h.modify rfl (addScanned_nonneg (not_le.1 (not_or.1 hcount).1).le)

/-- An item is scanned. -/
theorem NonNegative.recordScannedItem (config : InventoryConfig) (label : Text) (path : Option Text)
    (generation : Option ℤ) : NonNegative (s.recordScannedItem config label path generation) := by
  unfold Inventory.recordScannedItem
  split
  · exact h
  · split
    · exact h.modify rfl (addScanned_nonneg zero_le_one)
    · exact h.modify rfl (addScanned_nonneg zero_le_one)

/-- An item is enqueued. -/
theorem NonNegative.enqueue (key : ItemKey) (path : Option Text) (source : Text) (generation : Option ℤ) :
    NonNegative (s.enqueue key path source generation) := by
  have henqueued : ∀ (counted : Bool) (l : MutableLibrary), 0 ≤ l.total → 0 ≤ l.scanned →
      0 ≤ (l.enqueued counted).total ∧ 0 ≤ (l.enqueued counted).scanned := by
    intro counted l htotal hscanned
    cases counted
    · exact ⟨htotal, hscanned⟩
    · exact ⟨add_nonneg htotal zero_le_one, add_nonneg hscanned zero_le_one⟩
  have hbound := h.bindLabel path
  unfold Inventory.enqueue
  dsimp only
  split
  · exact hbound.modify rfl (henqueued _)
  · split
    · exact hbound.modify rfl (henqueued _)
    · exact hbound.modify rfl (henqueued _)

/-- A reservation is taken. -/
theorem NonNegative.markItemQueued (config : InventoryConfig) (path : Option Text) (source : Text)
    (generation : Option ℤ) : NonNegative (s.markItemQueued config path source generation).1 := by
  unfold Inventory.markItemQueued
  split
  · exact h
  · split
    · exact h
    · exact h.enqueue ..

/-- An arrival is observed. -/
theorem NonNegative.markItemObserved (config : InventoryConfig) (path : Option Text)
    (generation : Option ℤ) : NonNegative (s.markItemObserved config path generation).1 := by
  unfold Inventory.markItemObserved
  split
  · exact h
  · split
    · exact h
    · have hbound := h.bindLabel path
      unfold Inventory.observe
      dsimp only
      split
      · exact hbound.modify rfl fun l htotal hscanned =>
          ⟨add_nonneg htotal zero_le_one, add_nonneg hscanned zero_le_one⟩
      · exact hbound.congr rfl

/-- An item leaves the queue. -/
theorem NonNegative.dequeue (key : ItemKey) (item : Option PendingItem) :
    NonNegative (s.dequeue key item) := by
  rcases item with _ | item
  · exact h
  · exact h.modify rfl fun l htotal hscanned => ⟨htotal, hscanned⟩

/-- An item is completed. -/
theorem NonNegative.markItemCompleted (config : InventoryConfig) (path : Option Text)
    (generation : Option ℤ) : NonNegative (s.markItemCompleted config path generation).1 := by
  unfold Inventory.markItemCompleted
  split
  · exact h
  · split
    · exact h
    · split
      · exact h
      · exact (h.dequeue _ _).congr rfl

/-- A reservation is cancelled. -/
theorem NonNegative.cancelItemQueue (config : InventoryConfig) (path : Option Text)
    (generation : Option ℤ) : NonNegative (s.cancelItemQueue config path generation).1 := by
  unfold Inventory.cancelItemQueue
  split
  · exact h
  · split
    · exact h
    · split
      · exact h
      · next key _ _ _ item _ =>
        dsimp only
        split
        · exact (h.dequeue key (some item)).modify rfl fun l _ _ => ⟨le_max_left _ _, le_max_left _ _⟩
        · exact (h.dequeue key (some item)).congr rfl

/-- An item leaves the queue and the scan. -/
theorem NonNegative.leave (key : ItemKey) (item : Option PendingItem) (known : Bool)
    (generation : Option ℤ) :
    NonNegative (((s.dequeue key item).leaveScan key).noteRemoved key known generation) := by
  refine (h.dequeue key item).congr ?_
  unfold noteRemoved
  split <;> rfl

/-- A file is removed. -/
theorem NonNegative.markItemRemoved (config : InventoryConfig) (path : Option Text)
    (generation : Option ℤ) : NonNegative (s.markItemRemoved config path generation).1 := by
  unfold Inventory.markItemRemoved
  split
  · exact h
  · split
    · exact h
    · dsimp only
      split
      · exact (h.leave ..).modify rfl (uncount_nonneg _)
      · exact h.leave ..

/-- The old path of a file is no longer counted. -/
theorem NonNegative.uncountMoved (source : ItemKey) (counted : Text) (transferred : Option Text)
    (before : Inventory) : NonNegative (s.uncountMoved source counted transferred before) := by
  unfold Inventory.uncountMoved
  split
  · exact h
  · exact h.modify rfl (uncount_nonneg _)

/-- A count goes over to another library. -/
theorem NonNegative.transfer (source destination : ItemKey) (counted label : Text) (before : Inventory)
    (generation : Option ℤ) :
    NonNegative (s.transfer source destination counted label before generation) := by
  unfold Inventory.transfer
  split
  · exact h
  · have hmoved : ∀ s' : Inventory, NonNegative s' → NonNegative (if s.scanFinished then s'
        else s'.addRuntimeItem destination label generation) := fun s' hs' => by
      split
      · exact hs'
      · exact hs'.congr rfl
    refine hmoved _ ?_
    by_cases hsame : counted = label
    · exact h.congr (if_pos hsame)
    · refine h.modify (if_neg hsame) fun l htotal hscanned => ⟨add_nonneg htotal zero_le_one, ?_⟩
      dsimp only
      split
      · exact add_nonneg hscanned zero_le_one
      · exact hscanned

/-- A file is moved. -/
theorem NonNegative.markItemMoved (config : InventoryConfig) (source destination : Option Text)
    (generation : Option ℤ) : NonNegative (s.markItemMoved config source destination generation).1 := by
  unfold Inventory.markItemMoved
  split
  · split
    · exact h
    · dsimp only
      split
      · exact h.leave ..
      · split
        · exact (h.leave ..).uncountMoved ..
        · exact ((h.leave ..).uncountMoved ..).transfer ..
  · exact h

/-- The arrivals are counted. -/
theorem NonNegative.reconcileRuntimeAdditions (dropsUnvisited : Bool) :
    NonNegative (s.reconcileRuntimeAdditions dropsUnvisited) := by
  have hcount : ∀ (s : Inventory) (entry : ItemKey × Text), NonNegative s →
      NonNegative (s.countRuntimeItem entry) := by
    intro s entry h
    unfold countRuntimeItem
    split
    · exact h
    · dsimp only
      split
      · exact h.congr rfl
      · split
        · exact h.modify rfl (addScanned_nonneg zero_le_one)
        · exact h.modify rfl fun l htotal hscanned =>
            ⟨add_nonneg htotal zero_le_one, add_nonneg hscanned zero_le_one⟩
  have hdrop : ∀ (s : Inventory) (entry : Text × Finset ItemKey), NonNegative s →
      NonNegative (s.dropUnvisited entry) := fun s entry h =>
    h.modify rfl fun l _ hscanned => ⟨hscanned.trans (le_max_left _ _), hscanned⟩
  have hcounted := nonNegative_foldl hcount s.runtimeItemsDuringScan.entries h
  unfold Inventory.reconcileRuntimeAdditions
  dsimp only
  split
  · exact (nonNegative_foldl hdrop _ hcounted).congr rfl
  · exact hcounted.congr rfl

/-- The scan ends. -/
theorem NonNegative.conclude (successful : Bool) : NonNegative (s.conclude successful) := by
  have hcancelled : NonNegative s.cancelWatchdog := h.congr rfl
  exact (hcancelled.reconcileRuntimeAdditions _).congr rfl

/-- `finish_scan` ends it or waits. -/
theorem NonNegative.finishScan (successful : Bool) (generation : Option ℤ) :
    NonNegative (s.finishScan successful generation).1 := by
  unfold Inventory.finishScan
  have hclosed : NonNegative { s with scanIngressOpen := false } := h.congr rfl
  split
  · exact h
  · dsimp only
    split
    · exact hclosed
    · exact hclosed.conclude successful

/-- Behind the wait it ends. -/
theorem NonNegative.resumeFinish (generation : ℤ) : NonNegative (s.resumeFinish generation) := by
  unfold Inventory.resumeFinish
  split
  · exact h.conclude true
  · have hfailed : NonNegative { s with scanErrors := s.scanErrors + 1 } := h.congr rfl
    exact hfailed.conclude false

/-- The watchdog ends it. -/
theorem NonNegative.expireScan (generation : Option ℤ) : NonNegative (s.expireScan generation) := by
  unfold Inventory.expireScan
  split
  · exact h
  · have hexpired : NonNegative { s.cancelWatchdog with scanCancelled := true, scanIngressOpen := false } :=
      h.congr rfl
    exact (hexpired.reconcileRuntimeAdditions false).congr rfl

/-- A library is counted again. -/
theorem NonNegative.reconcileFinalLibrary (config : InventoryConfig) (label : Text)
    (paths : List (Option Text)) (generation : ℤ) :
    NonNegative (s.reconcileFinalLibrary config label paths generation) := by
  have hsettled : ∀ (s : Inventory) (keys : List ItemKey),
      ((s.dropPending label keys).settleRuntimeItems label keys).libraries = s.libraries := fun s keys =>
    (settleRuntimeItems_frame (s.dropPending label keys) label keys).2.2.trans (foldl_dropItem _ s).2.2
  unfold Inventory.reconcileFinalLibrary
  split
  · exact h
  · have hrecounted : NonNegative (s.recountItems label (s.finalKeys config paths)) := h.congr rfl
    exact (hrecounted.congr (hsettled ..)).modify rfl fun _ _ _ =>
      ⟨Int.natCast_nonneg _, Int.natCast_nonneg _⟩

/-- An error is counted elsewhere. -/
theorem NonNegative.recordScanError (generation : Option ℤ) :
    NonNegative (s.recordScanError generation) := by
  unfold Inventory.recordScanError
  split
  · exact h
  · exact h.congr rfl

/-- A file event begins. -/
theorem NonNegative.acquireScanEvent : NonNegative s.acquireScanEvent.1 := by
  unfold Inventory.acquireScanEvent
  split
  · exact h
  · exact h.congr rfl

/-- A file event ends. -/
theorem NonNegative.releaseScanEvent (generation : ℤ) : NonNegative (s.releaseScanEvent generation) := by
  unfold Inventory.releaseScanEvent
  split
  · exact h.congr rfl
  · exact h.congr rfl

/-- The arrivals are split. -/
theorem NonNegative.closeScanEventCutoff (generation : Option ℤ) :
    NonNegative (s.closeScanEventCutoff generation) := by
  unfold Inventory.closeScanEventCutoff
  split
  · exact h.congr rfl
  · exact h

/-- An item that waits gets another library. -/
theorem NonNegative.rebind (entry : ItemKey × PendingItem) : NonNegative (s.rebind entry) :=
  (h.setDefault (s.reboundLabel entry.1 entry.2)).modify rfl fun _ htotal hscanned => ⟨htotal, hscanned⟩

/-- The libraries of a new scan are empty, but for what waits. -/
theorem NonNegative.layOut (layout : ScanLayout) : NonNegative (s.layOut layout) := by
  have hbind : ∀ (found : LayoutBindings) entry,
      (∀ label l, found.libraries.get label = some l → 0 ≤ l.total ∧ 0 ≤ l.scanned) →
      ∀ label l, (layout.bindPath found entry).libraries.get label = some l →
        0 ≤ l.total ∧ 0 ≤ l.scanned := by
    intro found entry hfound label l hl
    rw [ScanLayout.bindPath, OrderedDict.get_insert] at hl
    split at hl
    · exact Option.some.inj hl ▸ ⟨le_rfl, le_rfl⟩
    · exact hfound label l hl
  have hfound : ∀ label l, layout.bindings.libraries.get label = some l → 0 ≤ l.total ∧ 0 ≤ l.scanned :=
    List.foldlRecOn (motive := fun found : LayoutBindings =>
      ∀ label l, found.libraries.get label = some l → 0 ≤ l.total ∧ 0 ≤ l.scanned) layout.paths.zipIdx
      layout.bindPath (by simp) fun found hfound entry _ => hbind found entry hfound
  unfold Inventory.layOut
  dsimp only
  split
  · exact h
  · refine nonNegative_foldl (fun s entry h => h.rebind entry) _ ⟨hfound⟩

/-- Every call keeps the counts. -/
theorem NonNegative.perform (config : InventoryConfig) (call : InventoryCall) :
    NonNegative (call.perform config s) := by
  cases call with
  | stop => exact h.stop
  | armScan => exact ⟨fun _ _ => nofun⟩
  | beginScan => exact h
  | setLibraryTotal => exact h.setLibraryTotal ..
  | recordCountedItem => exact h.recordCountedItem ..
  | recordScanned => exact h.recordScanned ..
  | recordScannedItem => exact h.recordScannedItem ..
  | recordScanError => exact h.recordScanError _
  | markItemQueued => exact h.markItemQueued ..
  | markItemObserved => exact h.markItemObserved ..
  | markItemCompleted => exact h.markItemCompleted ..
  | markItemRemoved => exact h.markItemRemoved ..
  | markItemMoved => exact h.markItemMoved ..
  | cancelItemQueue => exact h.cancelItemQueue ..
  | finishScan => exact h.finishScan ..
  | expireScan => exact h.expireScan _
  | waitUntilScanned => exact h
  | acquireScanEvent => exact h.acquireScanEvent
  | releaseScanEvent => exact h.releaseScanEvent _
  | closeScanEventCutoff => exact h.closeScanEventCutoff _
  | waitForScanEvents => exact h
  | reconcileFinalLibrary => exact h.reconcileFinalLibrary ..

/-- Every step does. -/
theorem NonNegative.step {ch : InventoryChoice} {l l' : InventoryThread}
    (hstep : inventoryStep config ch s l = some (s', l')) : NonNegative s' := by
  rcases step_of_inventoryStep hstep with _ | _ | _ | _ | _ | _
  · exact h.perform config ch.call
  · exact h
  · exact ⟨fun _ _ => nofun⟩
  · exact h.layOut _
  · exact h.resumeFinish _
  · exact h.expireScan _

end

/-! ## The reservation, and the state behind it -/

/-- Nothing is noted of an identity that does not wait. -/
structure Unnoted (s : Inventory) (key : ItemKey) : Prop where
  runtime : s.runtimeItemsDuringScan.get key = none
  arrived : key ∉ s.postCutoffRuntimeItems
  removed : key ∉ s.postCutoffRemovedItems
  unbound : s.unboundPendingPaths.get key = none

/-- What a reservation that is cancelled at once does to the libraries: the bounds of the subtractions do
    not matter. -/
theorem modify_enqueued_dequeued (hc : Counted s) (label : Text) :
    (s.libraries.modify label (.enqueued false)).modify label .dequeued = s.libraries := by
  rw [OrderedDict.modify_modify]
  refine OrderedDict.modify_eq_self fun l hl => ?_
  have hleft : 0 ≤ l.itemsLeft := by
    rw [hc.tally.counted label l hl]
    exact Int.natCast_nonneg _
  simp [MutableLibrary.enqueued, MutableLibrary.dequeued, max_eq_right hleft]

/-- A reservation that counted its item is taken back with the count. -/
theorem modify_enqueued_takenBack (hc : Counted s) (hn : NonNegative s) (label : Text) :
    ((s.libraries.modify label (.enqueued true)).modify label .dequeued).modify label
      (fun l => { l with total := max 0 (l.total - 1), scanned := max 0 (l.scanned - 1) }) =
        s.libraries := by
  rw [OrderedDict.modify_modify, OrderedDict.modify_modify]
  refine OrderedDict.modify_eq_self fun l hl => ?_
  obtain ⟨htotal, hscanned⟩ := hn.nonneg label l hl
  have hleft : 0 ≤ l.itemsLeft := by
    rw [hc.tally.counted label l hl]
    exact Int.natCast_nonneg _
  simp [MutableLibrary.enqueued, MutableLibrary.dequeued, max_eq_right hleft, max_eq_right htotal,
    max_eq_right hscanned]

/-- A path that was kept without a library is forgotten again. -/
theorem erase_keepUnbound (hu : Unnoted s key) (path : Option Text) :
    (s.keepUnbound key path).erase key = s.unboundPendingPaths := by
  have hsame := OrderedDict.erase_of_none hu.unbound
  unfold keepUnbound
  split
  · split
    · exact OrderedDict.erase_insert_of_none hu.unbound _
    · exact hsame
  · exact hsame

/-- So is an arrival behind the cutoff. -/
theorem erase_postCutoff (hu : Unnoted s key) (p : Prop) [Decidable p] :
    (if p then insert key s.postCutoffRuntimeItems else s.postCutoffRuntimeItems).erase key =
      s.postCutoffRuntimeItems := by
  split
  · exact Finset.erase_insert hu.arrived
  · exact Finset.erase_eq_of_notMem hu.arrived

/-- What is not contained is not found. -/
theorem contains_of_get {κ ν : Type} [DecidableEq κ] {d : OrderedDict κ ν} {k : κ}
    (h : d.contains k = false) : d.get k = none :=
  Option.not_isSome_iff_eq_none.1 fun hsome => Bool.false_ne_true (h.symm.trans hsome)

/-- What the cancellation does to an item that waits. -/
theorem cancelItemQueue_of_get (hkey : pathKey config.sha256 path = some key)
    (hmatches : s.generationMatches generation = true) {item : PendingItem}
    (hget : s.pendingItems.get key = some item) :
    (s.cancelItemQueue config path generation).1 =
      if item.countedAtEnqueue = true ∧ s.libraries.contains item.label = true then
        ((s.dequeue key (some item)).forget key).takeBack item.label key
      else (s.dequeue key (some item)).forget key := by
  unfold Inventory.cancelItemQueue
  rw [hkey]
  dsimp only
  rw [hmatches, if_neg (by decide), hget]
  dsimp only
  split <;> rfl

/-- A reservation that is cancelled at once leaves at most an empty library. -/
theorem cancel_of_enqueue (hc : Counted s) (hn : NonNegative s) (hu : Unnoted s key)
    (hkey : pathKey config.sha256 path = some key) (hpending : s.pendingItems.get key = none)
    (hmatches : s.generationMatches generation = true) (source : Text) :
    ((s.enqueue key path source generation).cancelItemQueue config path generation).1 =
      { s with libraries := (s.bindLabel path).2 } := by
  obtain ⟨hlabel, hbound⟩ := hc.bindLabel path
  have hdequeued := modify_enqueued_dequeued hbound (s.bindLabel path).1
  have htaken := modify_enqueued_takenBack hbound (hn.bindLabel path) (s.bindLabel path).1
  have herase : ∀ item, (s.pendingItems.insert key item).erase key = s.pendingItems :=
    OrderedDict.erase_insert_of_none hpending
  have hunbound := erase_keepUnbound hu path
  have hruntime := OrderedDict.erase_of_none hu.runtime
  have harrived := Finset.erase_eq_of_notMem hu.arrived
  have hremoved := Finset.erase_eq_of_notMem hu.removed
  -- Whatever the item was counted as, it is found under its key and belongs to this scan.
  have hcancel : ∀ (t : Inventory) item, t.scanGeneration = s.scanGeneration →
      t.pendingItems = s.pendingItems.insert key item →
      (t.cancelItemQueue config path generation).1 =
        if item.countedAtEnqueue = true ∧ t.libraries.contains item.label = true then
          ((t.dequeue key (some item)).forget key).takeBack item.label key
        else (t.dequeue key (some item)).forget key := fun t item hsame hitem =>
    cancelItemQueue_of_get hkey (by rwa [generationMatches, hsame])
      ((congrArg (OrderedDict.get · key) hitem).trans ((OrderedDict.get_insert ..).trans (if_pos rfl)))
  unfold Inventory.enqueue
  dsimp only
  -- Behind the end of a scan the item counts as an arrival, before it as one of the scan.
  rcases hcounted : s.scanFinished && !s.countedItems.contains key with _ | _
  · rw [if_neg Bool.false_ne_true]
    split
    · -- A runtime item of a new key: it is forgotten with its label.
      refine (hcancel _ ⟨_, false, generation⟩ (by rfl) (by rfl)).trans ?_
      rw [if_neg fun h => Bool.false_ne_true h.1]
      unfold Inventory.dequeue forget addRuntimeItem
      dsimp only
      rw [hremoved, hunbound, herase, hdequeued, OrderedDict.erase_insert_of_none hu.runtime,
        erase_postCutoff hu]
    · refine (hcancel _ ⟨_, false, generation⟩ (by rfl) (by rfl)).trans ?_
      rw [if_neg fun h => Bool.false_ne_true h.1]
      unfold Inventory.dequeue forget
      dsimp only
      rw [hremoved, hunbound, herase, hdequeued, hruntime, harrived]
  · have hnone : s.countedItems.get key = none := by
      rw [Bool.and_eq_true, Bool.not_eq_true'] at hcounted
      exact contains_of_get hcounted.2
    have hcontains := (OrderedDict.contains_modify (s.bindLabel path).2 (s.bindLabel path).1
      (s.bindLabel path).1 (.enqueued true)).trans hlabel
    rw [if_pos rfl]
    refine (hcancel _ ⟨_, true, generation⟩ (by rfl) (by rfl)).trans ?_
    rw [if_pos ⟨rfl, hcontains⟩]
    unfold Inventory.takeBack Inventory.dequeue forget
    dsimp only
    rw [hremoved, hunbound, herase, htaken, hruntime, harrived, OrderedDict.erase_insert_of_none hnone]

/-- A reservation that is cancelled at once. -/
def rolledBack (config : InventoryConfig) (s : Inventory) (path : Option Text) (source : Text)
    (generation : Option ℤ) : Inventory :=
  ((s.markItemQueued config path source generation).1.cancelItemQueue config path generation).1

/-- A reservation that is cancelled at once leaves the library that it made, at most. -/
theorem rolledBack_of_queued (hc : Counted s) (hn : NonNegative s) (hu : Unnoted s key)
    (hkey : pathKey config.sha256 path = some key) {source : Text}
    (hqueued : (s.markItemQueued config path source generation).2 = true) :
    s.rolledBack config path source generation = { s with libraries := (s.bindLabel path).2 } := by
  have hanswer : (s.markItemQueued config path source generation).2 =
      if !config.enabled ∨ !s.generationMatches generation ∨ s.pendingItems.contains key then false
      else true := by
    unfold Inventory.markItemQueued
    rw [hkey]
    exact apply_ite Prod.snd _ _ _
  have hfree : ¬(!config.enabled ∨ !s.generationMatches generation ∨ s.pendingItems.contains key) := by
    intro hnot
    rw [hanswer, if_pos hnot] at hqueued
    exact Bool.false_ne_true hqueued
  obtain ⟨-, hrest⟩ := not_or.1 hfree
  obtain ⟨hmatches, hpending⟩ := not_or.1 hrest
  have hmark : (s.markItemQueued config path source generation).1 = s.enqueue key path source generation := by
    unfold Inventory.markItemQueued
    rw [hkey]
    dsimp only
    rw [if_neg hfree]
  rw [rolledBack, hmark]
  exact cancel_of_enqueue hc hn hu hkey (contains_of_get (Bool.not_eq_true _ ▸ hpending))
    (by simpa using hmatches) source

/-- A path with a library keeps it. -/
theorem bindLabel_of_labelForPath (h : s.labelForPath path = some label) :
    s.bindLabel path = (label, s.libraries) := by
  rw [Inventory.bindLabel, h]

/-- A path without one gets the library of the other items. -/
theorem bindLabel_of_none (h : s.labelForPath path = none) :
    s.bindLabel path = (otherLabel, s.withOther.libraries) := by
  rw [Inventory.bindLabel, h]
  rfl

/-- Nothing is left of it, or an empty library that was not there. -/
theorem rolledBack_eq (hc : Counted s) (hn : NonNegative s) (hu : Unnoted s key)
    (hkey : pathKey config.sha256 path = some key) {source : Text}
    (hqueued : (s.markItemQueued config path source generation).2 = true) :
    s.rolledBack config path source generation = s ∨
      s.labelForPath path = none ∧ s.libraries.contains otherLabel = false ∧
        s.rolledBack config path source generation = s.withOther := by
  have heq := rolledBack_of_queued hc hn hu hkey hqueued
  rcases hlabel : s.labelForPath path with _ | label
  · rw [bindLabel_of_none hlabel] at heq
    rcases hother : s.libraries.contains otherLabel with _ | _
    · exact .inr ⟨rfl, rfl, heq⟩
    · refine .inl (heq.trans ?_)
      dsimp only [withOther]
      rw [OrderedDict.setDefault_of_contains hother]
  · rw [bindLabel_of_labelForPath hlabel] at heq
    exact .inl heq

end Inventory

open Interleaving

variable {config : InventoryConfig} {n : ℕ} {c : Config Inventory InventoryThread} {key : ItemKey}
  {path : Option Text} {source : Text} {generation : Option ℤ}

/-- The threads and what is published, without an empty library of the other items. -/
def publishedState (c : Config Inventory InventoryThread) : List InventoryThread × InventorySnapshot :=
  (c.locals, c.shared.snapshot.withoutEmptyOther)

/-- In every state that any threads reach, if nothing was noted of an identity, then a reservation of it
    that is cancelled at once leaves no trace, whatever the threads do from then on. If it makes the
    library of the other items, nothing that came may wait for that library, and no call may name it
    before it is there anyway. -/
theorem rollback_leaves_no_trace (h : Runs (ofStep (inventoryStep config)) ⟨.new, List.replicate n .start⟩ c)
    (hkey : pathKey config.sha256 path = some key)
    (hqueued : (c.shared.markItemQueued config path source generation).2 = true)
    (hunnoted : c.shared.Unnoted key) (steps : List (ℕ × InventoryChoice))
    (hother : c.shared.labelForPath path = none → c.shared.libraries.contains otherLabel = false →
      (∀ key', c.shared.runtimeItemsDuringScan.get key' ≠ some otherLabel) ∧ NamesFound config c steps) :
    (exec (inventoryStep config) ⟨c.shared.rolledBack config path source generation, c.locals⟩ steps).map
        publishedState =
      (exec (inventoryStep config) c steps).map publishedState := by
  obtain ⟨hc, hn⟩ : c.shared.Counted ∧ c.shared.NonNegative :=
    h.invariant (I := fun c => c.shared.Counted ∧ c.shared.NonNegative)
      ⟨Inventory.counted_new, ⟨fun _ _ => nofun⟩⟩ fun _ _ _ _ _ hinv hmoves =>
        ⟨hinv.1.step hmoves.step.choose_spec, hinv.2.step hmoves.step.choose_spec⟩
  rcases Inventory.rolledBack_eq hc hn hunnoted hkey hqueued with heq | ⟨hlabel, habsent, heq⟩
  · rw [heq]
  · -- The states differ by an empty library, and go on beside each other.
    obtain ⟨hruntime, hfound⟩ := hother hlabel habsent
    have hbeside : c.shared.Beside c.shared.withOther := .other ⟨Inventory.contains_of_get habsent, hruntime⟩
    have hrel := hbeside.exec hc hfound
    rw [heq]
    generalize exec (inventoryStep config) c steps = o,
      exec (inventoryStep config) ⟨c.shared.withOther, c.locals⟩ steps = o' at hrel ⊢
    rcases hrel with ⟨hshared, hlocals⟩ | _
    · exact congrArg some (Prod.ext hlocals.symm hshared.snapshot)
    · rfl

/-- A scan of `/tv` is running and one file has come, of which the other thread was told. A reservation of a
    second file is taken and cancelled: the end of the scan publishes the arrival alone, as it would have. -/
theorem rollback_leaves_no_trace_scanning :
    ∃ c, Runs (ofStep (inventoryStep ⟨true, id⟩)) ⟨.new, List.replicate 2 .start⟩ c ∧
      (c.shared.markItemQueued ⟨true, id⟩ (some (text "/tv/a.mkv")) (text "runtime") none).2 = true ∧
      (exec (inventoryStep ⟨true, id⟩) c [(0, ⟨.finishScan true none, false⟩)]).map
          (·.shared.snapshot.libraries) = some [⟨text "Library 1", 1, 1, 0⟩] ∧
      (exec (inventoryStep ⟨true, id⟩)
          ⟨c.shared.rolledBack ⟨true, id⟩ (some (text "/tv/a.mkv")) (text "runtime") none, c.locals⟩
          [(0, ⟨.finishScan true none, false⟩)]).map publishedState =
        (exec (inventoryStep ⟨true, id⟩) c [(0, ⟨.finishScan true none, false⟩)]).map publishedState := by
  have hexec : (exec (inventoryStep ⟨true, id⟩) ⟨.new, List.replicate 2 .start⟩
      [(0, ⟨.armScan, false⟩), (0, ⟨.beginScan ⟨[some (text "/tv")], [], []⟩, false⟩), (0, ⟨.stop, false⟩),
        (1, ⟨.markItemObserved (some (text "/tv/b.mkv")) none, false⟩)]).map (fun c =>
      ((c.shared.markItemQueued ⟨true, id⟩ (some (text "/tv/a.mkv")) (text "runtime") none).2,
        (exec (inventoryStep ⟨true, id⟩) c [(0, ⟨.finishScan true none, false⟩)]).map
          (·.shared.snapshot.libraries),
        (c.shared.labelForPath (some (text "/tv/a.mkv"))).isSome &&
          ((c.shared.runtimeItemsDuringScan.get (text "/tv/a.mkv")).isNone &&
            (decide (text "/tv/a.mkv" ∉ c.shared.postCutoffRuntimeItems) &&
              (decide (text "/tv/a.mkv" ∉ c.shared.postCutoffRemovedItems) &&
                (c.shared.unboundPendingPaths.get (text "/tv/a.mkv")).isNone))))) =
      some (true, some [⟨text "Library 1", 1, 1, 0⟩], true) := by
    decide +kernel
  obtain ⟨c, hc, hvalues⟩ := Option.map_eq_some_iff.1 hexec
  simp only [Prod.mk.injEq, Bool.and_eq_true, decide_eq_true_eq, Option.isNone_iff_eq_none] at hvalues
  obtain ⟨hqueued, hpublished, hlabel, hruntime, harrived, hremoved, hunbound⟩ := hvalues
  have hruns : Runs (ofStep (inventoryStep ⟨true, id⟩)) ⟨.new, List.replicate 2 .start⟩ c :=
    runs_of_exec _ hc fun a _ _ _ _ h => ⟨a, h⟩
  have hkey : pathKey (⟨true, id⟩ : InventoryConfig).sha256 (some (text "/tv/a.mkv")) =
      some (text "/tv/a.mkv") := rfl
  refine ⟨c, hruns, hqueued, hpublished, rollback_leaves_no_trace hruns hkey hqueued
    ⟨hruntime, harrived, hremoved, hunbound⟩ _ fun hnone => ?_⟩
  rw [hnone] at hlabel
  cases hlabel

/-- A file that came while the scan was running is counted when the scan ends, but not if a reservation of
    it was made and cancelled in between. -/
theorem rollback_forgets_arrival :
    ¬ ∀ (config : InventoryConfig) (n : ℕ) (c : Config Inventory InventoryThread),
      Runs (ofStep (inventoryStep config)) ⟨.new, List.replicate n .start⟩ c →
      ∀ (path : Option Text) (source : Text) (generation : Option ℤ),
        (c.shared.markItemQueued config path source generation).2 = true →
        ∀ steps : List (ℕ × InventoryChoice),
          (exec (inventoryStep config) ⟨c.shared.rolledBack config path source generation, c.locals⟩
              steps).map publishedState =
            (exec (inventoryStep config) c steps).map publishedState := by
  intro h
  have hexec : (exec (inventoryStep ⟨true, id⟩) ⟨.new, List.replicate 1 .start⟩
      [(0, ⟨.armScan, false⟩), (0, ⟨.beginScan ⟨[some (text "/tv")], [], []⟩, false⟩), (0, ⟨.stop, false⟩),
        (0, ⟨.markItemObserved (some (text "/tv/a.mkv")) none, false⟩)]).map (fun c =>
      ((c.shared.markItemQueued ⟨true, id⟩ (some (text "/tv/a.mkv")) (text "runtime") none).2,
        (exec (inventoryStep ⟨true, id⟩) c [(0, ⟨.finishScan true none, false⟩)]).map
          (·.shared.snapshot.withoutEmptyOther.libraries),
        (exec (inventoryStep ⟨true, id⟩)
          ⟨c.shared.rolledBack ⟨true, id⟩ (some (text "/tv/a.mkv")) (text "runtime") none, c.locals⟩
          [(0, ⟨.finishScan true none, false⟩)]).map (·.shared.snapshot.withoutEmptyOther.libraries))) =
      some (true, some [⟨text "Library 1", 1, 1, 0⟩], some [⟨text "Library 1", 0, 0, 0⟩]) := by
    decide +kernel
  obtain ⟨c, hc, hvalues⟩ := Option.map_eq_some_iff.1 hexec
  obtain ⟨hqueued, hvalues⟩ := Prod.mk.inj hvalues
  obtain ⟨hcounted, hforgotten⟩ := Prod.mk.inj hvalues
  have hsame := congrArg (Option.map fun p => p.2.libraries)
    (h _ 1 c (runs_of_exec _ hc fun a _ _ _ _ h => ⟨a, h⟩) _ _ _ hqueued
      [(0, ⟨.finishScan true none, false⟩)])
  rw [Option.map_map, Option.map_map] at hsame
  exact absurd (hforgotten.symm.trans (hsame.trans hcounted)) (by decide +kernel)

end Subgen

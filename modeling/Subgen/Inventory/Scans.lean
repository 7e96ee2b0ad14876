import Subgen.Inventory.Threads

/-!
# Scans

The barrier is closed as long as a scan is not finished, and then its watchdog is there (`Guarded`). A
call that carries the generation of an older scan changes nothing that is published, nor the barrier
(`view_of_stale`): the generation is compared in the section that would change something. Only
`finish_scan` compares it before it waits, and does what it does behind the wait.

Most sections leave the scan as it is. For those it is enough that the fields of the scan are the same
before and behind (`scan_markItemQueued` and the like), and both halves of the invariant depend on these
fields alone (`Guarded.congr`, `Drained.congr`). The sections that are about the scan, `arm_scan`,
`finish_scan` and the watchdog, have a lemma for each half. Along a run the file events that are still in
flight are counted by the generation that admitted them, and a scan is only complete when none of its own
is left (`Drained`).

* `ScanInvariant`: what holds along the runs in which no scan is armed while `finish_scan` waits;
* `scans_are_separate`: what it says of the barrier, of the watchdog and of calls for an older scan;
* `late_finish_ends_next_scan`: what happens in a run that arms a scan in that moment.
-/

namespace Subgen

namespace Inventory

/-- What a call for an older scan must leave alone. -/
def view (s : Inventory) : OrderedDict Text MutableLibrary × OrderedDict ItemKey PendingItem × ℤ ×
    Option ℤ × Bool :=
  (s.libraries, s.pendingItems, s.scanErrors, s.scanWatchdog, s.scanReady)

/-- The state of the scan: the barrier, whether it is finished and complete, the watchdog, the
    generation and the file events. -/
def scan (s : Inventory) : Bool × Bool × Bool × Option ℤ × ℤ × OrderedDict ℤ ℕ :=
  (s.scanReady, s.scanFinished, s.scanComplete, s.scanWatchdog, s.scanGeneration, s.scanIngressInflight)

/-- The barrier is closed until the scan is finished, and the scan has a watchdog until then. -/
structure Guarded (s : Inventory) : Prop where
  barrier : s.scanReady = s.scanFinished
  watched : s.scanReady = false → s.scanWatchdog = some s.scanGeneration

/-- A scan that is complete is finished, and its file events are over. -/
structure Drained (s : Inventory) : Prop where
  finished : s.scanComplete = true → s.scanFinished = true
  inflight : s.scanComplete = true → s.inflight s.scanGeneration = 0

variable {s s' : Inventory} {config : InventoryConfig} {generation : Option ℤ} {g : ℤ}

/-- Only the state of the scan matters. -/
theorem Guarded.congr (h : Guarded s) (heq : s'.scan = s.scan) : Guarded s' := by
  simp only [scan, Prod.mk.injEq] at heq
  obtain ⟨hready, hfinished, -, hwatchdog, hgeneration, -⟩ := heq
  exact ⟨by rw [hready, hfinished, h.barrier], fun hclosed => by
    rw [hwatchdog, hgeneration, h.watched (hready ▸ hclosed)]⟩

/-- The file events under way are a part of the state of the scan. -/
theorem inflight_congr (heq : s'.scan = s.scan) : s'.inflight = s.inflight := by
  simp only [scan, Prod.mk.injEq] at heq
  funext g
  rw [Inventory.inflight, Inventory.inflight, heq.2.2.2.2.2]

/-- Only the state of the scan matters here too. -/
theorem Drained.congr (h : Drained s) (heq : s'.scan = s.scan) : Drained s' := by
  have hinflight := inflight_congr heq
  simp only [scan, Prod.mk.injEq] at heq
  obtain ⟨-, hfinished, hcomplete, -, hgeneration, -⟩ := heq
  exact ⟨fun hc => hfinished.trans (h.finished (hcomplete ▸ hc)), fun hc => by
    rw [hinflight, hgeneration]
    exact h.inflight (hcomplete ▸ hc)⟩

/-- A loop leaves the scan alone if one round does. -/
theorem scan_foldl {α : Type} {f : Inventory → α → Inventory} (hf : ∀ s x, (f s x).scan = s.scan)
    (xs : List α) (s : Inventory) : (xs.foldl f s).scan = s.scan := by
  induction xs generalizing s with
  | nil => rfl
  | cons x xs ih => exact (ih (f s x)).trans (hf s x)

/-! ## What leaves the scan as it is -/

/-- So does a choice between two calls that do. -/
theorem scan_ite {p : Prop} [Decidable p] {a b : Inventory} (ha : a.scan = s.scan) (hb : b.scan = s.scan) :
    (if p then a else b).scan = s.scan := by
  split
  · exact ha
  · exact hb

/-- The size of a library is no part of the scan. -/
theorem scan_setLibraryTotal (s : Inventory) (label : Text) (total : ℤ) (generation : Option ℤ) :
    (s.setLibraryTotal label total generation).scan = s.scan := scan_ite rfl rfl

/-- An item that is counted is no part of it either. -/
theorem scan_recordCountedItem (config : InventoryConfig) (s : Inventory) (label : Text)
    (path : Option Text) (generation : Option ℤ) :
    (s.recordCountedItem config label path generation).scan = s.scan := by
  unfold recordCountedItem
  split
  · rfl
  · exact scan_ite rfl rfl

/-- What has been scanned is kept with the libraries. -/
theorem scan_recordScanned (s : Inventory) (label : Text) (count : ℤ) (generation : Option ℤ) :
    (s.recordScanned label count generation).scan = s.scan := scan_ite rfl rfl

/-- The same for a single item. -/
theorem scan_recordScannedItem (config : InventoryConfig) (s : Inventory) (label : Text)
    (path : Option Text) (generation : Option ℤ) :
    (s.recordScannedItem config label path generation).scan = s.scan := by
  refine scan_ite rfl ?_
  split <;> rfl

/-- An error is only counted. -/
theorem scan_recordScanError (s : Inventory) (generation : Option ℤ) :
    (s.recordScanError generation).scan = s.scan := scan_ite rfl rfl

/-- The cutoff only splits the arrivals. -/
theorem scan_closeScanEventCutoff (s : Inventory) (generation : Option ℤ) :
    (s.closeScanEventCutoff generation).scan = s.scan := scan_ite rfl rfl

/-- A reservation leaves the scan alone. -/
theorem scan_markItemQueued (config : InventoryConfig) (s : Inventory) (path : Option Text) (source : Text)
    (generation : Option ℤ) : (s.markItemQueued config path source generation).1.scan = s.scan := by
  unfold markItemQueued
  split
  · rfl
  · split
    · rfl
    · exact scan_ite rfl (scan_ite rfl rfl)

/-- So does an arrival that is only observed. -/
theorem scan_markItemObserved (config : InventoryConfig) (s : Inventory) (path : Option Text)
    (generation : Option ℤ) : (s.markItemObserved config path generation).1.scan = s.scan := by
  unfold markItemObserved
  split
  · rfl
  · split
    · rfl
    · exact scan_ite rfl rfl

/-- An item leaves the queue, and the scan is the same. -/
theorem scan_dequeue (s : Inventory) (key : ItemKey) (item : Option PendingItem) :
    (s.dequeue key item).scan = s.scan := by
  unfold dequeue
  split <;> rfl

/-- The completion of an item leaves the scan alone. -/
theorem scan_markItemCompleted (config : InventoryConfig) (s : Inventory) (path : Option Text)
    (generation : Option ℤ) : (s.markItemCompleted config path generation).1.scan = s.scan := by
  unfold markItemCompleted
  split
  · rfl
  · split
    · rfl
    · split <;> rfl

/-- So does the cancellation of a reservation. -/
theorem scan_cancelItemQueue (config : InventoryConfig) (s : Inventory) (path : Option Text)
    (generation : Option ℤ) : (s.cancelItemQueue config path generation).1.scan = s.scan := by
  unfold cancelItemQueue
  split
  · rfl
  · split
    · rfl
    · split
      · rfl
      · dsimp only
        split <;> rfl

/-- What is left of an item that is removed or moved away. -/
theorem scan_leave (s : Inventory) (key : ItemKey) (item : Option PendingItem) (known : Bool)
    (generation : Option ℤ) :
    (((s.dequeue key item).leaveScan key).noteRemoved key known generation).scan = s.scan := by
  have hleave : ((s.dequeue key item).leaveScan key).scan = s.scan := scan_dequeue s key item
  exact scan_ite hleave hleave

/-- So does the removal of a file. -/
theorem scan_markItemRemoved (config : InventoryConfig) (s : Inventory) (path : Option Text)
    (generation : Option ℤ) : (s.markItemRemoved config path generation).1.scan = s.scan := by
  unfold markItemRemoved
  split
  · rfl
  · split
    · rfl
    · dsimp only
      split
      · exact scan_leave ..
      · exact scan_leave ..

/-- The old path of a file is no longer counted, and the scan is the same. -/
theorem scan_uncountMoved (s : Inventory) (source : ItemKey) (counted : Text) (transferred : Option Text)
    (before : Inventory) : (s.uncountMoved source counted transferred before).scan = s.scan :=
  scan_ite rfl rfl

/-- The count of a file goes over to its new path, and the scan is the same. -/
theorem scan_transfer (s : Inventory) (source destination : ItemKey) (counted label : Text)
    (before : Inventory) (generation : Option ℤ) :
    (s.transfer source destination counted label before generation).scan = s.scan :=
  scan_ite rfl (scan_ite rfl rfl)

/-- A file is moved, and the scan is the same. -/
theorem scan_markItemMoved (config : InventoryConfig) (s : Inventory) (source destination : Option Text)
    (generation : Option ℤ) : (s.markItemMoved config source destination generation).1.scan = s.scan := by
  unfold markItemMoved
  split
  · split
    · rfl
    · split
      · exact scan_leave ..
      · dsimp only
        split
        · exact (scan_uncountMoved ..).trans (scan_leave ..)
        · exact (scan_transfer ..).trans ((scan_uncountMoved ..).trans (scan_leave ..))
  · rfl

/-- The last listing of a library changes its items only. -/
theorem scan_reconcileFinalLibrary (config : InventoryConfig) (s : Inventory) (label : Text)
    (paths : List (Option Text)) (g : ℤ) :
    (s.reconcileFinalLibrary config label paths g).scan = s.scan := by
  have hdrop : ∀ s : Inventory, ∀ keys, (s.dropPending label keys).scan = s.scan := fun s _ =>
    scan_foldl (f := dropItem) (fun _ _ => rfl) _ s
  have hsettle : ∀ s : Inventory, ∀ keys, (s.settleRuntimeItems label keys).scan = s.scan := fun s keys =>
    scan_foldl (f := fun s => s.settleRuntimeItem label keys) (fun _ _ => scan_ite rfl rfl) _ s
  exact scan_ite rfl ((hsettle _ _).trans (hdrop _ _))

/-- The layout makes the libraries, under the scan that is armed. -/
theorem scan_layOut (s : Inventory) (layout : ScanLayout) : (s.layOut layout).scan = s.scan := by
  unfold layOut
  dsimp only
  split
  · rfl
  · exact scan_foldl (f := rebind) (fun _ _ => rfl) _ _

/-- An arrival is counted at the end of the scan, which it does not change. -/
theorem scan_countRuntimeItem (s : Inventory) (entry : ItemKey × Text) :
    (s.countRuntimeItem entry).scan = s.scan :=
  scan_ite rfl (scan_ite rfl (scan_ite rfl rfl))

/-- The same for all the arrivals. -/
theorem scan_reconcileRuntimeAdditions (s : Inventory) (dropsUnvisited : Bool) :
    (s.reconcileRuntimeAdditions dropsUnvisited).scan = s.scan := by
  have hcounted := scan_foldl scan_countRuntimeItem s.runtimeItemsDuringScan.entries s
  unfold reconcileRuntimeAdditions
  rcases dropsUnvisited with _ | _
  · exact hcounted
  · exact (scan_foldl (f := dropUnvisited) (fun _ _ => rfl) _ _).trans hcounted

/-! ## What changes the scan -/

/-- At first the barrier is open and no scan is under way. -/
theorem guarded_new : Guarded new := ⟨rfl, nofun⟩

/-- No scan is complete at first. -/
theorem drained_new : Drained new := ⟨fun _ => rfl, fun _ => rfl⟩

/-- A scan that is armed closes the barrier and gets its watchdog. -/
theorem guarded_armScan (henabled : config.enabled = true) (s : Inventory) : Guarded (s.armScan config) :=
  ⟨rfl, fun _ => if_pos henabled⟩

/-- It is not complete yet. -/
theorem drained_armScan (config : InventoryConfig) (s : Inventory) : Drained (s.armScan config) :=
  ⟨nofun, nofun⟩

/-- `stop` opens the barrier for good. -/
theorem Guarded.stop (h : Guarded s) : Guarded s.stop := by
  unfold Inventory.stop
  split
  · next hfinished =>
    -- The scan is over, and so the barrier is open.
    exact ⟨h.barrier, fun hclosed => absurd (hclosed.symm.trans (h.barrier.trans hfinished)) nofun⟩
  · exact ⟨rfl, nofun⟩

/-- It completes no scan. -/
theorem Drained.stop (h : Drained s) : Drained s.stop := by
  unfold Inventory.stop
  split
  · exact ⟨h.finished, h.inflight⟩
  · exact ⟨nofun, nofun⟩

/-- The barrier opens at the end of a scan. -/
theorem guarded_conclude (s : Inventory) (successful : Bool) : Guarded (s.conclude successful) :=
  ⟨rfl, nofun⟩

/-- The end of a scan leaves the file events under way. -/
theorem inflight_conclude (s : Inventory) (successful : Bool) :
    (s.conclude successful).inflight = s.inflight := by
  have hscan := scan_reconcileRuntimeAdditions s.cancelWatchdog (successful && !s.scanCancelled)
  have hinflight := inflight_congr hscan
  exact hinflight

/-- The end of a scan leaves its generation. -/
theorem scanGeneration_conclude (s : Inventory) (successful : Bool) :
    (s.conclude successful).scanGeneration = s.scanGeneration := by
  have hscan := scan_reconcileRuntimeAdditions s.cancelWatchdog (successful && !s.scanCancelled)
  simp only [scan, Prod.mk.injEq] at hscan
  exact hscan.2.2.2.2.1

/-- A scan that is successful and was not cancelled is concluded without file events. -/
theorem drained_conclude {successful : Bool}
    (h : successful = true → s.scanCancelled = false → s.inflight s.scanGeneration = 0) :
    Drained (s.conclude successful) where
  finished _ := rfl
  inflight hcomplete := by
    rw [inflight_conclude, scanGeneration_conclude]
    obtain ⟨hsuccessful, hcancelled⟩ := Bool.and_eq_true_iff.1 hcomplete
    exact h hsuccessful (by simpa using hcancelled)

/-- `finish_scan` ends the scan, or leaves it as it is, or waits with the barrier closed. -/
theorem Guarded.finishScan (h : Guarded s) (successful : Bool) (generation : Option ℤ) :
    Guarded (s.finishScan successful generation).1 := by
  unfold Inventory.finishScan
  split
  · exact h
  · dsimp only
    split
    · exact h.congr rfl
    · exact guarded_conclude _ _

/-- It does not wait if the file events are over, or if it was not successful anyway. -/
theorem Drained.finishScan (h : Drained s) (successful : Bool) (generation : Option ℤ) :
    Drained (s.finishScan successful generation).1 := by
  unfold Inventory.finishScan
  split
  · exact h
  · dsimp only
    split
    · exact h.congr rfl
    · next hnot =>
      refine drained_conclude fun hsuccessful hcancelled => ?_
      have hopen : s.scanCancelled = false := hcancelled
      by_contra hinflight
      refine hnot ⟨hsuccessful, by rw [hopen]; rfl, ?_⟩
      rw [drained, Bool.not_eq_true', decide_eq_false_iff_not]
      rintro (hzero | hc)
      · exact hinflight hzero
      · exact absurd (hc.symm.trans hcancelled) nofun

/-- Behind the wait it opens the barrier. -/
theorem guarded_resumeFinish (s : Inventory) (g : ℤ) : Guarded (s.resumeFinish g) := by
  unfold resumeFinish
  split
  · exact guarded_conclude _ _
  · exact guarded_conclude _ _

/-- Behind its wait, `finish_scan` looks at the file events of the generation that it has waited for. -/
theorem drained_resumeFinish (s : Inventory) : Drained (s.resumeFinish s.scanGeneration) := by
  unfold resumeFinish
  split
  · next hdrained =>
    refine drained_conclude fun _ hcancelled => ?_
    rw [drained, decide_eq_true_iff] at hdrained
    exact hdrained.resolve_right fun hc => absurd (hc.symm.trans hcancelled) nofun
  · exact drained_conclude nofun

/-- The watchdog opens the barrier, or comes too late. -/
theorem Guarded.expireScan (h : Guarded s) (generation : Option ℤ) : Guarded (s.expireScan generation) := by
  unfold Inventory.expireScan
  split
  · exact h
  · exact ⟨rfl, nofun⟩

/-- A scan that ran out of time is not complete. -/
theorem Drained.expireScan (h : Drained s) (generation : Option ℤ) : Drained (s.expireScan generation) := by
  unfold Inventory.expireScan
  split
  · exact h
  · exact ⟨nofun, nofun⟩

/-- Its file events are still under way. -/
theorem inflight_expireScan (s : Inventory) (generation : Option ℤ) :
    (s.expireScan generation).inflight = s.inflight := by
  unfold Inventory.expireScan
  split
  · rfl
  · have hscan := scan_reconcileRuntimeAdditions
      { s.cancelWatchdog with scanCancelled := true, scanIngressOpen := false } false
    have hinflight := inflight_congr hscan
    exact hinflight

/-- `finish_scan` waits for the file events and takes none of them back. -/
theorem inflight_finishScan (s : Inventory) (successful : Bool) (generation : Option ℤ) :
    (s.finishScan successful generation).1.inflight = s.inflight := by
  unfold Inventory.finishScan
  split
  · rfl
  · dsimp only
    split
    · rfl
    · exact inflight_conclude _ _

/-- Behind the wait none of them is taken back either. -/
theorem inflight_resumeFinish (s : Inventory) (g : ℤ) : (s.resumeFinish g).inflight = s.inflight := by
  unfold resumeFinish
  split
  · exact inflight_conclude _ _
  · exact inflight_conclude _ _

/-- `stop` leaves the file events under way. -/
theorem inflight_stop (s : Inventory) : s.stop.inflight = s.inflight := by
  unfold Inventory.stop
  split <;> rfl

/-- A new scan begins with those of the older ones. -/
theorem inflight_armScan (config : InventoryConfig) (s : Inventory) :
    (s.armScan config).inflight = s.inflight := by
  funext g
  rw [inflight, armScan, OrderedDict.get_setDefault]
  by_cases h : g = s.scanGeneration + 1
  · rw [if_pos h, h]
    rfl
  · rw [if_neg h]
    rfl

/-- One file event is over, of the generation that it was begun in. -/
theorem inflight_releaseScanEvent (s : Inventory) (g g' : ℤ) :
    (s.releaseScanEvent g).inflight g' = if g' = g then s.inflight g - 1 else s.inflight g' := by
  unfold releaseScanEvent
  split
  · next hle =>
    rw [inflight, OrderedDict.get_erase]
    by_cases h : g' = g
    · rw [if_pos h, if_pos h, Nat.sub_eq_zero_of_le hle]
      rfl
    · rw [if_neg h, if_neg h]
      rfl
  · rw [inflight, OrderedDict.get_insert]
    by_cases h : g' = g
    · rw [if_pos h, if_pos h]
      rfl
    · rw [if_neg h, if_neg h]
      rfl

/-- A file event is admitted to a scan that is not finished, or nothing happens. -/
theorem acquireScanEvent_cases (s : Inventory) : s.acquireScanEvent = (s, none) ∨
    s.scanFinished = false ∧ s.acquireScanEvent = ({ s with
      scanIngressInflight :=
        s.scanIngressInflight.insert s.scanGeneration (s.inflight s.scanGeneration + 1) },
      some s.scanGeneration) := by
  unfold acquireScanEvent
  split
  · exact .inl rfl
  · next hnot => exact .inr ⟨Bool.eq_false_iff.2 fun h => hnot (.inl h), rfl⟩

/-! ## Calls -/

/-- The calls that are about the scan; the others leave it as it is. -/
theorem scan_perform (config : InventoryConfig) (s : Inventory) (call : InventoryCall) :
    ((call.perform config s).scan = s.scan ∧ ∀ events, call.events s events = events) ∨
      call = .stop ∨ call = .armScan ∨
      (∃ successful generation, call = .finishScan successful generation) ∨
      (∃ generation, call = .expireScan generation) ∨ call = .acquireScanEvent ∨
      ∃ g, call = .releaseScanEvent g := by
  cases call with
  | stop => exact .inr (.inl rfl)
  | armScan => exact .inr (.inr (.inl rfl))
  | finishScan successful generation => exact .inr (.inr (.inr (.inl ⟨successful, generation, rfl⟩)))
  | expireScan generation => exact .inr (.inr (.inr (.inr (.inl ⟨generation, rfl⟩))))
  | acquireScanEvent => exact .inr (.inr (.inr (.inr (.inr (.inl rfl)))))
  | releaseScanEvent g => exact .inr (.inr (.inr (.inr (.inr (.inr ⟨g, rfl⟩)))))
  | beginScan => exact .inl ⟨rfl, fun _ => rfl⟩
  | setLibraryTotal => exact .inl ⟨scan_setLibraryTotal .., fun _ => rfl⟩
  | recordCountedItem => exact .inl ⟨scan_recordCountedItem .., fun _ => rfl⟩
  | recordScanned => exact .inl ⟨scan_recordScanned .., fun _ => rfl⟩
  | recordScannedItem => exact .inl ⟨scan_recordScannedItem .., fun _ => rfl⟩
  | recordScanError => exact .inl ⟨scan_recordScanError .., fun _ => rfl⟩
  | markItemQueued => exact .inl ⟨scan_markItemQueued .., fun _ => rfl⟩
  | markItemObserved => exact .inl ⟨scan_markItemObserved .., fun _ => rfl⟩
  | markItemCompleted => exact .inl ⟨scan_markItemCompleted .., fun _ => rfl⟩
  | markItemRemoved => exact .inl ⟨scan_markItemRemoved .., fun _ => rfl⟩
  | markItemMoved => exact .inl ⟨scan_markItemMoved .., fun _ => rfl⟩
  | cancelItemQueue => exact .inl ⟨scan_cancelItemQueue .., fun _ => rfl⟩
  | waitUntilScanned => exact .inl ⟨rfl, fun _ => rfl⟩
  | closeScanEventCutoff => exact .inl ⟨scan_closeScanEventCutoff .., fun _ => rfl⟩
  | waitForScanEvents => exact .inl ⟨rfl, fun _ => rfl⟩
  | reconcileFinalLibrary => exact .inl ⟨scan_reconcileFinalLibrary .., fun _ => rfl⟩

/-- Every call keeps the barrier guarded. -/
theorem Guarded.perform (h : Guarded s) (henabled : config.enabled = true) (call : InventoryCall) :
    Guarded (call.perform config s) := by
  rcases scan_perform config s call with ⟨hscan, -⟩ | rfl | rfl | ⟨successful, generation, rfl⟩ |
    ⟨generation, rfl⟩ | rfl | ⟨g, rfl⟩
  · exact h.congr hscan
  · exact h.stop
  · exact guarded_armScan henabled s
  · exact h.finishScan successful generation
  · exact h.expireScan generation
  · rcases s.acquireScanEvent_cases with heq | ⟨-, heq⟩
    · rw [InventoryCall.perform, heq]
      exact h
    · rw [InventoryCall.perform, heq]
      exact ⟨h.barrier, h.watched⟩
  · rw [InventoryCall.perform, Inventory.releaseScanEvent]
    split
    · exact ⟨h.barrier, h.watched⟩
    · exact ⟨h.barrier, h.watched⟩

/-- Every call keeps the file events of a complete scan over. -/
theorem Drained.perform (h : Drained s) (config : InventoryConfig) (call : InventoryCall) :
    Drained (call.perform config s) := by
  rcases scan_perform config s call with ⟨hscan, -⟩ | rfl | rfl | ⟨successful, generation, rfl⟩ |
    ⟨generation, rfl⟩ | rfl | ⟨g, rfl⟩
  · exact h.congr hscan
  · exact h.stop
  · exact drained_armScan config s
  · exact h.finishScan successful generation
  · exact h.expireScan generation
  · rcases s.acquireScanEvent_cases with heq | ⟨hrunning, heq⟩
    · rw [InventoryCall.perform, heq]
      exact h
    · -- A scan that is not finished is not complete.
      have hopen : s.scanComplete ≠ true := fun hc => absurd (hrunning.symm.trans (h.finished hc)) nofun
      rw [InventoryCall.perform, heq]
      exact ⟨fun hc => absurd hc hopen, fun hc => absurd hc hopen⟩
  · have hrest : (s.releaseScanEvent g).scanComplete = s.scanComplete ∧
        (s.releaseScanEvent g).scanFinished = s.scanFinished ∧
        (s.releaseScanEvent g).scanGeneration = s.scanGeneration := by
      unfold releaseScanEvent
      split <;> exact ⟨rfl, rfl, rfl⟩
    refine ⟨fun hc => hrest.2.1.trans (h.finished (hrest.1.symm.trans hc)), fun hc => ?_⟩
    have hzero := h.inflight (hrest.1.symm.trans hc)
    rw [InventoryCall.perform, inflight_releaseScanEvent, hrest.2.2]
    split
    · next hg => rw [← hg, hzero]
    · exact hzero

/-- The events of a thread are in flight, and so are those of the others. -/
theorem inflight_perform (config : InventoryConfig) {s : Inventory} {l : InventoryThread}
    {call : InventoryCall} (hallowed : call.allowed l) (hle : ∀ g, l.events.count g ≤ s.inflight g) (g : ℤ) :
    (call.perform config s).inflight g + l.events.count g =
      s.inflight g + (call.events s l.events).count g := by
  rcases scan_perform config s call with ⟨hscan, hevents⟩ | rfl | rfl | ⟨successful, generation, rfl⟩ |
    ⟨generation, rfl⟩ | rfl | ⟨released, rfl⟩
  · rw [hevents, inflight_congr hscan]
  · exact congrArg (· + _) (congrFun (inflight_stop s) g)
  · exact congrArg (· + _) (congrFun (inflight_armScan config s) g)
  · exact congrArg (· + _) (congrFun (inflight_finishScan s successful generation) g)
  · exact congrArg (· + _) (congrFun (inflight_expireScan s generation) g)
  · rcases s.acquireScanEvent_cases with heq | ⟨-, heq⟩
    · rw [InventoryCall.perform, InventoryCall.events, heq]
    · rw [InventoryCall.perform, InventoryCall.events, heq]
      dsimp only
      rw [inflight, OrderedDict.get_insert, List.count_cons]
      by_cases h : g = s.scanGeneration
      · rw [if_pos h, h, Option.getD_some, if_pos (beq_self_eq_true _), add_right_comm, add_assoc]
      · rw [if_neg h, if_neg fun heq => h (beq_iff_eq.1 heq).symm]
        rfl
  · have hmem : released ∈ l.events := of_decide_eq_true hallowed
    have hone := List.count_pos_iff.2 hmem
    have hheld := hle released
    rw [InventoryCall.perform, InventoryCall.events, inflight_releaseScanEvent, List.count_erase]
    by_cases h : g = released
    · rw [if_pos h, h, if_pos (beq_self_eq_true _)]
      omega
    · rw [if_neg h, if_neg fun heq => h (beq_iff_eq.1 heq).symm]
      rfl

/-! ## Calls for an older scan -/

/-- A call that carries another generation is seen to be stale. -/
theorem generationMatches_of_ne (h : g ≠ s.scanGeneration) : s.generationMatches (some g) = false :=
  decide_eq_false (by simpa using h)

/-- A call that carries the generation of another scan changes at most how many file events of that
    generation are in flight. -/
theorem view_of_stale (call : InventoryCall) (hcall : call.generation = some g)
    (hne : g ≠ s.scanGeneration) : (call.perform config s).view = s.view := by
  have hstale : (!s.generationMatches (some g)) = true := by rw [generationMatches_of_ne hne]; rfl
  -- Every section compares the generation before it changes anything that is seen.
  cases call with
  | stop | armScan | beginScan | waitUntilScanned | acquireScanEvent => nomatch hcall
  | setLibraryTotal label total generation =>
    obtain rfl : generation = some g := hcall
    exact congrArg view (if_pos (.inr (.inl hstale)))
  | recordCountedItem label path generation =>
    obtain rfl : generation = some g := hcall
    rw [InventoryCall.perform, recordCountedItem]
    split
    · rfl
    · exact congrArg view (if_pos (.inl hstale))
  | recordScanned label count generation =>
    obtain rfl : generation = some g := hcall
    exact congrArg view (if_pos (.inr (.inl hstale)))
  | recordScannedItem label path generation =>
    obtain rfl : generation = some g := hcall
    exact congrArg view (if_pos (.inl hstale))
  | recordScanError generation =>
    obtain rfl : generation = some g := hcall
    exact congrArg view (if_pos (.inl hstale))
  | markItemQueued path source generation =>
    obtain rfl : generation = some g := hcall
    rw [InventoryCall.perform, markItemQueued]
    split
    · rfl
    · rw [if_pos (.inr (.inl hstale))]
  | markItemObserved path generation =>
    obtain rfl : generation = some g := hcall
    rw [InventoryCall.perform, markItemObserved]
    split
    · rfl
    · rw [if_pos (.inr (.inl hstale))]
  | markItemCompleted path generation =>
    obtain rfl : generation = some g := hcall
    rw [InventoryCall.perform, markItemCompleted]
    split
    · rfl
    · rw [if_pos hstale]
  | markItemRemoved path generation =>
    obtain rfl : generation = some g := hcall
    rw [InventoryCall.perform, markItemRemoved]
    split
    · rfl
    · rw [if_pos hstale]
  | markItemMoved source destination generation =>
    obtain rfl : generation = some g := hcall
    rw [InventoryCall.perform, markItemMoved]
    split
    · rw [if_pos (.inr hstale)]
    · rfl
  | cancelItemQueue path generation =>
    obtain rfl : generation = some g := hcall
    rw [InventoryCall.perform, cancelItemQueue]
    split
    · rfl
    · rw [if_pos hstale]
  | finishScan successful generation =>
    obtain rfl : generation = some g := hcall
    rw [InventoryCall.perform, finishScan, if_pos hstale]
  | expireScan generation =>
    obtain rfl : generation = some g := hcall
    exact congrArg view (if_pos (.inl hstale))
  -- A release gives back an event of its own generation, whichever it is.
  | releaseScanEvent released =>
    rw [InventoryCall.perform, releaseScanEvent]
    split <;> rfl
  | closeScanEventCutoff generation =>
    obtain rfl : generation = some g := hcall
    exact congrArg view (if_neg (by rw [generationMatches_of_ne hne]; exact Bool.false_ne_true))
  | waitForScanEvents => rfl
  | reconcileFinalLibrary label paths generation =>
    obtain rfl : generation = g := Option.some.inj hcall
    exact congrArg view (if_pos (.inl hstale))

end Inventory

/-! ## Runs -/

/-- A thread that is in the wait of `finish_scan` waits for the scan that is current. -/
def InventoryThread.isCurrent (l : InventoryThread) (s : Inventory) : Bool :=
  match l.point with
  | .draining generation => generation = s.scanGeneration
  | _ => true

/-- The step, if no newer scan was armed while `finish_scan` was waiting. -/
def currentStep (config : InventoryConfig) (ch : InventoryChoice) (s : Inventory) (l : InventoryThread) :
    Option (Inventory × InventoryThread) :=
  if l.isCurrent s then inventoryStep config ch s l else none

/-- A step of the runs in which no scan is armed behind the back of a waiting `finish_scan`. -/
theorem currentStep_eq_some {config : InventoryConfig} {ch : InventoryChoice} {s s' : Inventory}
    {l l' : InventoryThread} (h : currentStep config ch s l = some (s', l')) :
    (∀ generation, l.point = .draining generation → generation = s.scanGeneration) ∧
      inventoryStep config ch s l = some (s', l') := by
  obtain ⟨hcurrent, hstep⟩ := Option.ite_none_right_eq_some.1 h
  refine ⟨fun generation hpoint => ?_, hstep⟩
  rw [InventoryThread.isCurrent, hpoint] at hcurrent
  exact of_decide_eq_true hcurrent

open Interleaving Inventory

/-- The scan is guarded and drained, and the file events that are in flight were admitted to threads
    that have not released them. -/
structure ScanInvariant (c : Config Inventory InventoryThread) : Prop where
  guarded : c.shared.Guarded
  drained : c.shared.Drained
  events : ∀ g, c.shared.inflight g = total (fun l => l.events.count g) c.locals

/-- One step keeps the scan guarded and drained, and what is in flight changes by what the thread
    admits or releases. -/
theorem scan_step {config : InventoryConfig} (henabled : config.enabled = true) {ch : InventoryChoice}
    {s s' : Inventory} {l l' : InventoryThread} (hguarded : s.Guarded) (hdrained : s.Drained)
    (hle : ∀ g, l.events.count g ≤ s.inflight g) (hstep : currentStep config ch s l = some (s', l')) :
    s'.Guarded ∧ s'.Drained ∧
      ∀ g, s'.inflight g + l.events.count g = s.inflight g + l'.events.count g := by
  obtain ⟨hcurrent, hstep⟩ := currentStep_eq_some hstep
  rcases step_of_inventoryStep hstep with ⟨_, hallowed⟩ | _ | _ | _ | hpoint | _
  · exact ⟨hguarded.perform henabled ch.call, hdrained.perform config ch.call,
      inflight_perform config hallowed hle⟩
  · exact ⟨hguarded, hdrained, fun _ => rfl⟩
  · exact ⟨guarded_armScan henabled s, drained_armScan config s, fun g =>
      congrArg (· + _) (congrFun (inflight_armScan config s) g)⟩
  · have hscan := scan_layOut s
    exact ⟨hguarded.congr (hscan _), hdrained.congr (hscan _), fun g =>
      congrArg (· + _) (congrFun (inflight_congr (hscan _)) g)⟩
  · -- The wait was for the events of the scan that is current.
    obtain rfl := hcurrent _ hpoint
    exact ⟨guarded_resumeFinish s _, drained_resumeFinish s, fun g =>
      congrArg (· + _) (congrFun (inflight_resumeFinish s _) g)⟩
  · exact ⟨hguarded.expireScan _, hdrained.expireScan _, fun g =>
      congrArg (· + _) (congrFun (inflight_expireScan s _) g)⟩

/-- Each such step keeps the invariant. -/
theorem ScanInvariant.moves {config : InventoryConfig} (henabled : config.enabled = true)
    {c c' : Config Inventory InventoryThread} {i : ℕ} {l l' : InventoryThread} (h : ScanInvariant c)
    (hmoves : Moves (ofStep (currentStep config)) c c' i l l') : ScanInvariant c' := by
  obtain ⟨ch, hstep⟩ := hmoves.step
  have hle : ∀ g, l.events.count g ≤ c.shared.inflight g := fun g => by
    rw [h.events g]
    exact held_le_total (fun l => l.events.count g) hmoves.thread
  obtain ⟨hguarded, hdrained, hbalance⟩ := scan_step henabled h.guarded h.drained hle hstep
  refine ⟨hguarded, hdrained, fun g => ?_⟩
  have hset := total_set (fun l => l.events.count g) hmoves.thread l'
  rw [hmoves.locals]
  linarith [hbalance g, h.events g]

/-- Along every run of any threads in which no newer scan is armed while a `finish_scan` waits: the
    barrier is closed as long as the scan is not finished, and then the scan has its watchdog; a step
    of a call for an older scan changes nothing that it must leave alone; and a scan is complete only
    if all the file events that it has admitted are released. -/
theorem scans_are_separate {config : InventoryConfig} (henabled : config.enabled = true) {n : ℕ}
    {c : Config Inventory InventoryThread}
    (h : Runs (ofStep (currentStep config)) ⟨.new, List.replicate n .start⟩ c) :
    c.shared.scanReady = c.shared.scanFinished ∧
    (c.shared.scanReady = false → c.shared.scanWatchdog = some c.shared.scanGeneration) ∧
    (∀ l ∈ c.locals, ∀ ch s' l' g, currentStep config ch c.shared l = some (s', l') →
      l.generation ch = some g → g < c.shared.scanGeneration → s'.view = c.shared.view) ∧
    (c.shared.scanComplete = true → ∀ l ∈ c.locals, c.shared.scanGeneration ∉ l.events) := by
  have hinv : ScanInvariant c := by
    refine h.invariant ⟨guarded_new, drained_new, fun g => ?_⟩ fun _ _ _ _ _ hc => hc.moves henabled
    simp [total, InventoryThread.start, inflight, Inventory.new]
  refine ⟨hinv.guarded.barrier, hinv.guarded.watched, ?_, fun hcomplete l hl hmem => ?_⟩
  · -- A step is bound to the generation that its thread carries, or that its call names.
    intro l _ ch s' l' g hstep hbound holder
    obtain ⟨hcurrent, hstep⟩ := currentStep_eq_some hstep
    rcases step_of_inventoryStep hstep with hpoint | _ | hpoint | hpoint | hpoint | hpoint
    · rw [InventoryThread.generation, hpoint] at hbound
      exact view_of_stale _ hbound holder.ne
    · rfl
    · rw [InventoryThread.generation, hpoint] at hbound
      cases hbound
    · rw [InventoryThread.generation, hpoint] at hbound
      cases hbound
    · rw [InventoryThread.generation, hpoint] at hbound
      obtain rfl := Option.some.inj hbound
      exact absurd (hcurrent _ hpoint) holder.ne
    · rw [InventoryThread.generation, hpoint] at hbound
      obtain rfl := Option.some.inj hbound
      exact @view_of_stale c.shared config _ (.expireScan (some _)) rfl holder.ne
  · -- An event that is held is counted, so the scan is not complete.
    obtain ⟨i, hi⟩ := List.mem_iff_getElem?.1 hl
    have hle := held_le_total (fun l => l.events.count c.shared.scanGeneration) hi
    have hzero := (hinv.events _).symm.trans (hinv.drained.inflight hcomplete)
    have hone := List.count_pos_iff.2 hmem
    omega

/-- A file event of a scan is over before the scan is. -/
theorem scans_are_separate_drained : ∃ c : Config Inventory InventoryThread,
    (c.shared.scanGeneration, c.shared.scanComplete) = (1, true) ∧
      ∀ l ∈ c.locals, c.shared.scanGeneration ∉ l.events := by
  have hexec : (exec (currentStep ⟨true, id⟩) ⟨.new, List.replicate 2 .start⟩
      [(0, ⟨.armScan, false⟩), (0, ⟨.acquireScanEvent, false⟩), (1, ⟨.finishScan true (some 1), false⟩),
        (0, ⟨.releaseScanEvent 1, false⟩), (1, ⟨.stop, false⟩)]).map
      (fun c => (c.shared.scanGeneration, c.shared.scanComplete)) = some (1, true) := by
    decide +kernel
  obtain ⟨c, hc, hscan⟩ := Option.map_eq_some_iff.1 hexec
  have hcomplete : c.shared.scanComplete = true := (Prod.mk.inj hscan).2
  have henabled : (⟨true, id⟩ : InventoryConfig).enabled = true := rfl
  have hruns : Runs (ofStep (currentStep ⟨true, id⟩)) ⟨.new, List.replicate 2 .start⟩ c :=
    runs_of_exec _ hc fun a _ _ _ _ h => ⟨a, h⟩
  exact ⟨c, hscan, (scans_are_separate henabled hruns).2.2.2 hcomplete⟩

/-- A scan admits a file event, `finish_scan` waits for it, and another scan is armed. When the wait is
    over, `finish_scan` opens the barrier of the other scan and cancels its watchdog. -/
theorem late_finish_ends_next_scan : ∃ (c : Config Inventory InventoryThread) (l l' : InventoryThread)
    (ch : InventoryChoice) (s' : Inventory),
    Runs (ofStep (inventoryStep ⟨true, id⟩)) ⟨.new, List.replicate 2 .start⟩ c ∧
    c.locals[1]? = some l ∧ inventoryStep ⟨true, id⟩ ch c.shared l = some (s', l') ∧
    l.generation ch = some 1 ∧ c.shared.scanGeneration = 2 ∧
    (c.shared.scanReady, c.shared.scanWatchdog) = (false, some 2) ∧
    (s'.scanReady, s'.scanWatchdog) = (true, none) := by
  let schedule : List (ℕ × InventoryChoice) :=
    [(0, ⟨.armScan, false⟩), (0, ⟨.acquireScanEvent, false⟩), (1, ⟨.finishScan true (some 1), false⟩),
      (0, ⟨.armScan, false⟩)]
  have hexec : exec (inventoryStep ⟨true, id⟩) ⟨.new, List.replicate 2 .start⟩ schedule =
    some ⟨_, [⟨.free, [1]⟩, ⟨.draining 1, []⟩]⟩ := rfl
  exact ⟨_, ⟨.draining 1, []⟩, _, ⟨.stop, false⟩, _, runs_of_exec _ hexec fun a _ _ _ _ h => ⟨a, h⟩,
    rfl, rfl, rfl, rfl, rfl, rfl⟩

end Subgen

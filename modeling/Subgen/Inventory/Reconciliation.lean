import Subgen.Inventory.Items
import Subgen.Lib.Binary64

/-!
# The end of a scan

How a library is counted anew (`reconcileFinalLibrary`), what becomes of the items that came while the
scan was running (`reconcileRuntimeAdditions`), and how the scan ends (`conclude`, `expireScan`). The
file events are counted by the generation that admitted them.

An event that was admitted before the cutoff may still be in a handler when the scan is about to end, so
`finish_scan` waits until none of them is left, or until its time is over; what it does behind the wait stands
in `resumeFinish`. The published snapshot (`snapshot`) lists the libraries with their numbers and says how far
the scan has come.
-/

namespace Subgen

/-- What is published of a library. -/
structure LibraryInventory where
  name : Text
  scanned : ℤ
  total : ℤ
  itemsLeft : ℤ
  deriving DecidableEq

/-- What is published. -/
structure InventorySnapshot where
  itemsLeft : ℤ
  scanPercent : ℚ
  scanComplete : Bool
  scanErrors : ℤ
  libraries : List LibraryInventory

namespace Inventory

variable (config : InventoryConfig) (s : Inventory)

/-! ## File events -/

/-- The file events of a generation that are under way. -/
def inflight (generation : ℤ) : ℕ := (s.scanIngressInflight.get generation).getD 0

/-- `acquire_scan_event`, with the generation that admits the event. -/
def acquireScanEvent : Inventory × Option ℤ :=
  if s.scanFinished ∨ !s.scanIngressOpen then (s, none)
  else
    ({ s with
        scanIngressInflight :=
          s.scanIngressInflight.insert s.scanGeneration (s.inflight s.scanGeneration + 1) },
      some s.scanGeneration)

/-- `release_scan_event`. -/
def releaseScanEvent (generation : ℤ) : Inventory :=
  if s.inflight generation ≤ 1 then
    { s with scanIngressInflight := s.scanIngressInflight.erase generation }
  else
    { s with
      scanIngressInflight := s.scanIngressInflight.insert generation (s.inflight generation - 1) }

/-- `close_scan_event_cutoff`. -/
def closeScanEventCutoff (generation : Option ℤ) : Inventory :=
  if s.generationMatches generation then { s with scanIngressOpen := false } else s

/-! ## Reconciliation -/

/-- The item is dropped when a library is counted anew. -/
def isDropped (label : Text) (keys : List ItemKey) (key : ItemKey) (item : PendingItem) : Bool :=
  item.label = label ∧ key ∉ keys ∧ key ∉ s.postCutoffRuntimeItems

/-- An item that does not wait any longer. -/
def dropItem (entry : ItemKey × PendingItem) : Inventory :=
  { s.forget entry.1 with pendingItems := s.pendingItems.erase entry.1 }

/-- An item that came while the scan was running, and that is in the library or came before the
    cutoff, is accounted for. -/
def settleRuntimeItem (label : Text) (keys : List ItemKey) (entry : ItemKey × Text) : Inventory :=
  if entry.2 = label ∧ (entry.1 ∈ keys ∨ entry.1 ∉ s.postCutoffRuntimeItems) then
    { s with
      runtimeItemsDuringScan := s.runtimeItemsDuringScan.erase entry.1
      postCutoffRuntimeItems := s.postCutoffRuntimeItems.erase entry.1 }
  else s

/-- The files of a library, without those that were removed behind the cutoff. -/
def finalKeys (paths : List (Option Text)) : List ItemKey :=
  (paths.filterMap (pathKey config.sha256)).dedup.filter (· ∉ s.postCutoffRemovedItems)

/-- The first loop of `reconcile_final_library`, and the next one. -/
def recountItems (label : Text) (keys : List ItemKey) : Inventory :=
  { s with
    countedItems := keys.foldl (fun counted key => counted.insert key label)
      (s.countedItems.filter fun key counted => counted ≠ label ∨ key ∈ keys) }

/-- The loop over the items that wait. -/
def dropPending (label : Text) (keys : List ItemKey) : Inventory :=
  (s.pendingItems.entries.filter fun entry => s.isDropped label keys entry.1 entry.2).foldl dropItem s

/-- The loop over the items that came while the scan was running. -/
def settleRuntimeItems (label : Text) (keys : List ItemKey) : Inventory :=
  s.runtimeItemsDuringScan.entries.foldl (fun s => s.settleRuntimeItem label keys) s

/-- The library has these files. -/
def recountLibrary (label : Text) (keys : List ItemKey) : Inventory :=
  { s with
    libraries := s.libraries.modify label fun l =>
      { l with
        total := keys.length
        scanned := keys.length
        itemsLeft := s.pendingItems.values.countP (·.label = label) }
    scanUnvisitedItems := (s.scanUnvisitedItems.setDefault label ∅).modify label fun _ => ∅
    scanSeenItems := s.scanSeenItems ∪ keys.toFinset }

/-- `reconcile_final_library`. -/
def reconcileFinalLibrary (label : Text) (paths : List (Option Text)) (generation : ℤ) : Inventory :=
  if !s.generationMatches (some generation) ∨ !s.libraries.contains label then s
  else
    let keys := s.finalKeys config paths
    (((s.recountItems label keys).dropPending label keys).settleRuntimeItems label keys).recountLibrary
      label keys

/-- An item that came while the scan was running is counted, unless it is counted already. -/
def countRuntimeItem (entry : ItemKey × Text) : Inventory :=
  if !s.libraries.contains entry.2 then s
  else
    let unvisited := s.scanUnvisitedItems.modify entry.2 (·.erase entry.1)
    if s.countedItems.contains entry.1 then { s with scanUnvisitedItems := unvisited }
    else if (s.scanUnvisitedItems.get entry.2).any (entry.1 ∈ ·) then
      { s with
        scanUnvisitedItems := unvisited
        libraries := s.libraries.modify entry.2 (addScanned 1)
        countedItems := s.countedItems.insert entry.1 entry.2 }
    else
      { s with
        libraries := s.libraries.modify entry.2 fun l =>
          { l with total := l.total + 1, scanned := l.scanned + 1 }
        countedItems := s.countedItems.insert entry.1 entry.2 }

/-- A library without the files that the scan has not visited. -/
def dropUnvisited (entry : Text × Finset ItemKey) : Inventory :=
  { s with
    libraries := s.libraries.modify entry.1 fun l =>
      { l with total := max l.scanned (l.total - entry.2.card) } }

/-- `_reconcile_runtime_additions_locked`. -/
def reconcileRuntimeAdditions (dropsUnvisited : Bool) : Inventory :=
  let counted := s.runtimeItemsDuringScan.entries.foldl countRuntimeItem s
  let dropped :=
    if dropsUnvisited then counted.scanUnvisitedItems.entries.foldl dropUnvisited counted else counted
  { dropped with
    runtimeItemsDuringScan := .empty
    postCutoffRuntimeItems := ∅
    postCutoffRemovedItems := ∅
    scanUnvisitedItems := .empty
    scanSeenItems := ∅
    unboundPendingPaths := .empty }

/-! ## The end -/

/-- The last part of `finish_scan`. -/
def conclude (successful : Bool) : Inventory :=
  let complete := successful && !s.scanCancelled
  { s.cancelWatchdog.reconcileRuntimeAdditions complete with
    scanComplete := complete
    scanFinished := true
    scanReady := true }

/-- The file events of a generation are over, or nobody waits for them. -/
def drained (generation : ℤ) : Bool := s.inflight generation = 0 ∨ s.scanCancelled

/-- `finish_scan`, up to its wait. It waits if there is a generation in the result. -/
def finishScan (successful : Bool) (generation : Option ℤ) : Inventory × Option ℤ :=
  if !s.generationMatches generation then (s, none)
  else
    let closed := { s with scanIngressOpen := false }
    if successful ∧ !s.scanCancelled ∧ !closed.drained s.scanGeneration then
      (closed, some s.scanGeneration)
    else (closed.conclude successful, none)

/-- `finish_scan`, behind its wait. The wait may have timed out. -/
def resumeFinish (generation : ℤ) : Inventory :=
  if s.drained generation then s.conclude true
  else { s with scanErrors := s.scanErrors + 1 }.conclude false

/-- `_expire_scan`. -/
def expireScan (generation : Option ℤ) : Inventory :=
  if !s.generationMatches generation ∨ s.scanFinished then s
  else
    let expired := { s.cancelWatchdog with scanCancelled := true, scanIngressOpen := false }
    { expired.reconcileRuntimeAdditions false with
      scanComplete := false
      scanFinished := true
      scanErrors := s.scanErrors + 1
      scanReady := true }

/-- The libraries of a snapshot. -/
def librarySnapshots : List LibraryInventory :=
  s.libraries.values.map fun l =>
    let total := max (max l.total l.scanned) l.itemsLeft
    ⟨l.name, min l.scanned total, total, l.itemsLeft⟩

/-- How much was scanned, in per cent with one decimal. The counts become floats, and each operation is
    rounded. -/
def percentOf (scanComplete : Bool) (libraries : List LibraryInventory) : ℚ :=
  let total := (libraries.map LibraryInventory.total).sum
  let scanned := (libraries.map fun l => min l.scanned l.total).sum
  if scanComplete then 100
  else if total ≤ 0 then 0
  else
    let percent := min 100 (Binary64.nearest (Binary64.nearest (Binary64.nearest scanned * 100) / Binary64.nearest total))
    Binary64.nearest (Binary64.roundEven (10 * percent) / 10)

/-- `_snapshot_locked`. -/
def snapshot : InventorySnapshot where
  itemsLeft := s.pendingItems.entries.length
  scanPercent := percentOf s.scanComplete s.librarySnapshots
  scanComplete := s.scanComplete
  scanErrors := s.scanErrors
  libraries := s.librarySnapshots

end Inventory

end Subgen

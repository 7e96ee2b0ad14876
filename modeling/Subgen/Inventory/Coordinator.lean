import Mathlib.Data.Finset.Card
import Mathlib.Data.Finset.Dedup
import Mathlib.Data.List.Sort
import Subgen.Inventory.Labels
import Subgen.Lib.OrderedDict

/-!
# The inventory

`InventoryCoordinator`: the libraries with their numbers, the items that wait in the queue, what a
scan has counted, and the state of the scan: its generation, the cutoff of the file events, the
watchdog and the barrier (`scanReady`). Each function is one section under the lock; a call that gives
the lock up in between is more than one of them.

What is published, and when, is left out, as the state is the same before and after it.
-/

namespace Subgen

/-- `_MutableLibrary`. -/
structure MutableLibrary where
  name : Text
  total : ℤ
  scanned : ℤ
  itemsLeft : ℤ
  deriving DecidableEq

/-- A library that has counted nothing. -/
def MutableLibrary.new (name : Text) : MutableLibrary := ⟨name, 0, 0, 0⟩

/-- `_PendingItem`. -/
structure PendingItem where
  label : Text
  countedAtEnqueue : Bool
  generation : Option ℤ
  deriving DecidableEq

/-- What the coordinator is given: whether it is enabled, and the hash. -/
structure InventoryConfig where
  enabled : Bool
  sha256 : List ℕ → ItemKey

/-- The labels of the libraries, and the roots with the labels. -/
abbrev LayoutSignature := List Text × List (Text × Text)

/-- The state of the coordinator. A watchdog is known by the generation it was made for. -/
structure Inventory where
  scanReady : Bool
  scanCancelled : Bool
  scanWatchdog : Option ℤ
  scanGeneration : ℤ
  scanIngressOpen : Bool
  scanIngressInflight : OrderedDict ℤ ℕ
  scanLayoutSignature : Option LayoutSignature
  libraries : OrderedDict Text MutableLibrary
  roots : List (Text × Text)
  pendingItems : OrderedDict ItemKey PendingItem
  unboundPendingPaths : OrderedDict ItemKey Text
  scanUnvisitedItems : OrderedDict Text (Finset ItemKey)
  runtimeItemsDuringScan : OrderedDict ItemKey Text
  postCutoffRuntimeItems : Finset ItemKey
  postCutoffRemovedItems : Finset ItemKey
  scanSeenItems : Finset ItemKey
  countedItems : OrderedDict ItemKey Text
  scanComplete : Bool
  scanFinished : Bool
  scanErrors : ℤ

/-- The label of what belongs to no library. -/
def otherLabel : Text := text "Other"

/-- What a library has, one item more and one item less. -/
def MutableLibrary.enqueued (counted : Bool) (l : MutableLibrary) : MutableLibrary :=
  let l := { l with itemsLeft := l.itemsLeft + 1 }
  if counted then { l with total := l.total + 1, scanned := l.scanned + 1 } else l

/-- One item fewer is left, but never fewer than none. -/
def MutableLibrary.dequeued (l : MutableLibrary) : MutableLibrary :=
  { l with itemsLeft := max 0 (l.itemsLeft - 1) }

namespace Inventory

/-- A coordinator is made. -/
def new : Inventory where
  scanReady := true
  scanCancelled := false
  scanWatchdog := none
  scanGeneration := 0
  scanIngressOpen := false
  scanIngressInflight := .empty
  scanLayoutSignature := none
  libraries := .empty
  roots := []
  pendingItems := .empty
  unboundPendingPaths := .empty
  scanUnvisitedItems := .empty
  runtimeItemsDuringScan := .empty
  postCutoffRuntimeItems := ∅
  postCutoffRemovedItems := ∅
  scanSeenItems := ∅
  countedItems := .empty
  scanComplete := true
  scanFinished := true
  scanErrors := 0

variable (config : InventoryConfig) (s : Inventory)

/-- `_generation_matches_locked`. -/
def generationMatches (generation : Option ℤ) : Bool :=
  generation = none ∨ generation = some s.scanGeneration

/-- `_label_for_normalized_path_locked`. -/
def labelForNormalizedPath (normalized : Option Text) : Option Text :=
  normalized.bind fun n =>
    (s.roots.find? fun root => n = root.1 ∨ root.1 ++ [47] <+: n).map Prod.snd

/-- `_label_for_path_locked`. -/
def labelForPath (path : Option Text) : Option Text := s.labelForNormalizedPath (normalizedPath path)

/-- `_cancel_watchdog_locked`. -/
def cancelWatchdog : Inventory := { s with scanWatchdog := none }

/-! ## Scans -/

/-- `stop`. -/
def stop : Inventory :=
  if s.scanFinished then s.cancelWatchdog
  else
    { s.cancelWatchdog with
      scanCancelled := true
      scanIngressOpen := false
      scanComplete := false
      scanFinished := true
      scanReady := true }

/-- `arm_scan`. -/
def armScan : Inventory where
  scanReady := false
  scanCancelled := false
  scanWatchdog := if config.enabled then some (s.scanGeneration + 1) else none
  scanGeneration := s.scanGeneration + 1
  scanIngressOpen := true
  scanIngressInflight := s.scanIngressInflight.setDefault (s.scanGeneration + 1) 0
  scanLayoutSignature := none
  libraries := .empty
  roots := []
  pendingItems := .empty
  unboundPendingPaths := .empty
  scanUnvisitedItems := .empty
  runtimeItemsDuringScan := .empty
  postCutoffRuntimeItems := ∅
  postCutoffRemovedItems := ∅
  scanSeenItems := ∅
  countedItems := .empty
  scanComplete := false
  scanFinished := false
  scanErrors := 0

/-- The scan is armed already, as `begin_scan` sees it. -/
def alreadyArmed : Bool := !s.scanFinished && !s.scanReady

end Inventory

/-- The arguments of `begin_scan`. -/
structure ScanLayout where
  paths : List (Option Text)
  mappedPaths : List (Option Text)
  libraryNames : List (Option Text)

/-- The labels that `begin_scan` has found, the roots and the libraries. -/
structure LayoutBindings where
  labels : List Text
  roots : List (Text × Text)
  libraries : OrderedDict Text MutableLibrary

namespace ScanLayout

variable (layout : ScanLayout)

/-- The name for the library of a path. -/
def base (index : ℕ) : Text :=
  match (layout.libraryNames.take layout.paths.length)[index]? with
  | some name => safeLabel name fallbackLabel
  | none => safeLabel (some (text "Library " ++ Json.printNat (index + 1))) fallbackLabel

/-- A path, and what it is mapped to. -/
def aliases (path : Option Text) (index : ℕ) : List (Option Text) :=
  match (layout.mappedPaths.take layout.paths.length)[index]? with
  | some mapped => [path, mapped]
  | none => [path]

/-- `t.rstrip("/")`. -/
def withoutSlashes (t : Text) : Text := (t.reverse.dropWhile (· = 47)).reverse

/-- One round of the loop of `begin_scan`. -/
def bindPath (found : LayoutBindings) (entry : Option Text × ℕ) : LayoutBindings :=
  let label := uniqueLibraryLabel (layout.base entry.2) found.labels
  { labels := found.labels ++ [label]
    roots := found.roots ++ ((layout.aliases entry.1 entry.2).filterMap normalizedPath).map
      fun normalized => (withoutSlashes normalized, label)
    libraries := found.libraries.insert label (.new label) }

/-- The longest roots come first. -/
def bindings : LayoutBindings :=
  let found := layout.paths.zipIdx.foldl layout.bindPath ⟨[], [], .empty⟩
  { found with roots := found.roots.mergeSort fun a b => b.1.length ≤ a.1.length }

end ScanLayout

namespace Inventory

variable (config : InventoryConfig) (s : Inventory)

/-- The label of an item in a new layout. -/
def reboundLabel (key : ItemKey) (item : PendingItem) : Text :=
  let label := match s.unboundPendingPaths.get key with
    | some hint => s.labelForNormalizedPath (some hint)
    | none => some item.label
  match label with
  | some label => if s.libraries.contains label then label else otherLabel
  | none => otherLabel

/-- An item is bound to a library of a new layout. Only the other items may need a library that is
    not there. -/
def rebind (entry : ItemKey × PendingItem) : Inventory :=
  let label := s.reboundLabel entry.1 entry.2
  { s with
    unboundPendingPaths := s.unboundPendingPaths.erase entry.1
    libraries := (s.libraries.setDefault label (.new label)).modify label (.enqueued false)
    pendingItems :=
      if label = entry.2.label then s.pendingItems
      else s.pendingItems.insert entry.1 { entry.2 with label := label }
    runtimeItemsDuringScan := s.runtimeItemsDuringScan.modify entry.1 fun _ => label }

/-- The last section of `begin_scan`. -/
def layOut (layout : ScanLayout) : Inventory :=
  let found := layout.bindings
  let signature := (found.labels, found.roots)
  if s.scanLayoutSignature = some signature then s
  else
    s.pendingItems.entries.foldl rebind
      { s with
        libraries := found.libraries
        roots := found.roots
        scanLayoutSignature := some signature }

/-! ## What a scan records -/

/-- `set_library_total`, of an integer. -/
def setLibraryTotal (label : Text) (total : ℤ) (generation : Option ℤ) : Inventory :=
  if total < 0 ∨ !s.generationMatches generation ∨ s.scanCancelled then s
  else { s with libraries := s.libraries.modify label fun l => { l with total := max total l.scanned } }

/-- `record_counted_item`. -/
def recordCountedItem (label : Text) (path : Option Text) (generation : Option ℤ) : Inventory :=
  match pathKey config.sha256 path with
  | none => s
  | some key =>
    if !s.generationMatches generation ∨ s.scanCancelled ∨ !s.libraries.contains label then s
    else
      { s with
        postCutoffRemovedItems := s.postCutoffRemovedItems.erase key
        scanUnvisitedItems := (s.scanUnvisitedItems.setDefault label ∅).modify label (insert key)
        countedItems := s.countedItems.insert key label }

/-- More of a library was scanned. -/
def addScanned (count : ℤ) (l : MutableLibrary) : MutableLibrary :=
  { l with scanned := l.scanned + count, total := max l.total (l.scanned + count) }

/-- `record_scanned`, of an integer. -/
def recordScanned (label : Text) (count : ℤ) (generation : Option ℤ) : Inventory :=
  if count ≤ 0 ∨ !s.generationMatches generation ∨ s.scanCancelled then s
  else { s with libraries := s.libraries.modify label (addScanned count) }

/-- `record_scanned_item`. -/
def recordScannedItem (label : Text) (path : Option Text) (generation : Option ℤ) : Inventory :=
  if !s.generationMatches generation ∨ s.scanCancelled ∨ !s.libraries.contains label then s
  else
    match pathKey config.sha256 path with
    | none => { s with libraries := s.libraries.modify label (addScanned 1) }
    | some key =>
      { s with
        scanUnvisitedItems := (s.scanUnvisitedItems.setDefault label ∅).modify label (·.erase key)
        runtimeItemsDuringScan := s.runtimeItemsDuringScan.erase key
        postCutoffRuntimeItems := s.postCutoffRuntimeItems.erase key
        postCutoffRemovedItems := s.postCutoffRemovedItems.erase key
        scanSeenItems := insert key s.scanSeenItems
        countedItems := s.countedItems.insert key label
        libraries := s.libraries.modify label (addScanned 1) }

/-- `record_scan_error`. -/
def recordScanError (generation : Option ℤ) : Inventory :=
  if !s.generationMatches generation ∨ s.scanCancelled then s
  else { s with scanErrors := s.scanErrors + 1 }

end Inventory

end Subgen

import Subgen.Inventory.Coordinator

/-!
# The items of the inventory

How items come into the inventory and leave it (`markItemQueued`, `markItemCompleted`,
`cancelItemQueue`), and how one is removed or moved (`markItemRemoved`, `markItemMoved`).

Each of these is the section of a method that runs under the lock, so that it is one step for every other
thread. An item is known by the key of its path, and its label is that of a library: of the root that the path
lies in, of the scan that has found it, or of the library for the other items. A library counts the items that
wait under its label, and an item that comes while a scan is running is noted as a runtime addition, to be
settled when the scan ends. What the sections have in common stands in small definitions (`enqueue`,
`dequeue`, `forget`, `transfer`) that the source has written out in each of them.
-/

namespace Subgen

namespace Inventory

variable (config : InventoryConfig) (s : Inventory)

/-! ## Items come and go -/

/-- The library of a path that belongs to no root is there from now on. -/
def bindLabel (path : Option Text) : Text × OrderedDict Text MutableLibrary :=
  match s.labelForPath path with
  | some label => (label, s.libraries)
  | none => (otherLabel, s.libraries.setDefault otherLabel (.new otherLabel))

/-- The item was put behind the cutoff, by no scan. -/
def isPostCutoff (generation : Option ℤ) : Bool := generation = none ∧ !s.scanIngressOpen

/-- An item that is found while a scan runs. -/
def addRuntimeItem (key : ItemKey) (label : Text) (generation : Option ℤ) : Inventory :=
  { s with
    runtimeItemsDuringScan := s.runtimeItemsDuringScan.insert key label
    postCutoffRuntimeItems :=
      if s.isPostCutoff generation then insert key s.postCutoffRuntimeItems
      else s.postCutoffRuntimeItems }

/-- The path of an item that no root has yet is kept while a scan runs. -/
def keepUnbound (key : ItemKey) (path : Option Text) : OrderedDict ItemKey Text :=
  match normalizedPath path with
  | some normalized =>
    if s.labelForPath path = none ∧ !s.scanFinished then s.unboundPendingPaths.insert key normalized
    else s.unboundPendingPaths
  | none => s.unboundPendingPaths

/-- `mark_item_queued`, of an item that does not wait. The label of a root has a library. -/
def enqueue (key : ItemKey) (path : Option Text) (source : Text) (generation : Option ℤ) : Inventory :=
  let (label, libraries) := s.bindLabel path
  let counted := s.scanFinished && !s.countedItems.contains key
  let s' : Inventory :=
    { s with
      postCutoffRemovedItems := s.postCutoffRemovedItems.erase key
      unboundPendingPaths := s.keepUnbound key path
      pendingItems := s.pendingItems.insert key ⟨label, counted, generation⟩
      libraries := libraries.modify label (.enqueued counted) }
  if counted then { s' with countedItems := s'.countedItems.insert key label }
  else if source ≠ text "startup_scan" then s'.addRuntimeItem key label generation
  else s'

theorem pendingItems_enqueue (s : Inventory) (key : ItemKey) (path : Option Text) (source : Text)
    (generation : Option ℤ) :
    ∃ item, (s.enqueue key path source generation).pendingItems = s.pendingItems.insert key item := by
  unfold enqueue
  dsimp only
  split
  · exact ⟨_, rfl⟩
  · split
    · exact ⟨_, rfl⟩
    · exact ⟨_, rfl⟩

/-- `mark_item_queued`, with its answer. -/
def markItemQueued (path : Option Text) (source : Text) (generation : Option ℤ) : Inventory × Bool :=
  match pathKey config.sha256 path with
  | none => (s, false)
  | some key =>
    if !config.enabled ∨ !s.generationMatches generation ∨ s.pendingItems.contains key then (s, false)
    else (s.enqueue key path source generation, true)

/-- `mark_item_observed`, of an item that is not counted. -/
def observe (key : ItemKey) (path : Option Text) (generation : Option ℤ) : Inventory :=
  let (label, libraries) := s.bindLabel path
  let s' : Inventory :=
    { s with
      postCutoffRemovedItems := s.postCutoffRemovedItems.erase key
      libraries := libraries }
  if s.scanFinished then
    { s' with
      countedItems := s'.countedItems.insert key label
      libraries := libraries.modify label fun l => { l with total := l.total + 1, scanned := l.scanned + 1 } }
  else s'.addRuntimeItem key label generation

/-- `mark_item_observed`, with its answer. -/
def markItemObserved (path : Option Text) (generation : Option ℤ) : Inventory × Bool :=
  match pathKey config.sha256 path with
  | none => (s, false)
  | some key =>
    if !config.enabled ∨ !s.generationMatches generation ∨ s.countedItems.contains key ∨
      s.runtimeItemsDuringScan.contains key then (s, false)
    else (s.observe key path generation, true)

/-- What is known of an item that waits is dropped. -/
def forget (key : ItemKey) : Inventory :=
  { s with
    unboundPendingPaths := s.unboundPendingPaths.erase key
    runtimeItemsDuringScan := s.runtimeItemsDuringScan.erase key
    postCutoffRuntimeItems := s.postCutoffRuntimeItems.erase key }

/-- An item does not wait any longer. -/
def dequeue (key : ItemKey) : Option PendingItem → Inventory
  | none => s
  | some item =>
    { s with
      pendingItems := s.pendingItems.erase key
      libraries := s.libraries.modify item.label .dequeued }

/-- `mark_item_completed`, with its answer. -/
def markItemCompleted (path : Option Text) (generation : Option ℤ) : Inventory × Bool :=
  match pathKey config.sha256 path with
  | none => (s, false)
  | some key =>
    if !s.generationMatches generation then (s, false)
    else
      match s.pendingItems.get key with
      | none => (s, false)
      | some item => ((s.dequeue key (some item)).forget key, true)

/-- An item that was counted is taken back. -/
def takeBack (label : Text) (key : ItemKey) : Inventory :=
  { s with
    countedItems := s.countedItems.erase key
    libraries := s.libraries.modify label fun l =>
      { l with total := max 0 (l.total - 1), scanned := max 0 (l.scanned - 1) } }

/-- `cancel_item_queue`, with its answer. -/
def cancelItemQueue (path : Option Text) (generation : Option ℤ) : Inventory × Bool :=
  match pathKey config.sha256 path with
  | none => (s, false)
  | some key =>
    if !s.generationMatches generation then (s, false)
    else
      match s.pendingItems.get key with
      | none => (s, false)
      | some item =>
        let s' := (s.dequeue key (some item)).forget key
        -- Without a library nothing is taken back.
        if item.countedAtEnqueue ∧ s.libraries.contains item.label then (s'.takeBack item.label key, true)
        else (s', true)

/-! ## Items are removed and moved -/

/-- The key leaves the state of the scan. -/
def leaveScan (key : ItemKey) : Inventory :=
  { s.forget key with
    scanSeenItems := s.scanSeenItems.erase key
    scanUnvisitedItems := s.scanUnvisitedItems.mapValues (·.erase key)
    countedItems := s.countedItems.erase key }

/-- A removal behind the cutoff of a scan that is running. -/
def noteRemoved (key : ItemKey) (known : Bool) (generation : Option ℤ) : Inventory :=
  if s.isPostCutoff generation ∧ !s.scanFinished ∧ known then
    { s with postCutoffRemovedItems := insert key s.postCutoffRemovedItems }
  else s

/-- A library has one item less. -/
def uncount (wasScanned : Bool) (l : MutableLibrary) : MutableLibrary :=
  let total := max 0 (l.total - 1)
  let scanned := if wasScanned then max 0 (l.scanned - 1) else l.scanned
  { l with total := total, scanned := min scanned total }

/-- `a or b`, of a label that may be there. -/
def orElseLabel (a b : Option Text) : Option Text :=
  match a with
  | some label => if label = [] then b else some label
  | none => b

/-- The library of an item that leaves. -/
def leavingLabel (key : ItemKey) (path : Option Text) : Option Text :=
  match s.pendingItems.get key with
  | some item => some item.label
  | none => orElseLabel (s.countedItems.get key) (s.labelForPath path)

/-- The scan has seen the item, or it is over. -/
def wasScanned (key : ItemKey) : Bool := s.scanFinished ∨ key ∈ s.scanSeenItems

/-- The item waits, or it was counted. -/
def isKnown (key : ItemKey) : Bool := s.pendingItems.contains key ∨ s.countedItems.contains key

/-- `mark_item_removed`, with its answer. -/
def markItemRemoved (path : Option Text) (generation : Option ℤ) : Inventory × Bool :=
  match pathKey config.sha256 path with
  | none => (s, false)
  | some key =>
    if !s.generationMatches generation then (s, false)
    else
      let s' := ((s.dequeue key (s.pendingItems.get key)).leaveScan key).noteRemoved key (s.isKnown key)
        generation
      match s.leavingLabel key path, s.countedItems.get key with
      | some label, some _ =>
        ({ s' with libraries := s'.libraries.modify label (uncount (s.wasScanned key)) }, true)
      | _, _ => (s', s.isKnown key)

/-- The count of an item that was moved goes to where it is now. -/
def transfer (source destination : ItemKey) (counted destinationLabel : Text) (before : Inventory)
    (generation : Option ℤ) : Inventory :=
  if !s.libraries.contains destinationLabel then s
  else
    let wasScanned := before.wasScanned source
    let wasUnvisited := before.scanUnvisitedItems.values.any (source ∈ ·)
    let s' : Inventory :=
      { s with
        libraries :=
          if counted = destinationLabel then s.libraries
          else
            s.libraries.modify destinationLabel fun l =>
              { l with total := l.total + 1, scanned := if wasScanned then l.scanned + 1 else l.scanned }
        countedItems := s.countedItems.insert destination destinationLabel
        postCutoffRemovedItems := s.postCutoffRemovedItems.erase destination
        scanSeenItems := if wasScanned then insert destination s.scanSeenItems else s.scanSeenItems
        scanUnvisitedItems :=
          if !wasScanned ∧ wasUnvisited ∧ !s.scanFinished then
            (s.scanUnvisitedItems.setDefault destinationLabel ∅).modify destinationLabel
              (insert destination)
          else s.scanUnvisitedItems }
    if s.scanFinished then s' else s'.addRuntimeItem destination destinationLabel generation

/-- The count of an item that was moved leaves the library it was in. -/
def uncountMoved (source : ItemKey) (counted : Text) (transferred : Option Text) (before : Inventory) :
    Inventory :=
  if transferred = some counted then s
  else { s with libraries := s.libraries.modify counted (uncount (before.wasScanned source)) }

/-- `mark_item_moved`, with its answer. The count is transferred to a library that does not count the
    destination already. -/
def markItemMoved (sourcePath destinationPath : Option Text) (generation : Option ℤ) :
    Inventory × Bool :=
  match pathKey config.sha256 sourcePath, pathKey config.sha256 destinationPath with
  | some source, some destination =>
    if source = destination ∨ !s.generationMatches generation then (s, false)
    else
      let s' := ((s.dequeue source (s.pendingItems.get source)).leaveScan source).noteRemoved source
        (s.isKnown source) generation
      match s.countedItems.get source with
      | none => (s', s.isKnown source)
      | some counted =>
        let transferred :=
          if s.countedItems.contains destination then none else s.labelForPath destinationPath
        let s' := s'.uncountMoved source counted transferred s
        match transferred with
        | none => (s', true)
        | some label => (s'.transfer source destination counted label s generation, true)
  | _, _ => (s, false)

end Inventory

end Subgen

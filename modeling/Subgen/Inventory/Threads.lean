import Subgen.Inventory.Reconciliation
import Subgen.Lib.Interleaving

/-!
# The threads of the inventory

Where a thread stands in a call of the coordinator (`InventoryPoint`), and what its next step does
(`inventoryStep`). A step is one section under the lock, or one look at an event outside of it. A
thread that waits under the condition may go on at any time, as its wait may time out.

Most calls are one section, and are at an end behind it (`InventoryCall`). Some are more than one: a scan that
begins looks at its cancellation in between, the end of a scan waits for the file events that were admitted,
and who waits until the library is scanned waits at the barrier. In between any other thread may take the
lock, and arm another scan.

A thread releases only the file events that were admitted to it. The timer of a watchdog is a thread
that calls `_expire_scan`.

* `InventoryThread`: the point, and the events that were admitted;
* `generation`: the generation that a step is bound to, if it is bound to one;
* `step_of_inventoryStep`: every step is a section of the coordinator, or leaves it as it is.
-/

namespace Subgen

/-- The calls of the coordinator. A call that only reads is left out. -/
inductive InventoryCall
  | stop
  | armScan
  | beginScan (layout : ScanLayout)
  | setLibraryTotal (label : Text) (total : ℤ) (generation : Option ℤ)
  | recordCountedItem (label : Text) (path : Option Text) (generation : Option ℤ)
  | recordScanned (label : Text) (count : ℤ) (generation : Option ℤ)
  | recordScannedItem (label : Text) (path : Option Text) (generation : Option ℤ)
  | recordScanError (generation : Option ℤ)
  | markItemQueued (path : Option Text) (source : Text) (generation : Option ℤ)
  | markItemObserved (path : Option Text) (generation : Option ℤ)
  | markItemCompleted (path : Option Text) (generation : Option ℤ)
  | markItemRemoved (path : Option Text) (generation : Option ℤ)
  | markItemMoved (source destination : Option Text) (generation : Option ℤ)
  | cancelItemQueue (path : Option Text) (generation : Option ℤ)
  | finishScan (successful : Bool) (generation : Option ℤ)
  | expireScan (generation : Option ℤ)
  | waitUntilScanned (fallback : Bool)
  | acquireScanEvent
  | releaseScanEvent (generation : ℤ)
  | closeScanEventCutoff (generation : Option ℤ)
  | waitForScanEvents (generation : ℤ)
  | reconcileFinalLibrary (label : Text) (paths : List (Option Text)) (generation : ℤ)

/-- Where a thread stands. -/
inductive InventoryPoint
  | free
  -- `begin_scan`, of a scan that is not armed, and before its last section.
  | lookingAtCancellation (layout : ScanLayout)
  | arming (layout : ScanLayout)
  | layingOut (layout : ScanLayout)
  -- In the waits of `finish_scan` and `wait_for_scan_events`.
  | draining (generation : ℤ)
  | watching (generation : ℤ)
  -- `wait_until_scanned`, at the barrier and behind it.
  | waiting (generation : ℤ) (fallback : Bool)
  | expiring (generation : ℤ)

/-- A thread, with the generations of the file events that were admitted to it. -/
structure InventoryThread where
  point : InventoryPoint
  events : List ℤ

namespace InventoryThread

/-- A thread that has called nothing yet. -/
def start : InventoryThread := ⟨.free, []⟩

/-- In no call. -/
def returned (l : InventoryThread) : InventoryThread := { l with point := .free }

end InventoryThread

/-- What a thread does next: the call that it makes, if it is in none, and whether a wait at the
    barrier times out. -/
structure InventoryChoice where
  call : InventoryCall
  timesOut : Bool

namespace InventoryCall

variable (config : InventoryConfig) (s : Inventory)

/-- What the first section of a call makes of the state. -/
def perform : InventoryCall → Inventory
  | stop => s.stop
  | armScan => s.armScan config
  | beginScan _ => s
  | setLibraryTotal label total generation => s.setLibraryTotal label total generation
  | recordCountedItem label path generation => s.recordCountedItem config label path generation
  | recordScanned label count generation => s.recordScanned label count generation
  | recordScannedItem label path generation => s.recordScannedItem config label path generation
  | recordScanError generation => s.recordScanError generation
  | markItemQueued path source generation => (s.markItemQueued config path source generation).1
  | markItemObserved path generation => (s.markItemObserved config path generation).1
  | markItemCompleted path generation => (s.markItemCompleted config path generation).1
  | markItemRemoved path generation => (s.markItemRemoved config path generation).1
  | markItemMoved source destination generation => (s.markItemMoved config source destination generation).1
  | cancelItemQueue path generation => (s.cancelItemQueue config path generation).1
  | finishScan successful generation => (s.finishScan successful generation).1
  | expireScan generation => s.expireScan generation
  | waitUntilScanned _ => s
  | acquireScanEvent => s.acquireScanEvent.1
  | releaseScanEvent generation => s.releaseScanEvent generation
  | closeScanEventCutoff generation => s.closeScanEventCutoff generation
  | waitForScanEvents _ => s
  | reconcileFinalLibrary label paths generation => s.reconcileFinalLibrary config label paths generation

/-- Where the call goes on, if one section is not all of it. -/
def point : InventoryCall → InventoryPoint
  | beginScan layout => if s.alreadyArmed then .layingOut layout else .lookingAtCancellation layout
  | finishScan successful generation =>
    match (s.finishScan successful generation).2 with
    | some generation => .draining generation
    | none => .free
  | waitUntilScanned fallback => .waiting s.scanGeneration fallback
  | waitForScanEvents generation =>
    if !s.generationMatches (some generation) ∨ s.drained generation then .free
    else .watching generation
  | _ => .free

/-- The file events that are admitted to the thread from then on. -/
def events (events : List ℤ) : InventoryCall → List ℤ
  | acquireScanEvent =>
    match s.acquireScanEvent.2 with
    | some generation => generation :: events
    | none => events
  | releaseScanEvent generation => events.erase generation
  | _ => events

/-- Only a file event that was admitted is released. -/
def allowed (l : InventoryThread) : InventoryCall → Bool
  | releaseScanEvent generation => generation ∈ l.events
  | _ => true

/-- The generation that a call carries. -/
def generation : InventoryCall → Option ℤ
  | setLibraryTotal _ _ generation => generation
  | recordCountedItem _ _ generation => generation
  | recordScanned _ _ generation => generation
  | recordScannedItem _ _ generation => generation
  | recordScanError generation => generation
  | markItemQueued _ _ generation => generation
  | markItemObserved _ generation => generation
  | markItemCompleted _ generation => generation
  | markItemRemoved _ generation => generation
  | markItemMoved _ _ generation => generation
  | cancelItemQueue _ generation => generation
  | finishScan _ generation => generation
  | expireScan generation => generation
  | releaseScanEvent generation => some generation
  | closeScanEventCutoff generation => generation
  | waitForScanEvents generation => some generation
  | reconcileFinalLibrary _ _ generation => some generation
  | _ => none

end InventoryCall

/-- The generation that a thread is bound to: that of the call it is in, or makes. -/
def InventoryThread.generation (ch : InventoryChoice) (l : InventoryThread) : Option ℤ :=
  match l.point with
  | .free => ch.call.generation
  | .draining generation | .watching generation | .waiting generation _ | .expiring generation =>
    some generation
  | .lookingAtCancellation _ | .arming _ | .layingOut _ => none

/-- The next step of a thread. -/
def inventoryStep (config : InventoryConfig) (ch : InventoryChoice) (s : Inventory)
    (l : InventoryThread) : Option (Inventory × InventoryThread) :=
  match l.point with
  | .free =>
    if ch.call.allowed l then
      some (ch.call.perform config s, ⟨ch.call.point s, ch.call.events s l.events⟩)
    else none
  | .lookingAtCancellation layout =>
    some (s, { l with point := if s.scanCancelled then .layingOut layout else .arming layout })
  | .arming layout => some (s.armScan config, { l with point := .layingOut layout })
  | .layingOut layout => some (s.layOut layout, l.returned)
  | .draining generation => some (s.resumeFinish generation, l.returned)
  | .watching _ => some (s, l.returned)
  | .waiting generation fallback =>
    if s.scanReady then some (s, l.returned)
    else if ch.timesOut then
      some (s, if fallback then { l with point := .expiring generation } else l.returned)
    else none
  | .expiring generation => some (s.expireScan (some generation), l.returned)

/-- What one step can do. -/
inductive InventoryStep (config : InventoryConfig) (ch : InventoryChoice) (s : Inventory)
    (l : InventoryThread) : Inventory → InventoryThread → Prop
  | called (hpoint : l.point = .free) (hallowed : ch.call.allowed l) :
    InventoryStep config ch s l (ch.call.perform config s) ⟨ch.call.point s, ch.call.events s l.events⟩
  | looked {point : InventoryPoint} (hpoint : ∀ generation, point ≠ .draining generation) :
    InventoryStep config ch s l s { l with point := point }
  | armed {layout : ScanLayout} (hpoint : l.point = .arming layout) :
    InventoryStep config ch s l (s.armScan config) { l with point := .layingOut layout }
  | laidOut {layout : ScanLayout} (hpoint : l.point = .layingOut layout) :
    InventoryStep config ch s l (s.layOut layout) l.returned
  | finished {generation : ℤ} (hpoint : l.point = .draining generation) :
    InventoryStep config ch s l (s.resumeFinish generation) l.returned
  | expired {generation : ℤ} (hpoint : l.point = .expiring generation) :
    InventoryStep config ch s l (s.expireScan (some generation)) l.returned

theorem step_of_inventoryStep {config : InventoryConfig} {ch : InventoryChoice} {s s' : Inventory}
    {l l' : InventoryThread} (h : inventoryStep config ch s l = some (s', l')) :
    InventoryStep config ch s l s' l' := by
  unfold inventoryStep at h
  split at h
  · next hpoint =>
    obtain ⟨hallowed, heq⟩ := Option.ite_none_right_eq_some.1 h
    obtain ⟨rfl, rfl⟩ := Prod.mk.inj (Option.some.inj heq)
    exact .called hpoint hallowed
  · obtain ⟨rfl, rfl⟩ := Prod.mk.inj (Option.some.inj h)
    refine .looked fun _ => ?_
    split <;> nofun
  · next hpoint =>
    obtain ⟨rfl, rfl⟩ := Prod.mk.inj (Option.some.inj h)
    exact .armed hpoint
  · next hpoint =>
    obtain ⟨rfl, rfl⟩ := Prod.mk.inj (Option.some.inj h)
    exact .laidOut hpoint
  · next hpoint =>
    obtain ⟨rfl, rfl⟩ := Prod.mk.inj (Option.some.inj h)
    exact .finished hpoint
  · obtain ⟨rfl, rfl⟩ := Prod.mk.inj (Option.some.inj h)
    exact .looked nofun
  · split at h
    · obtain ⟨rfl, rfl⟩ := Prod.mk.inj (Option.some.inj h)
      exact .looked nofun
    · obtain ⟨-, heq⟩ := Option.ite_none_right_eq_some.1 h
      obtain ⟨rfl, rfl⟩ := Prod.mk.inj (Option.some.inj heq)
      split
      · exact .looked nofun
      · exact .looked nofun
  · next hpoint =>
    obtain ⟨rfl, rfl⟩ := Prod.mk.inj (Option.some.inj h)
    exact .expired hpoint

end Subgen
